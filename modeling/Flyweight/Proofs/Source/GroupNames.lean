import Flyweight.Proofs.Source.Forest

/- The names of groups.

   The struct of a group is named by the type names on the path to the group, with nothing between
   them, so where one of them ends cannot be told from the whole. This file

   1. says when a group is inside another one, and when two groups cross: one is inside a group
      whose type name begins that of a sibling, and the other is that sibling or inside it;
   2. shows that groups of one name cross (`pairwise_crosses`), and that no group has the name of
      the message, if siblings have different type names and none of them is empty;
   3. concludes that the names of all structs of a message are different, unless a group with
      groups inside has a type name that begins a sibling's (`names_of_groups`). -/

namespace Flyweight.Source

/-- The type name of a group on its own. -/
def GroupHead.typeName (g : GroupHead) : String := Identifier.typeName g.name

/-- The type name of the one group begins that of the other, which is longer. -/
def GroupHead.Begins (g h : GroupHead) : Prop :=
  g.typeName.toList <+: h.typeName.toList ∧ g.typeName ≠ h.typeName

instance (g h : GroupHead) : Decidable (g.Begins h) :=
  inferInstanceAs (Decidable (_ ∧ _))

namespace GroupVisit

/-- What the path of a group adds to the name of the owner of the forest. -/
def ending (v : GroupVisit) : String := String.join (v.path.map Identifier.typeName)

/-- The group is inside the other one, at any depth. -/
def Inside (v around : GroupVisit) : Prop :=
  ∃ w ∈ around.inside.preorder, v = { w with path := around.path ++ w.path }

/-- The groups are directly inside the same group, or inside none. -/
def Siblings (v w : GroupVisit) : Prop := v.path.dropLast = w.path.dropLast

instance (v w : GroupVisit) : Decidable (v.Siblings w) :=
  inferInstanceAs (Decidable (_ = _))

theorem ending_under (name : String) (v : GroupVisit) :
    (v.under name).ending = Identifier.typeName name ++ v.ending := by
  rw [ending, under, List.map_cons, String.join_cons]
  rfl

/-- A group that is not inside another one has its own type name only. -/
theorem ending_of_root {v : GroupVisit} (root : v.path = [v.head.name]) :
    v.ending = v.head.typeName := by
  rw [ending, root, List.map_singleton, String.join_cons, String.join_nil, String.append_empty]
  rfl

/-- The name of a group begins that of every group inside. -/
theorem ending_of_inside {v around : GroupVisit} (h : v.Inside around) :
    ∃ more, v.ending = around.ending ++ more := by
  obtain ⟨w, -, rfl⟩ := h
  refine ⟨w.ending, ?_⟩
  rw [ending, List.map_append, String.join_append]
  rfl

theorem Inside.under {v around : GroupVisit} (h : v.Inside around) (name : String) :
    (v.under name).Inside (around.under name) := by
  obtain ⟨w, mem, rfl⟩ := h
  exact ⟨w, mem, rfl⟩

end GroupVisit

namespace GroupForest

/-- Siblings have different type names. -/
def SiblingsDiffer : GroupForest → Prop
  | nil => True
  | cons head inside behind =>
    (∀ sibling ∈ behind.roots, head.typeName ≠ sibling.typeName) ∧
      inside.SiblingsDiffer ∧ behind.SiblingsDiffer

/-- No type name is empty. -/
def Named (forest : GroupForest) : Prop := ∀ v ∈ forest.preorder, v.head.typeName ≠ ""

/-- The first group is inside a group whose type name begins that of a sibling, and the second one
is that sibling or inside it. -/
def Crosses (forest : GroupForest) (v w : GroupVisit) : Prop :=
  ∃ a ∈ forest.preorder, ∃ b ∈ forest.preorder, a.Siblings b ∧ a.head.Begins b.head ∧
    v.Inside a ∧ (w = b ∨ w.Inside b)

/-- No group with groups inside has a type name that begins a sibling's. -/
def NoneBegins (forest : GroupForest) : Prop :=
  ∀ a ∈ forest.preorder, ∀ b ∈ forest.preorder, a.Siblings b → a.inside ≠ nil →
    ¬ a.head.Begins b.head

/-! ## Roots -/

theorem mem_preorder_cons {head : GroupHead} {inside behind : GroupForest} {v : GroupVisit} :
    v ∈ (cons head inside behind).preorder ↔
      v = ⟨[head.name], head, inside⟩ ∨ (∃ w ∈ inside.preorder, w.under head.name = v) ∨
        v ∈ behind.preorder := by
  rw [preorder, List.mem_append, List.mem_cons, List.mem_map, or_assoc]

theorem mem_root (head : GroupHead) (inside behind : GroupForest) :
    ⟨[head.name], head, inside⟩ ∈ (cons head inside behind).preorder :=
  mem_preorder_cons.mpr (.inl rfl)

theorem mem_inside (head : GroupHead) {inside : GroupForest} (behind : GroupForest)
    {v : GroupVisit} (mem : v ∈ inside.preorder) :
    v.under head.name ∈ (cons head inside behind).preorder :=
  mem_preorder_cons.mpr (.inr (.inl ⟨v, mem, rfl⟩))

theorem mem_behind (head : GroupHead) (inside : GroupForest) {behind : GroupForest}
    {v : GroupVisit} (mem : v ∈ behind.preorder) : v ∈ (cons head inside behind).preorder :=
  mem_preorder_cons.mpr (.inr (.inr mem))

/-- Every group is a root of the forest or inside one. -/
theorem exists_root {forest : GroupForest} {v : GroupVisit} (mem : v ∈ forest.preorder) :
    ∃ root ∈ forest.preorder, root.path = [root.head.name] ∧ root.head ∈ forest.roots ∧
      (v = root ∨ v.Inside root) := by
  induction forest with
  | nil => exact nomatch mem
  | cons head inside behind _ ihBehind =>
    have root := mem_root head inside behind
    rcases mem_preorder_cons.mp mem with rfl | ⟨w, nested, rfl⟩ | later
    · exact ⟨_, root, rfl, List.mem_cons_self, .inl rfl⟩
    · exact ⟨_, root, rfl, List.mem_cons_self, .inr ⟨w, nested, rfl⟩⟩
    · obtain ⟨root', mem', path, first, within⟩ := ihBehind later
      exact ⟨root', mem_behind head inside mem', path, List.mem_cons_of_mem _ first, within⟩

/-- The type name of a root begins the names of the groups inside. -/
theorem prefix_ending {v root : GroupVisit} (path : root.path = [root.head.name])
    (within : v = root ∨ v.Inside root) : root.head.typeName.toList <+: v.ending.toList := by
  rw [← GroupVisit.ending_of_root path]
  rcases within with rfl | inside
  · exact List.prefix_rfl
  · obtain ⟨more, longer⟩ := GroupVisit.ending_of_inside inside
    rw [longer, String.toList_append]
    exact List.prefix_append _ _

theorem ending_ne_empty {forest : GroupForest} (named : forest.Named) {v : GroupVisit}
    (mem : v ∈ forest.preorder) : v.ending ≠ "" := by
  intro empty
  obtain ⟨root, first, path, -, within⟩ := exists_root mem
  have nothing := prefix_ending path within
  rw [empty] at nothing
  exact named root first (String.toList_inj.mp (List.prefix_nil.mp nothing))

theorem path_ne_nil {forest : GroupForest} {v : GroupVisit} (mem : v ∈ forest.preorder) :
    v.path ≠ [] := by
  intro empty
  obtain ⟨root, -, path, -, rfl | ⟨w, -, rfl⟩⟩ := exists_root mem
  · exact nomatch path.symm.trans empty
  · rw [path] at empty
    exact nomatch empty

/-! ## Crossing -/

theorem Crosses.behind {head : GroupHead} {inside behind : GroupForest} {v w : GroupVisit}
    (h : behind.Crosses v w) : (cons head inside behind).Crosses v w := by
  obtain ⟨a, ha, b, hb, crossing⟩ := h
  exact ⟨a, mem_behind head inside ha, b, mem_behind head inside hb, crossing⟩

theorem Crosses.inside {head : GroupHead} {inside behind : GroupForest} {v w : GroupVisit}
    (h : inside.Crosses v w) :
    (cons head inside behind).Crosses (v.under head.name) (w.under head.name) := by
  obtain ⟨a, ha, b, hb, siblings, begins, hv, hw⟩ := h
  refine ⟨a.under head.name, mem_inside head behind ha, b.under head.name,
    mem_inside head behind hb, ?_, begins, hv.under _, ?_⟩
  · show (head.name :: a.path).dropLast = (head.name :: b.path).dropLast
    rw [List.dropLast_cons_of_ne_nil (path_ne_nil ha),
      List.dropLast_cons_of_ne_nil (path_ne_nil hb), siblings]
  · exact hw.imp (congrArg _) fun inside => inside.under _

/-- Two groups of one name at different roots, of which the type name of the first begins that of
the second, cross. -/
theorem crosses_of_begins {forest : GroupForest} {v w a b : GroupVisit} (ha : a ∈ forest.preorder)
    (hb : b ∈ forest.preorder) (pathA : a.path = [a.head.name]) (pathB : b.path = [b.head.name])
    (differ : a.head.typeName ≠ b.head.typeName) (hv : v = a ∨ v.Inside a)
    (hw : w = b ∨ w.Inside b) (same : v.ending = w.ending)
    (begins : a.head.typeName.toList <+: b.head.typeName.toList) : forest.Crosses v w := by
  have siblings : a.Siblings b := by
    rw [GroupVisit.Siblings, pathA, pathB]
    rfl
  rcases hv with rfl | inside
  · -- The name ends where the first type name ends, so the second is not longer.
    have begun := prefix_ending pathB hw
    rw [← same, GroupVisit.ending_of_root pathA] at begun
    exact absurd (String.toList_inj.mp (begins.eq_of_length_le begun.length_le)) differ
  · exact ⟨a, ha, b, hb, siblings, ⟨begins, differ⟩, inside, hw⟩

/-- Groups of one name cross. -/
theorem pairwise_crosses {forest : GroupForest} (differ : forest.SiblingsDiffer)
    (named : forest.Named) :
    forest.preorder.Pairwise fun v w =>
      v.ending = w.ending → forest.Crosses v w ∨ forest.Crosses w v := by
  induction forest with
  | nil => exact .nil
  | cons head inside behind ihInside ihBehind =>
    obtain ⟨heads, differInside, differBehind⟩ := differ
    have namedInside : inside.Named := fun v mem =>
      named (v.under head.name) (mem_inside head behind mem)
    have namedBehind : behind.Named := fun v mem => named v (mem_behind head inside mem)
    rw [preorder, List.pairwise_append, List.pairwise_cons, List.pairwise_map]
    refine ⟨⟨fun w mem same => ?_, ?_⟩, ?_, fun v first w later same => ?_⟩
    · -- The name of a group inside goes on behind that of the root.
      obtain ⟨u, nested, rfl⟩ := List.mem_map.mp mem
      rw [GroupVisit.ending_of_root rfl, GroupVisit.ending_under, GroupHead.typeName] at same
      exact absurd (String.append_eq_left_iff.mp same.symm) (ending_ne_empty namedInside nested)
    · refine (ihInside differInside namedInside).imp fun crossing same => ?_
      rw [GroupVisit.ending_under, GroupVisit.ending_under, String.append_right_inj] at same
      exact (crossing same).imp Crosses.inside Crosses.inside
    · exact (ihBehind differBehind namedBehind).imp fun crossing same =>
        (crossing same).imp Crosses.behind Crosses.behind
    · -- One of the two roots has a type name that begins the other's.
      let here : GroupVisit := ⟨[head.name], head, inside⟩
      have path : here.path = [here.head.name] := rfl
      have within : v = here ∨ v.Inside here := by
        refine (List.mem_cons.mp first).imp_right fun nested => ?_
        obtain ⟨u, mem, rfl⟩ := List.mem_map.mp nested
        exact ⟨u, mem, rfl⟩
      obtain ⟨there, mem', path', among, within'⟩ := exists_root later
      have first : here ∈ (cons head inside behind).preorder := mem_root head inside behind
      have second := mem_behind head inside mem'
      have begun := prefix_ending path within
      have begun' := prefix_ending path' within'
      rw [same] at begun
      rcases List.prefix_or_prefix_of_prefix begun begun' with begins | begins
      · exact .inl (crosses_of_begins first second path path' (heads _ among) within within' same
          begins)
      · exact .inr (crosses_of_begins second first path' path (heads _ among).symm within' within
          same.symm begins)

theorem NoneBegins.not_crosses {forest : GroupForest} (h : forest.NoneBegins) {v w : GroupVisit} :
    ¬ forest.Crosses v w := by
  intro crosses
  obtain ⟨a, ha, b, hb, siblings, begins, ⟨u, mem, -⟩, -⟩ := crosses
  refine h a ha b hb siblings (fun empty => ?_) begins
  rw [empty] at mem
  exact nomatch mem

/-! ## Messages -/

/-- The forest is that of the groups of a message. -/
def OfMessage (tokens : List Token) (forest : GroupForest) : Prop :=
  ∃ first inner last body, tokens = first :: (inner ++ [last]) ∧ IsSpan first inner last ∧
    Body.ofTokens inner = .ok body ∧ ReadAs body.groups forest

theorem OfMessage.unique {tokens : List Token} {forest other : GroupForest}
    (h : OfMessage tokens forest) (h' : OfMessage tokens other) : other = forest := by
  obtain ⟨first, inner, last, body, rfl, -, cut, read⟩ := h
  obtain ⟨first', inner', last', body', same, -, cut', read'⟩ := h'
  obtain ⟨-, rfl, -⟩ := enclosed_inj same
  obtain rfl := Except.ok.inj (cut.symm.trans cut')
  exact read.unique read'

/-- A message that has nothing but groups. -/
def message (name : String) (forest : GroupForest) : List Token :=
  { signal := .beginMessage, name } :: (forest.tokens ++ [{ signal := .endMessage, name }])

theorem ofMessage_message (name : String) (forest : GroupForest) :
    OfMessage (forest.message name) forest := by
  have read := forest.readAs_tokens
  have cut : Body.ofTokens ([] ++ forest.tokens ++ []) = .ok ⟨[], forest.tokens, []⟩ :=
    Grammar.ofTokens_append (fun _ mem => nomatch mem) read.isGroups trivial
  rw [List.nil_append, List.append_nil] at cut
  exact ⟨_, _, _, _, rfl, ⟨rfl, read.wellNested⟩, cut, read⟩

/-- The structs that are generated for a message bear the names of the groups of its forest. -/
theorem exists_ofMessage {tokens : List Token} {m : MessageFlyweight}
    (h : MessageFlyweight.ofTokens tokens = .ok m) :
    ∃ forest, OfMessage tokens forest ∧ m.cursors.map GroupCursor.typeName =
      forest.preorder.map (GroupVisit.typeName ⟨.message, m.typeName⟩) := by
  obtain ⟨first, inner, last, body, _, groups, _, rfl, -, span, cut, -, read, -, rfl⟩ :=
    message_ok_iff.mp h
  obtain ⟨forest, readAs, emits⟩ := emits_of_ofTokensFrom read
  refine ⟨forest, ⟨first, inner, last, body, rfl, span, cut, readAs⟩, ?_⟩
  rw [← List.forall₂_eq_eq_eq, List.forall₂_map_left_iff, List.forall₂_map_right_iff]
  exact emits.cursors.flip.imp fun _ _ declared => declared.named

end GroupForest

/-- The structs of the groups of a message, whose forest is told by the brackets alone, are named by
the message and the path to the group. If siblings have different type names and none is empty, no
struct is named as the message is, and two are named alike only if the groups cross. So all these
names are different if no group with groups inside has a type name that begins a sibling's. -/
theorem names_of_groups {tokens : List Token} {m : MessageFlyweight}
    (h : MessageFlyweight.ofTokens tokens = .ok m) :
    ∃ forest : GroupForest, (∀ other, GroupForest.OfMessage tokens other ↔ other = forest) ∧
      m.cursors.map GroupCursor.typeName =
        forest.preorder.map (GroupVisit.typeName ⟨.message, m.typeName⟩) ∧
      (forest.SiblingsDiffer → forest.Named →
        (∀ c ∈ m.cursors, c.typeName ≠ m.typeName) ∧
        forest.preorder.Pairwise (fun v w =>
          v.typeName ⟨.message, m.typeName⟩ = w.typeName ⟨.message, m.typeName⟩ →
            forest.Crosses v w ∨ forest.Crosses w v) ∧
        (forest.NoneBegins → (m.typeName :: m.cursors.map GroupCursor.typeName).Nodup)) := by
  obtain ⟨forest, groups, names⟩ := GroupForest.exists_ofMessage h
  refine ⟨forest, fun other => ⟨groups.unique, fun same => same ▸ groups⟩, names,
    fun differ named => ?_⟩
  have longer : ∀ name ∈ m.cursors.map GroupCursor.typeName, name ≠ m.typeName := by
    rw [names]
    intro name mem same
    obtain ⟨v, visit, rfl⟩ := List.mem_map.mp mem
    exact GroupForest.ending_ne_empty named visit (String.append_eq_left_iff.mp same)
  have crossing := (GroupForest.pairwise_crosses differ named).imp
    fun {v w} crosses (same : v.typeName ⟨.message, m.typeName⟩ = w.typeName _) =>
      crosses ((String.append_right_inj _).mp same)
  refine ⟨fun c mem => longer _ (List.mem_map_of_mem mem), crossing, fun none => ?_⟩
  refine List.nodup_cons.mpr ⟨fun mem => longer _ mem rfl, ?_⟩
  rw [names, List.Nodup, List.pairwise_map]
  exact crossing.imp fun crosses same => (crosses same).elim none.not_crosses none.not_crosses

/-- A leg of a trip has groups inside, and of two other siblings the type name of one begins that of
the other. -/
theorem names_of_groups_trip :
    let forest : GroupForest := .cons ⟨"legs", 6, 3⟩ (.cons ⟨"fees", 4, 3⟩ .nil .nil)
      (.cons ⟨"fees", 2, 3⟩ .nil (.cons ⟨"feesPaid", 2, 3⟩ .nil .nil))
    ∃ m, MessageFlyweight.ofTokens (forest.message "trip") = .ok m ∧ forest.SiblingsDiffer ∧
      forest.Named ∧ forest.NoneBegins ∧
      m.cursors.map GroupCursor.typeName =
        forest.preorder.map (GroupVisit.typeName ⟨.message, m.typeName⟩) ∧
      (m.typeName :: m.cursors.map GroupCursor.typeName).Nodup := by
  intro forest
  have accepted : (MessageFlyweight.ofTokens (forest.message "trip")).map
      MessageFlyweight.typeName = .ok "Trip" := by
    decide +kernel
  obtain ⟨m, read, -⟩ := map_ok_iff.mp accepted
  have differ : forest.SiblingsDiffer := by
    refine ⟨?_, ⟨?_, trivial, trivial⟩, ?_, trivial, ?_, trivial, trivial⟩ <;> decide +kernel
  have named : forest.Named := by
    unfold GroupForest.Named
    decide +kernel
  have none : forest.NoneBegins := by
    unfold GroupForest.NoneBegins
    decide +kernel
  obtain ⟨forest', only, names, apart⟩ := names_of_groups read
  obtain rfl : forest = forest' := (only forest).mp (forest.ofMessage_message "trip")
  exact ⟨m, read, differ, named, none, names, (apart differ named).2.2 none⟩

/-- Where the type names of a path end cannot be told from the name: the figures of the fuel are
named like the fuel figures. A name without words adds nothing, so that a group is named like the
message. -/
theorem names_of_groups_clash :
    let forest : GroupForest := .cons ⟨"fuel", 6, 3⟩ (.cons ⟨"figures", 4, 3⟩ .nil .nil)
      (.cons ⟨"fuelFigures", 2, 3⟩ .nil .nil)
    let blank : GroupForest := .cons ⟨"_", 6, 3⟩ .nil .nil
    (∃ m, MessageFlyweight.ofTokens (forest.message "car") = .ok m ∧
      GroupForest.OfMessage (forest.message "car") forest ∧ forest.SiblingsDiffer ∧
      m.cursors.map GroupCursor.typeName = ["CarFuel", "CarFuelFigures", "CarFuelFigures"] ∧
      ¬ (m.cursors.map GroupCursor.typeName).Nodup) ∧
    ∃ m, MessageFlyweight.ofTokens (blank.message "car") = .ok m ∧
      GroupForest.OfMessage (blank.message "car") blank ∧ blank.SiblingsDiffer ∧
      m.cursors.map GroupCursor.typeName = [m.typeName] := by
  intro forest blank
  constructor
  · have found : (MessageFlyweight.ofTokens (forest.message "car")).map
        (fun m => m.cursors.map GroupCursor.typeName) =
          .ok ["CarFuel", "CarFuelFigures", "CarFuelFigures"] := by
      decide +kernel
    obtain ⟨m, read, names⟩ := map_ok_iff.mp found
    have differ : forest.SiblingsDiffer := by
      refine ⟨?_, ⟨?_, trivial, trivial⟩, ?_, trivial, trivial⟩ <;> decide +kernel
    refine ⟨m, read, forest.ofMessage_message "car", differ, names, ?_⟩
    rw [names]
    decide
  · have found : (MessageFlyweight.ofTokens (blank.message "car")).map
        (fun m => (m.typeName, m.cursors.map GroupCursor.typeName)) = .ok ("Car", ["Car"]) := by
      decide +kernel
    obtain ⟨m, read, names⟩ := map_ok_iff.mp found
    obtain ⟨own, cursors⟩ := Prod.mk.inj names
    have differ : blank.SiblingsDiffer := ⟨fun _ mem => (nomatch mem), trivial, trivial⟩
    exact ⟨m, read, blank.ofMessage_message "car", differ, cursors.trans (congrArg ([·]) own.symm)⟩

end Flyweight.Source
