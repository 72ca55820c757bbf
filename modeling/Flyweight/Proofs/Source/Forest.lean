import Flyweight.Proofs.Source.Headers
import Flyweight.Proofs.Source.Sections
import Flyweight.Proofs.Source.Summary
import Flyweight.Source.Text

/- Generated groups follow the tree of groups.

   A list of groups is read as a forest (`ReadAs`), by its brackets alone and in one way only
   (`ReadAs.unique`). What is generated from the list is then told along the forest, where two
   things go different ways: the accessors that open a group stay with whatever the group is
   directly inside of, and the structs of all groups end up side by side.

   1. The owner of the list has one pair of accessors for every root of the forest, in order.
   2. There is one struct for every group, in pre-order, named by the path to the group, with the
      sizes of the group and of its header.
   3. In the methods of a struct there is one pair of accessors for every group directly inside,
      which lends the position on, and none for any other group. -/

namespace Flyweight.Source

open Grammar

/-! ## Forests -/

/-- What is told of a group apart from the groups inside it. -/
structure GroupHead where
  name : String
  size : UInt64
  headerSize : UInt64
  deriving DecidableEq, Repr

/-- Groups behind each other, each with the groups inside it. -/
inductive GroupForest where
  | nil
  | cons (head : GroupHead) (inside behind : GroupForest)
  deriving DecidableEq, Repr

/-- A group of a forest: the names on the path to it, its own last, what is told of it, and the
groups inside it. -/
structure GroupVisit where
  path : List String
  head : GroupHead
  inside : GroupForest
  deriving DecidableEq, Repr

/-- The group as seen from outside of a group around it. -/
def GroupVisit.under (name : String) (v : GroupVisit) : GroupVisit :=
  { v with path := name :: v.path }

/-- The type name of the group: that of the owner of the forest, and those along the path. -/
def GroupVisit.typeName (owner : Owner) (v : GroupVisit) : String :=
  owner.typeName ++ String.join (v.path.map Identifier.typeName)

namespace GroupForest

/-- The groups that are not inside another one. -/
def roots : GroupForest → List GroupHead
  | nil => []
  | cons head _ behind => head :: behind.roots

/-- All groups, each in front of those inside it. -/
def preorder : GroupForest → List GroupVisit
  | nil => []
  | cons head inside behind =>
    ⟨[head.name], head, inside⟩ :: inside.preorder.map (.under head.name) ++ behind.preorder

/-- The list is the forest, as its brackets tell. A group is a header and a body, and the groups
inside it stand between the fields and the variable-length data of the body. -/
inductive ReadAs : List Token → GroupForest → Prop where
  | nil : ReadAs [] .nil
  | cons {first header close last : Token} {members fields groups varData rest : List Token}
    {inside behind : GroupForest} (opens : first.signal = .beginGroup)
    (composite : header.signal = .beginComposite) (headed : IsSpan header members close)
    (span : IsSpan first (header :: (members ++ close :: (fields ++ groups ++ varData))) last)
    (flat : ∀ t ∈ fields, Body.endsFields t.signal = false) (nested : ReadAs groups inside)
    (data : StartsWith .beginVarData varData) (others : ReadAs rest behind) :
    ReadAs
      (first :: (header :: (members ++ close :: (fields ++ groups ++ varData)) ++ last :: rest))
      (.cons ⟨first.name, first.size, header.size⟩ inside behind)

theorem ReadAs.isGroups {tokens : List Token} {forest : GroupForest} (h : ReadAs tokens forest) :
    Many IsGroup tokens := by
  cases h with
  | nil => exact .nil
  | @cons first header close last members fields groups varData rest inside behind opens _ _ span
      _ _ _ others =>
    have shape (inner : List Token) :
        first :: (inner ++ last :: rest) = first :: (inner ++ [last]) ++ rest := by
      rw [List.cons_append, List.append_assoc, List.singleton_append]
    rw [shape]
    exact .cons (.mk opens span) others.isGroups

theorem ReadAs.wellNested {tokens : List Token} {forest : GroupForest} (h : ReadAs tokens forest) :
    WellNested tokens :=
  Many.wellNested (fun _ ⟨_, span⟩ => span.wellNested) h.isGroups

/-- A list is read as one forest at most. -/
theorem ReadAs.unique {tokens : List Token} {forest other : GroupForest} (h : ReadAs tokens forest)
    (h' : ReadAs tokens other) : other = forest := by
  induction h generalizing other with
  | nil => cases h'; rfl
  | cons opens composite headed span flat nested data others ihInside ihBehind =>
    rename_i first header close last members fields groups varData rest inside behind
    generalize whole :
      first :: (header :: (members ++ close :: (fields ++ groups ++ varData)) ++ last :: rest) =
        list at h'
    cases h' with
    | nil => cases whole
    | cons _ _ headed' span' flat' nested' data' others' =>
      -- The spans end at the same places, so the bodies and what is behind them are the same.
      obtain ⟨rfl, tail⟩ := List.cons.inj whole
      obtain ⟨inner, rfl, rfl⟩ := span_unique span span' tail
      obtain ⟨rfl, body⟩ := List.cons.inj inner
      obtain ⟨rfl, rfl, sections⟩ := span_unique headed headed' body
      -- A body is cut into its sections in one way.
      have cut := ofTokens_append flat nested.isGroups data
      rw [sections, ofTokens_append flat' nested'.isGroups data'] at cut
      obtain ⟨rfl, rfl, rfl⟩ := Body.mk.inj (Except.ok.inj cut)
      rw [ihInside nested', ihBehind others']

/-- The members of a header: the block length, and behind it the number of elements. -/
def headerMembers : List Token :=
  [{ signal := .encoding, name := "blockLength", encoding := some { primitive := .uint16 } },
    { signal := .encoding, name := "numInGroup", offset := 2,
      encoding := some { primitive := .uint8 } }]

/-- A list of groups that have nothing but a header and groups inside. -/
def tokens : GroupForest → List Token
  | nil => []
  | cons head inside behind =>
    { signal := .beginGroup, name := head.name, size := head.size } ::
      ({ signal := .beginComposite, name := "groupSize", size := head.headerSize } ::
          (headerMembers ++ { signal := .endComposite, name := "groupSize" } :: inside.tokens) ++
        { signal := .endGroup, name := head.name } :: behind.tokens)

/-- Every forest is read from some list. -/
theorem readAs_tokens (forest : GroupForest) : ReadAs forest.tokens forest := by
  induction forest with
  | nil => exact .nil
  | cons head inside behind ihInside ihBehind =>
    have headed : IsSpan { signal := .beginComposite, name := "groupSize", size := head.headerSize }
        headerMembers { signal := .endComposite, name := "groupSize" } :=
      ⟨rfl, .append (.single rfl rfl) (.single rfl rfl)⟩
    have nested : WellNested ([] ++ inside.tokens ++ []) := by
      rw [List.nil_append, List.append_nil]
      exact ihInside.wellNested
    have span : IsSpan { signal := .beginGroup, name := head.name, size := head.size } _
        { signal := .endGroup, name := head.name } :=
      ⟨rfl, headed.wellNested.append nested⟩
    have read := ReadAs.cons rfl rfl headed span (fun _ mem => nomatch mem) ihInside trivial
      ihBehind
    rw [List.nil_append, List.append_nil] at read
    exact read

end GroupForest

/-! ## Members and cursors -/

/-- The accessors of an owner for a group. -/
def GroupHead.accessors (owner : Owner) (head : GroupHead) : Member :=
  .group head.name owner (owner.groupType head.name)

/-- The cursor of a group of a forest: its name and sizes, and members that open the groups
directly inside the group and no others. -/
structure GroupVisit.Declares (owner : Owner) (v : GroupVisit) (c : GroupCursor) : Prop where
  named : c.typeName = v.typeName owner
  blockLength : c.blockLength = v.head.size.toNat
  headerSize : c.headerSize = v.head.headerSize.toNat
  members : ∃ fields varData,
    c.members = fields ++ v.inside.roots.map (GroupHead.accessors ⟨.group, c.typeName⟩) ++ varData ∧
      ∀ m ∈ fields ++ varData, m.opensGroup = false

/-- What is generated along a forest. -/
structure GroupForest.Emits (owner : Owner) (forest : GroupForest) (code : GroupCode) : Prop where
  members : code.members = forest.roots.map (GroupHead.accessors owner)
  cursors : List.Forall₂ (GroupVisit.Declares owner) forest.preorder code.cursors

/-- The groups inside a group have it as their owner, and their path goes through it. -/
theorem GroupVisit.Declares.under {owner : Owner} {name : String} {v : GroupVisit} {c : GroupCursor}
    (h : v.Declares ⟨.group, owner.groupType name⟩ c) : (v.under name).Declares owner c where
  named := by
    rw [h.named, typeName, typeName, GroupVisit.under, Owner.groupType, List.map_cons,
      String.join_cons, String.append_assoc]
  blockLength := h.blockLength
  headerSize := h.headerSize
  members := h.members

/-- What the cursor of a group has from its span. -/
theorem sizes_of_ofSpan {typeName : String} {g : GroupSpan} {members : List Member}
    {c : GroupCursor} (h : GroupCursor.ofSpan typeName g members = .ok c) :
    c.typeName = typeName ∧ c.blockLength = g.size ∧ c.headerSize = g.header.size.toNat ∧
      c.members = members := by
  obtain ⟨block, -, h⟩ := bind_ok_iff.mp h
  obtain ⟨count, -, h⟩ := bind_ok_iff.mp h
  obtain rfl := Except.ok.inj h
  exact ⟨rfl, rfl, rfl, rfl⟩

/-- The cursor that is read from a span with these members is that of a root. -/
theorem declares_of_ofSpan {owner : Owner} {name : String} {size : UInt64} {g : GroupSpan}
    {inside : GroupForest} {fields varData : List Member} {c : GroupCursor} (sized : g.size = size.toNat)
    (others : ∀ m ∈ fields ++ varData, m.opensGroup = false)
    (made : GroupCursor.ofSpan (owner.groupType name) g
      (fields ++ inside.roots.map (GroupHead.accessors ⟨.group, owner.groupType name⟩) ++ varData) =
        .ok c) :
    GroupVisit.Declares owner ⟨[name], ⟨name, size, g.header.size⟩, inside⟩ c := by
  obtain ⟨named, block, header, members⟩ := sizes_of_ofSpan made
  refine ⟨?_, block.trans sized, header, fields, varData, ?_, others⟩
  · rw [named, GroupVisit.typeName, Owner.groupType, List.map_singleton, String.join_cons,
      String.join_nil, String.append_empty]
  · rw [members, named]

/-- A list of groups that is accepted is a forest, and what is generated follows it. -/
theorem emits_of_ofTokensFrom {owner : Owner} {index : Nat} {tokens : List Token} {code : GroupCode}
    (h : GroupCode.ofTokensFrom owner index tokens = .ok code) :
    ∃ forest, GroupForest.ReadAs tokens forest ∧ forest.Emits owner code := by
  -- The groups inside a group and those behind it are both shorter lists, with different owners.
  induction size : tokens.length using Nat.strongRecOn generalizing owner index tokens code with
  | ind length ih =>
    cases tokens with
    | nil =>
      rw [GroupCode.ofTokensFrom] at h
      obtain rfl := Except.ok.inj h
      exact ⟨.nil, .nil, rfl, .nil⟩
    | cons first rest =>
      obtain ⟨inner, last, tail, g, fields, nested, varData, cursor, others, rfl, opens, span, read,
        hf, hg, hd, made, later, rfl⟩ := ofTokensFrom_cons_ok h
      obtain ⟨headed, split_, -, -, cut, whole⟩ := groupSpan_ok_iff.mp read
      obtain ⟨_, close, _, shape, -, composite, header⟩ := headedSpan_ok_iff.mp split_
      obtain ⟨-, rfl, -⟩ := enclosed_inj shape
      -- The header is followed by the three sections of the body.
      have sections := Body.append_of_ofTokens cut
      have shorter := congrArg List.length sections
      simp only [List.length_cons, List.length_append] at size shorter
      obtain ⟨inside, readInside, emitsInside⟩ := ih _ (by omega) hg rfl
      obtain ⟨behind, readBehind, emitsBehind⟩ := ih _ (by omega) later rfl
      rw [← sections] at span ⊢
      refine ⟨.cons ⟨first.name, first.size, headed.header.size⟩ inside behind, ?_, ?_⟩
      · refine .cons opens composite header span (fun t mem => ?_) readInside ?_ readBehind
        · exact Body.endsFields_eq_false_iff.mpr (fields_of_ofTokens cut t mem)
        · exact startsWith_varData (varData_of_acceptsFrom ⟨varData, hd⟩)
      · obtain ⟨-, -, -, onlyFields, -⟩ := countFrom_fields hf
        obtain ⟨onlyData, -⟩ := countFrom_varData hd
        have others : ∀ m ∈ fields ++ varData, m.opensGroup = false := by
          intro m mem
          rcases List.mem_append.mp mem with field | data
          · exact (other_of_isField (onlyFields m field)).1
          · exact (isVarData_of_varDataOf (onlyData m data)).1
        have sized : g.size = first.size.toNat := congrArg GroupSpan.size whole
        have own := declares_of_ofSpan sized others (emitsInside.members ▸ made)
        rw [whole] at own
        refine ⟨congrArg (_ :: ·) emitsBehind.members, .cons own ?_⟩
        refine List.rel_append ?_ emitsBehind.cursors
        rw [List.forall₂_map_left_iff]
        exact emitsInside.cursors.imp fun _ _ declared => declared.under

/-! ## Texts -/

/-- The two methods that open a group, for reading and for writing, with an empty line before
each. The header of the group is relative to `base`, and `position` is lent to its cursor. -/
def openingPair (name typeName base position : String) : Block :=
  let decode := Identifier.property name
  let encode := Identifier.compound "" name "_count"
  spaced
    [method s!"{decode}(&mut self) -> CodecResult<{typeName}<'_, 'a>>"
      [s!"{typeName}::wrap_for_decode(self.buffer, {base}, {position})"],
    method s!"{encode}(&mut self, count: usize) -> CodecResult<{typeName}<'_, 'a>>"
      [s!"{typeName}::wrap_for_encode(self.buffer, {base}, {position}, count)"]]

/-- The struct of a group, with an empty line before it: `state` are the fields that come after
those of every cursor, and `shared` are the methods that every cursor has. -/
def structLines (name : String) (blockLength headerSize : Nat) (state shared methods : Block) :
    Block :=
  ["", "#[derive(Debug)]"] ++
  braces s!"pub struct {name}<'m, 'a>"
    (["buffer: DirectBuffer<'a>,", "base_offset: usize,", "position: &'m mut usize,",
      "offset: usize,", "block_length: usize,", "count: usize,", "index: usize,"] ++ state) ++
  [""] ++
  braces s!"impl<'m, 'a> {name}<'m, 'a>"
    ([s!"pub const BLOCK_LENGTH: usize = {blockLength};",
      s!"pub const HEADER_SIZE: usize = {headerSize};"] ++ shared ++ methods)

/-- The lines are the struct of the group. Its own methods open the groups directly inside and no
others: their pairs stand between the methods for the fields and those for the variable-length
data. -/
def GroupVisit.IsStruct (owner : Owner) (v : GroupVisit) (lines : Block) : Prop :=
  ∃ (c : GroupCursor) (fields varData : List Member),
    (∀ m ∈ fields ++ varData, m.opensGroup = false) ∧
      lines = structLines (v.typeName owner) v.head.size.toNat v.head.headerSize.toNat
        (fieldsOf c.members)
        (spaced (openingBlocks c ++ cursorBlocks))
        (methodsOf fields ++
          v.inside.roots.flatMap (fun g =>
            openingPair g.name (v.typeName owner ++ Identifier.typeName g.name) "self.base_offset"
              "&mut *self.position") ++
          methodsOf varData)

/-- The methods of an owner for groups. -/
theorem methodsOf_accessors (owner : Owner) (heads : List GroupHead) :
    methodsOf (heads.map (GroupHead.accessors owner)) =
      heads.flatMap fun g =>
        openingPair g.name (owner.groupType g.name) owner.base owner.position := by
  rw [methodsOf, List.flatMap_map]
  rfl

theorem GroupVisit.Declares.isStruct {owner : Owner} {v : GroupVisit} {c : GroupCursor}
    (h : v.Declares owner c) : v.IsStruct owner c.block := by
  obtain ⟨fields, varData, members, others⟩ := h.members
  refine ⟨c, fields, varData, others, ?_⟩
  have methods : methodsOf c.members = methodsOf fields ++
      methodsOf (v.inside.roots.map (GroupHead.accessors ⟨.group, v.typeName owner⟩)) ++
        methodsOf varData := by
    rw [members, h.named, methodsOf, List.flatMap_append, List.flatMap_append]
    rfl
  rw [methodsOf_accessors] at methods
  rw [GroupCursor.block, methods, h.named, h.blockLength, h.headerSize, structLines]
  rfl

/-- What is generated from a list of groups follows the tree of groups, which the list has in one
way: the owner has a pair of accessors for every group that is not inside another one and for no
others, and there is one struct for every group, each in front of those of the groups inside
it. -/
theorem emission_of_groups {owner : Owner} {tokens : List Token} {code : GroupCode}
    (h : GroupCode.ofTokens owner tokens = .ok code) :
    ∃ forest : GroupForest, (∀ other, GroupForest.ReadAs tokens other ↔ other = forest) ∧
      methodsOf code.members = forest.roots.flatMap (fun g =>
        openingPair g.name (owner.typeName ++ Identifier.typeName g.name) owner.base
          owner.position) ∧
      ∃ structs : List Block, code.cursors.flatMap GroupCursor.block = structs.flatten ∧
        List.Forall₂ (GroupVisit.IsStruct owner) forest.preorder structs := by
  obtain ⟨forest, read, emits⟩ := emits_of_ofTokensFrom h
  refine ⟨forest, fun other => ?_, ?_, code.cursors.map GroupCursor.block, List.flatMap_def, ?_⟩
  · constructor
    · exact read.unique
    · intro same
      exact same ▸ read
  · rw [emits.members]
    exact methodsOf_accessors owner forest.roots
  · rw [List.forall₂_map_right_iff]
    exact emits.cursors.imp fun _ _ declared => declared.isStruct

/-- A group inside another one, and a third one behind them. -/
theorem emission_of_groups_nested :
    let stops : GroupForest := .cons ⟨"stops", 4, 3⟩ .nil .nil
    let forest : GroupForest := .cons ⟨"legs", 6, 3⟩ stops (.cons ⟨"fees", 2, 3⟩ .nil .nil)
    let owner : Owner := ⟨.message, "Trip"⟩
    ∃ code structs, GroupCode.ofTokens owner forest.tokens = .ok code ∧
      methodsOf code.members =
        openingPair "legs" "TripLegs" "self.offset" "&mut self.position" ++
          openingPair "fees" "TripFees" "self.offset" "&mut self.position" ∧
      code.cursors.flatMap GroupCursor.block = structs.flatten ∧
      List.Forall₂ (GroupVisit.IsStruct owner)
        [⟨["legs"], ⟨"legs", 6, 3⟩, stops⟩, ⟨["legs", "stops"], ⟨"stops", 4, 3⟩, .nil⟩,
          ⟨["fees"], ⟨"fees", 2, 3⟩, .nil⟩] structs := by
  intro stops forest owner
  let cursor (typeName : String) (size : Nat) (members : List Member) : GroupCursor :=
    ⟨typeName, size, 3, ⟨⟨"header", 0⟩, .uint16, .littleEndian⟩,
      ⟨⟨"header", 2⟩, .uint8, .littleEndian⟩, members⟩
  have read : GroupCode.ofTokens owner forest.tokens =
      .ok ⟨[.group "legs" owner "TripLegs", .group "fees" owner "TripFees"],
        [cursor "TripLegs" 6 [.group "stops" ⟨.group, "TripLegs"⟩ "TripLegsStops"],
          cursor "TripLegsStops" 4 [], cursor "TripFees" 2 []]⟩ := by
    decide +kernel
  obtain ⟨forest', only, methods, structs, written, each⟩ := emission_of_groups read
  obtain rfl : forest = forest' := (only forest).mp forest.readAs_tokens
  exact ⟨_, structs, read, methods, written, each⟩

end Flyweight.Source
