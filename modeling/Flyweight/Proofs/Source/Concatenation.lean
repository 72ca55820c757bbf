import Flyweight.Proofs.Source.Carrier
import Flyweight.Proofs.Source.Summary
import Flyweight.Source.Text

/- Reading is compositional over concatenation.

   The fields of a body, the elements of a composite, groups and variable-length data are read
   part by part: a part is cut off the front, read on its own, and the reader goes on behind it.
   Where a part ends is searched for in all that is left of the list, but found by the part alone.
   This file

   1. states what the four readers have in common (`Piecewise`), and concludes that behind a list
      that is read any other list is read as it is alone (`Piecewise.append_ok_iff`);
   2. says of each reader what its parts are, and what is read from one of them;
   3. carries the result over to the texts: those of two lists in one are those of the first
      followed by those of the second (`readers_concatenate`). -/

namespace Flyweight.Source

/-! ## Reading part by part -/

/-- A reader that goes over a list part by part. What is read from a part depends neither on
where it stands nor on what is behind it. -/
structure Piecewise {α : Type} [Append α] (read : Nat → List Token → Except SourceError α)
    (nothing : α) (Part : List Token → α → Prop) : Prop where
  assoc (x y z : α) : x ++ y ++ z = x ++ (y ++ z)
  nothing_append (x : α) : nothing ++ x = x
  stops (index : Nat) : read index [] = .ok nothing
  starts {index : Nat} {first : Token} {rest : List Token} {x : α}
    (h : read index (first :: rest) = .ok x) :
    ∃ more tail own, rest = more ++ tail ∧ Part (first :: more) own
  goes {part : List Token} {own : α} (h : Part part own) (index : Nat) (rest : List Token) (x : α) :
    read index (part ++ rest) = .ok x ↔
      ∃ y, read (index + part.length) rest = .ok y ∧ x = own ++ y

namespace Piecewise

variable {α : Type} [Append α] {read : Nat → List Token → Except SourceError α} {nothing : α}
  {Part : List Token → α → Prop}

/-- Where a list stands only matters for errors. -/
theorem moved (w : Piecewise read nothing Part) {tokens : List Token} {x : α} {i : Nat}
    (h : read i tokens = .ok x) (j : Nat) : read j tokens = .ok x := by
  -- The reader goes on behind a whole part, so the induction is on the length.
  induction size : tokens.length using Nat.strongRecOn generalizing i j tokens x with
  | ind length ih =>
    cases tokens with
    | nil => rw [w.stops, ← w.stops i, h]
    | cons first rest =>
      obtain ⟨more, tail, own, rfl, part⟩ := w.starts h
      obtain ⟨y, behind, rfl⟩ := (w.goes part i tail x).mp h
      have shorter : tail.length < length := by
        simp only [List.length_cons, List.length_append] at size
        omega
      exact (w.goes part j tail _).mpr ⟨y, ih _ shorter behind _ rfl, rfl⟩

/-- Behind a list that is read, another list is read as it is alone. -/
theorem append_ok_iff (w : Piecewise read nothing Part) {front : List Token} {x : α} {i : Nat}
    (h : read i front = .ok x) (back : List Token) (j k : Nat) (z : α) :
    read j (front ++ back) = .ok z ↔ ∃ y, read k back = .ok y ∧ z = x ++ y := by
  induction size : front.length using Nat.strongRecOn generalizing i j front x z with
  | ind length ih =>
    cases front with
    | nil =>
      obtain rfl : nothing = x := Except.ok.inj ((w.stops i).symm.trans h)
      constructor
      · intro read_
        exact ⟨z, w.moved read_ k, (w.nothing_append z).symm⟩
      · intro given
        obtain ⟨y, read_, rfl⟩ := given
        rw [w.nothing_append]
        exact w.moved read_ j
    | cons first rest =>
      obtain ⟨more, tail, own, rfl, part⟩ := w.starts h
      obtain ⟨others, behind, rfl⟩ := (w.goes part i tail x).mp h
      have shorter : tail.length < length := by
        simp only [List.length_cons, List.length_append] at size
        omega
      have shape : first :: (more ++ tail) ++ back = first :: more ++ (tail ++ back) :=
        List.append_assoc (first :: more) tail back
      rw [shape, w.goes part]
      constructor
      · intro given
        obtain ⟨y, read_, rfl⟩ := given
        obtain ⟨y', alone, rfl⟩ := (ih _ shorter behind _ _ rfl).mp read_
        exact ⟨y', alone, (w.assoc own others y').symm⟩
      · intro given
        obtain ⟨y, alone, rfl⟩ := given
        exact ⟨others ++ y, (ih _ shorter behind _ _ rfl).mpr ⟨y, alone, rfl⟩, w.assoc own others y⟩

/-- A part can be replaced by another one from which the same is read. -/
theorem exchange (w : Piecewise read nothing Part) {front part part' back : List Token}
    {x own z : α} {i j : Nat} (h : read i front = .ok x) (here : Part part own)
    (here' : Part part' own) (whole : read j (front ++ (part ++ back)) = .ok z) :
    read j (front ++ (part' ++ back)) = .ok z := by
  obtain ⟨y, behind, rfl⟩ := (w.append_ok_iff h _ j 0 z).mp whole
  obtain ⟨others, rest, rfl⟩ := (w.goes here 0 back y).mp behind
  have behind' := (w.goes here' 0 back _).mpr ⟨others, w.moved rest _, rfl⟩
  exact (w.append_ok_iff h _ j 0 _).mpr ⟨_, behind', rfl⟩

end Piecewise

/-- What is read from a part comes in front of what is read behind it. -/
theorem behind_ok_iff {α : Type} [Append α] {own x : α} {behind : Except SourceError α} :
    (behind >>= fun y => pure (own ++ y)) = .ok x ↔ ∃ y, behind = .ok y ∧ x = own ++ y := by
  rw [bind_ok_iff]
  refine exists_congr fun y => and_congr_right fun _ => ?_
  constructor
  · intro same
    exact (Except.ok.inj same).symm
  · intro same
    exact congrArg Except.ok same.symm

/-! ## Fields and elements -/

/-- A field token with its type element, and the members read from it. -/
inductive FieldPart (context : String) : List Token → List Member → Prop where
  | mk {field first : Token} {more : List Token} {own : List Member}
    (signal : field.signal = .beginField) (element : IsElement first more)
    (read : Member.ofElement field.name first ownPlace context = .ok own) :
    FieldPart context (field :: first :: more) own

theorem piecewise_fields (context : String) :
    Piecewise (Member.ofFieldsFrom context) [] (FieldPart context) where
  assoc := List.append_assoc
  nothing_append := List.nil_append
  stops index := by rw [Member.ofFieldsFrom]
  starts h := by
    obtain ⟨first, more, tail, part, others, rfl, signal, element, read, -, -⟩ :=
      ofFieldsFrom_cons_ok h
    exact ⟨first :: more, tail, part, rfl, .mk signal element read⟩
  goes h index rest x := by
    cases h with
    | @mk field first more own signal element read =>
      have counted : Span.elementLengthAfter (index + 1) first (more ++ rest) = .ok more.length :=
        Span.elementLengthAfter_ok_iff.mpr ⟨more, rest, rfl, element, rfl⟩
      rw [List.cons_append, List.cons_append, Member.ofFieldsFrom, if_pos signal, counted, read]
      show (Member.ofFieldsFrom context _ ((more ++ rest).drop more.length) >>= _) = _ ↔ _
      rw [List.drop_left]
      exact behind_ok_iff

/-- An element of a composite, and the members read from it. -/
inductive ElementPart (context : String) : List Token → List Member → Prop where
  | mk {first : Token} {more : List Token} {own : List Member} (element : IsElement first more)
    (read : Member.ofElement first.name first ownPlace context = .ok own) :
    ElementPart context (first :: more) own

theorem piecewise_composite (context : String) :
    Piecewise (Member.ofCompositeFrom context) [] (ElementPart context) where
  assoc := List.append_assoc
  nothing_append := List.nil_append
  stops index := by rw [Member.ofCompositeFrom]
  starts h := by
    obtain ⟨more, tail, rfl, element, typed, -⟩ := accepts_ofCompositeFrom_cons.mp ⟨_, h⟩
    obtain ⟨own, read⟩ := accepts_ofElement_iff.mpr typed
    exact ⟨more, tail, own, rfl, .mk element read⟩
  goes h index rest x := by
    cases h with
    | @mk first more own element read =>
      have counted : Span.elementLengthAfter index first (more ++ rest) = .ok more.length :=
        Span.elementLengthAfter_ok_iff.mpr ⟨more, rest, rfl, element, rfl⟩
      rw [List.cons_append, Member.ofCompositeFrom, counted, read]
      show (Member.ofCompositeFrom context _ ((more ++ rest).drop more.length) >>= _) = _ ↔ _
      rw [List.drop_left]
      exact behind_ok_iff

/-! ## Variable-length data -/

/-- The place behind a span. -/
theorem behind_span (index : Nat) (first last : Token) (inner : List Token) :
    index + (first :: (inner ++ [last])).length = index + (inner.length + 1) + 1 := by
  simp only [List.length_cons, List.length_append, List.length_nil]
  omega

/-- A span of variable-length data, and the accessors read from it. -/
inductive VarDataPart (owner : Owner) : List Token → List Member → Prop where
  | mk {first last : Token} {inner : List Token} {own : Member}
    (opens : first.signal = .beginVarData) (span : IsSpan first inner last)
    (read : Member.ofVarDataSpan owner first.name (first :: (inner ++ [last])) = .ok own) :
    VarDataPart owner (first :: (inner ++ [last])) [own]

theorem piecewise_varData (owner : Owner) :
    Piecewise (Member.ofVarDataFrom owner) [] (VarDataPart owner) where
  assoc := List.append_assoc
  nothing_append := List.nil_append
  stops index := by rw [Member.ofVarDataFrom]
  starts h := by
    obtain ⟨inner, last, tail, own, others, rfl, opens, span, read, -, -⟩ :=
      ofVarDataFrom_cons_ok h
    exact ⟨inner ++ [last], tail, [own], List.append_cons inner last tail, .mk opens span read⟩
  goes h index rest x := by
    cases h with
    | @mk first last inner own opens span read =>
      have counted : Span.lengthAfter index first (inner ++ last :: rest) =
          .ok (inner.length + 1) :=
        Span.lengthAfter_ok_iff.mpr ⟨inner, last, rest, rfl, span, rfl⟩
      rw [List.cons_append, List.append_assoc, List.singleton_append, Member.ofVarDataFrom,
        if_pos opens, counted]
      show (Member.ofVarDataSpan owner first.name
        (first :: (inner ++ last :: rest).take (inner.length + 1)) >>= _) = _ ↔ _
      rw [Span.take_span, read]
      show (Member.ofVarDataFrom owner _ ((inner ++ last :: rest).drop (inner.length + 1)) >>=
        fun y => pure ([own] ++ y)) = _ ↔ _
      rw [Span.drop_span, behind_span]
      exact behind_ok_iff

/-! ## Groups -/

instance : Append GroupCode :=
  ⟨fun x y => ⟨x.members ++ y.members, x.cursors ++ y.cursors⟩⟩

/-- The code for the group that `first` opens: one pair of accessors for the owner, and the
cursors of the group and of those inside it. -/
def GroupCode.ofSpan (owner : Owner) (first : Token) (rest : List Token) :
    Except SourceError GroupCode := do
  let g ← GroupSpan.ofTokens first rest
  let typeName := owner.groupType first.name
  let inside : Owner := ⟨.group, typeName⟩
  let fields ← Member.ofFields (GroupSpan.context first.name) g.body.fields
  let nested ← GroupCode.ofTokens inside g.body.groups
  let varData ← Member.ofVarData inside g.body.varData
  let cursor ← GroupCursor.ofSpan typeName g (fields ++ nested.members ++ varData)
  return ⟨[.group first.name owner typeName], cursor :: nested.cursors⟩

/-- The span of a group, and the code read from it. -/
inductive GroupPart (owner : Owner) : List Token → GroupCode → Prop where
  | mk {first last : Token} {inner : List Token} {own : GroupCode}
    (opens : first.signal = .beginGroup) (span : IsSpan first inner last)
    (read : GroupCode.ofSpan owner first (inner ++ [last]) = .ok own) :
    GroupPart owner (first :: (inner ++ [last])) own

/-- The first group of a list is read on its own. -/
theorem GroupCode.ofTokensFrom_span (owner : Owner) (index : Nat) {first last : Token}
    {inner : List Token} (opens : first.signal = .beginGroup) (span : IsSpan first inner last)
    (rest : List Token) :
    ofTokensFrom owner index (first :: (inner ++ last :: rest)) = do
      let own ← ofSpan owner first (inner ++ [last])
      let others ← ofTokensFrom owner (index + (inner.length + 1) + 1) rest
      return own ++ others := by
  have counted : Span.lengthAfter index first (inner ++ last :: rest) = .ok (inner.length + 1) :=
    Span.lengthAfter_ok_iff.mpr ⟨inner, last, rest, rfl, span, rfl⟩
  rw [ofTokensFrom_cons, if_pos opens, counted]
  show (GroupSpan.ofTokens first ((inner ++ last :: rest).take (inner.length + 1)) >>= _) = _
  simp only [Span.take_span, Span.drop_span, ofSpan, bind_assoc, pure_bind]
  rfl

theorem piecewise_groups (owner : Owner) :
    Piecewise (GroupCode.ofTokensFrom owner) ⟨[], []⟩ (GroupPart owner) where
  assoc x y z := congrArg₂ GroupCode.mk (List.append_assoc ..) (List.append_assoc ..)
  nothing_append _ := rfl
  stops index := by rw [GroupCode.ofTokensFrom]
  starts {index first rest x} h := by
    obtain ⟨inner, last, tail, g, fields, nested, varData, cursor, others, rfl, opens, span, read,
      hf, hg, hd, hc, -, -⟩ := ofTokensFrom_cons_ok h
    let own : GroupCode :=
      ⟨[.group first.name owner (owner.groupType first.name)], cursor :: nested.cursors⟩
    refine ⟨inner ++ [last], tail, own, List.append_cons inner last tail, .mk opens span ?_⟩
    refine bind_ok_iff.mpr ⟨g, read, bind_ok_iff.mpr ⟨fields, hf, bind_ok_iff.mpr ⟨nested, hg, ?_⟩⟩⟩
    exact bind_ok_iff.mpr ⟨varData, hd, bind_ok_iff.mpr ⟨cursor, hc, rfl⟩⟩
  goes h index rest x := by
    cases h with
    | @mk first last inner own opens span read =>
      rw [List.cons_append, List.append_assoc, List.singleton_append,
        GroupCode.ofTokensFrom_span owner index opens span, read, behind_span]
      exact behind_ok_iff

/-! ## Texts -/

/-- The texts of members: the fields of the struct, their initial values, and the methods. -/
def Member.texts (members : List Member) : List String :=
  [Block.text ((fieldsOf members).indented 1), Block.text ((initialsOf members).indented 3),
    Block.text ((methodsOf members).indented 1)]

/-- The texts of groups: the methods of their owner, and the cursors. -/
def GroupCode.texts (code : GroupCode) : List String :=
  [Block.text ((methodsOf code.members).indented 1),
    Block.text (code.cursors.flatMap GroupCursor.block)]

theorem Block.text_append (b b' : Block) : text (b ++ b') = text b ++ text b' := by
  rw [text, List.map_append, String.join_append]
  rfl

/-- The lines of several items are those of each, at whatever level they stand. -/
theorem text_flatMap_append {α : Type} (lines : α → Block) (level : Nat) (xs ys : List α) :
    Block.text (Block.indented level ((xs ++ ys).flatMap lines)) =
      Block.text (Block.indented level (xs.flatMap lines)) ++
        Block.text (Block.indented level (ys.flatMap lines)) := by
  rw [List.flatMap_append, ← Block.text_append]
  exact congrArg Block.text List.map_append

theorem Member.texts_append (xs ys : List Member) :
    texts (xs ++ ys) = List.zipWith (· ++ ·) (texts xs) (texts ys) := by
  simp only [texts, fieldsOf, initialsOf, methodsOf, text_flatMap_append, List.zipWith_cons_cons,
    List.zipWith_nil_left]

theorem GroupCode.texts_append (x y : GroupCode) :
    (x ++ y).texts = List.zipWith (· ++ ·) x.texts y.texts := by
  have cursors : (x.cursors ++ y.cursors).flatMap GroupCursor.block =
      x.cursors.flatMap GroupCursor.block ++ y.cursors.flatMap GroupCursor.block :=
    List.flatMap_append
  show [Block.text ((methodsOf (x.members ++ y.members)).indented 1),
    Block.text ((x.cursors ++ y.cursors).flatMap GroupCursor.block)] = _
  simp only [texts, methodsOf, text_flatMap_append, cursors, Block.text_append,
    List.zipWith_cons_cons, List.zipWith_nil_left]

/-- Behind `front`, from which `x` is read, every list is read as it is alone: it is accepted if
it is accepted alone, and its texts follow those of `x`. -/
structure Continues {α : Type} [Append α] (read : List Token → Except SourceError α)
    (texts : α → List String) (front : List Token) (x : α) : Prop where
  accepts (back : List Token) : Accepts (read (front ++ back)) ↔ Accepts (read back)
  reads (back : List Token) (y : α) (h : read back = .ok y) : read (front ++ back) = .ok (x ++ y)
  written (y : α) : texts (x ++ y) = List.zipWith (· ++ ·) (texts x) (texts y)

theorem Piecewise.continues {α : Type} [Append α] {read : Nat → List Token → Except SourceError α}
    {nothing : α} {Part : List Token → α → Prop} (w : Piecewise read nothing Part)
    {texts : α → List String}
    (apart : ∀ x y, texts (x ++ y) = List.zipWith (· ++ ·) (texts x) (texts y))
    {front : List Token} {x : α} (h : read 0 front = .ok x) :
    Continues (read 0) texts front x where
  accepts back := by
    constructor
    · intro accepted
      obtain ⟨z, read_⟩ := accepted
      obtain ⟨y, alone, -⟩ := (w.append_ok_iff h back 0 0 z).mp read_
      exact ⟨y, alone⟩
    · intro accepted
      obtain ⟨y, alone⟩ := accepted
      exact ⟨x ++ y, (w.append_ok_iff h back 0 0 _).mpr ⟨y, alone, rfl⟩⟩
  reads back y alone := (w.append_ok_iff h back 0 0 _).mpr ⟨y, alone, rfl⟩
  written := apart x

/-- Fields, elements of a composite, groups and variable-length data are read one after the other:
behind a list that is accepted, another one is accepted if it is accepted alone, and every text of
the two lists in one is that of the first followed by that of the second. -/
theorem readers_concatenate (context : String) (owner : Owner) (front : List Token) :
    (∀ x, Member.ofFields context front = .ok x →
      Continues (Member.ofFields context) Member.texts front x) ∧
    (∀ x, Member.ofComposite context front = .ok x →
      Continues (Member.ofComposite context) Member.texts front x) ∧
    (∀ x, GroupCode.ofTokens owner front = .ok x →
      Continues (GroupCode.ofTokens owner) GroupCode.texts front x) ∧
    (∀ x, Member.ofVarData owner front = .ok x →
      Continues (Member.ofVarData owner) Member.texts front x) := by
  refine ⟨fun x h => ?_, fun x h => ?_, fun x h => ?_, fun x h => ?_⟩
  · exact (piecewise_fields context).continues Member.texts_append h
  · exact (piecewise_composite context).continues Member.texts_append h
  · exact (piecewise_groups owner).continues GroupCode.texts_append h
  · exact (piecewise_varData owner).continues Member.texts_append h

/-- A set and a number in one section of fields, and two groups of one owner. A field without a
type is refused behind the set as it is alone. -/
theorem readers_concatenate_extras :
    let extras : List Token :=
      [{ signal := .beginField, name := "extras" }, { signal := .beginSet, name := "choices" },
        { signal := .endSet, name := "choices" }]
    let year : List Token :=
      [{ signal := .beginField, name := "year" },
        { signal := .encoding, name := "year", offset := 1,
          encoding := some { primitive := .uint16 } }]
    let orphan : List Token := [{ signal := .beginField, name := "orphan" }]
    let group (name : String) : List Token :=
      [{ signal := .beginGroup, name },
        { signal := .beginComposite, name := "groupSize", size := 2 },
        { signal := .encoding, name := "blockLength", encoding := some { primitive := .uint8 } },
        { signal := .encoding, name := "numInGroup", offset := 1,
          encoding := some { primitive := .uint8 } },
        { signal := .endComposite, name := "groupSize" }, { signal := .endGroup, name }]
    let owner : Owner := ⟨.message, "M"⟩
    (∃ x y, Member.ofFields "m" extras = .ok x ∧ Member.ofFields "m" year = .ok y ∧
      Member.ofFields "m" (extras ++ year) = .ok (x ++ y) ∧
      Member.texts (x ++ y) = List.zipWith (· ++ ·) (Member.texts x) (Member.texts y) ∧
      ¬ Accepts (Member.ofFields "m" (extras ++ orphan))) ∧
    ∃ x y, GroupCode.ofTokens owner (group "legs") = .ok x ∧
      GroupCode.ofTokens owner (group "stops") = .ok y ∧
      GroupCode.ofTokens owner (group "legs" ++ group "stops") = .ok (x ++ y) ∧
      (x ++ y).texts = List.zipWith (· ++ ·) x.texts y.texts := by
  intro extras year orphan group owner
  constructor
  · have front : Member.ofFields "m" extras =
        .ok [.nested "extras" ⟨ownPlace, 0⟩ "Choices"] := by decide +kernel
    have back : Member.ofFields "m" year =
        .ok [.scalar "year" ⟨⟨ownPlace, 1⟩, .uint16, .littleEndian⟩] := by decide +kernel
    have refused : Member.ofFields "m" orphan = .error (.missingToken "m" "orphan") := by
      decide +kernel
    have both := (readers_concatenate "m" owner extras).1 _ front
    refine ⟨_, _, front, back, both.reads _ _ back, both.written _, ?_⟩
    rw [both.accepts, refused]
    exact not_accepts_error _
  · let cursor (typeName : String) : GroupCursor :=
      ⟨typeName, 0, 2, ⟨⟨"header", 0⟩, .uint8, .littleEndian⟩,
        ⟨⟨"header", 1⟩, .uint8, .littleEndian⟩, []⟩
    have front : GroupCode.ofTokens owner (group "legs") =
        .ok ⟨[.group "legs" owner "MLegs"], [cursor "MLegs"]⟩ := by decide +kernel
    have back : GroupCode.ofTokens owner (group "stops") =
        .ok ⟨[.group "stops" owner "MStops"], [cursor "MStops"]⟩ := by decide +kernel
    have both := (readers_concatenate "m" owner (group "legs")).2.2.1 _ front
    exact ⟨_, _, front, back, both.reads _ _ back, both.written _⟩

end Flyweight.Source
