import Mathlib.Data.List.Basic
import Flyweight.Proofs.Source.Characters
import Flyweight.Proofs.Source.Summary
import Flyweight.Source.Text

/- The accessors of elements whose value the schema fixes.

   Nothing of such an element is transmitted, so it has no bytes, and its offset is that of
   whatever comes next. An accessor that keeps off the buffer (`KeepsOff`) can do no harm; one
   that goes to the offset of the element reads and overwrites the bytes of another one. This
   file

   1. reads the sections of fields and the bodies of composites as lists of elements, each
      with the members that it gives rise to (`Element.Read`);
   2. proves that the accessor of a fixed encoding keeps off the buffer, whatever the name, the
      offset and the length of the token: the characters that the name and the literal would
      need for anything else are not in them (`keepsOff_fixedValue`);
   3. concludes that an element of fixed value keeps off the buffer exactly if it is an
      encoding. An enum of fixed value does not (`touches_enumeration`): its accessors are
      those of an enum that is transmitted. -/

namespace Flyweight

/-! ## Texts in lines -/

/-- A text that starts with a character of which there is only one stands where that one is. -/
theorem prefix_of_infix {c : Char} {text front back : List Char} (before : c ∉ front)
    (behind : c ∉ back) (inside : c :: text <:+: front ++ c :: back) : text <+: back := by
  obtain ⟨left, right, same⟩ := inside
  rw [List.append_assoc, List.cons_append] at same
  obtain ⟨-, -, rest⟩ := (List.append_cons_inj_of_notMem before behind).mp same.symm
  exact ⟨right, rest.symm⟩

theorem not_infix_of_notMem {c : Char} {text line : List Char} (needed : c ∈ text)
    (missing : c ∉ line) : ¬ text <:+: line :=
  fun inside => missing (inside.subset needed)

namespace Source

/-- Some line of the block has the text in it. -/
def Block.Mentions (b : Block) (text : String) : Prop := ∃ line ∈ b, text.toList <:+: line.toList

theorem infix_left {text : List Char} {s t : String} (inside : text <:+: s.toList) :
    text <:+: (s ++ t).toList := by
  rw [String.toList_append]
  exact inside.trans (List.prefix_append _ _).isInfix

theorem infix_right {text : List Char} {s t : String} (inside : text <:+: t.toList) :
    text <:+: (s ++ t).toList := by
  rw [String.toList_append]
  exact inside.trans (List.suffix_append _ _).isInfix

theorem infix_indentLine {text : List Char} {line : String} (level : Nat)
    (inside : text <:+: line.toList) : text <:+: (Lines.indentLine level line).toList := by
  unfold Lines.indentLine
  split
  · rename_i empty
    rw [String.isEmpty_iff.mp empty] at inside
    exact inside
  · exact infix_right inside

/-- The code of the members neither gets at the buffer nor has a method that could change what
is in it. -/
def KeepsOff (members : List Member) : Prop :=
  ¬ (methodsOf members).Mentions "self.buffer" ∧ ¬ (methodsOf members).Mentions "&mut self"

/-- There is no small l in a literal. -/
theorem l_notMem_literal {t : Token} {literal : String} (h : t.literal = .ok literal) :
    'l' ∉ literal.toList :=
  notMem_literal (by decide) (by decide) h

/-! ## Accessors -/

/-- The line that the getter of a value starts with. -/
def getterLine (name : String) (p : Primitive) : String :=
  "pub fn " ++ (Identifier.property name ++ "(&self) -> " ++ p.rustType) ++ " \x7b"

/-- The accessor of a value that the schema fixes is a getter that gives the literal. -/
theorem methodsOf_fixedValue (name : String) (p : Primitive) (literal : String) :
    methodsOf [.fixedValue name p literal] =
      ["", getterLine name p, Lines.indentLine 1 literal, "\x7d"] := rfl

theorem point_notMem_getterLine (name : String) (p : Primitive) :
    '.' ∉ (getterLine name p).toList := by
  have property := notMem_property Letters.foreign_point (by decide) name
  have type : '.' ∉ p.rustType.toList := notMem_rustType (by decide) p
  have signature := notMem_append (notMem_append property
    (show '.' ∉ "(&self) -> ".toList by decide)) type
  exact notMem_append (notMem_append (by decide) signature) (by decide)

/-- A getter has its flyweight as one that is not changed. -/
theorem not_infix_getterLine (name : String) (p : Primitive) :
    ¬ "&mut self".toList <:+: (getterLine name p).toList := by
  intro inside
  let front := "pub fn " ++ Identifier.property name ++ "("
  let back := "self) -> " ++ p.rustType ++ " \x7b"
  have cut : (getterLine name p).toList = front.toList ++ '&' :: back.toList := by
    simp [getterLine, front, back, String.toList_append]
  have property := notMem_property Letters.foreign_ampersand (by decide) name
  have type : '&' ∉ p.rustType.toList := notMem_rustType (by decide) p
  have before : '&' ∉ front.toList :=
    notMem_append (notMem_append (by decide) property) (by decide)
  have behind : '&' ∉ back.toList := notMem_append (notMem_append (by decide) type) (by decide)
  -- Behind the only ampersand the flyweight is named, with no other word before it.
  rw [cut] at inside
  have start : "mut self".toList <+: back.toList := prefix_of_infix before behind inside
  obtain ⟨rest, same⟩ := start
  simp [back, String.toList_append] at same

/-- A text with a small l in it could only be in the first line of the getter: the others have
no small l. -/
theorem not_mentions_fixedValue {name literal text : String} {p : Primitive}
    (plain : 'l' ∉ literal.toList) (needed : 'l' ∈ text.toList)
    (first : ¬ text.toList <:+: (getterLine name p).toList) :
    ¬ (methodsOf [.fixedValue name p literal]).Mentions text := by
  rintro ⟨line, listed, inside⟩
  simp only [methodsOf_fixedValue, List.mem_cons, List.not_mem_nil, or_false] at listed
  rcases listed with rfl | rfl | rfl | rfl
  · exact not_infix_of_notMem needed (by decide) inside
  · exact first inside
  · exact not_infix_of_notMem needed (notMem_indentLine 1 (by decide) plain) inside
  · exact not_infix_of_notMem needed (by decide) inside

theorem keepsOff_fixedValue {name literal : String} {p : Primitive} (plain : 'l' ∉ literal.toList) :
    KeepsOff [.fixedValue name p literal] := by
  constructor
  · apply not_mentions_fixedValue plain (by decide)
    have needed : '.' ∈ "self.buffer".toList := by decide
    exact not_infix_of_notMem needed (point_notMem_getterLine name p)
  · apply not_mentions_fixedValue plain (by decide)
    exact not_infix_getterLine name p

section Methods
variable {m : Member} {signature text : String} {body : Block}

theorem mem_methodsOf {b : Block} {line : String} (listed : b ∈ m.blocks) (inside : line ∈ b) :
    line ∈ methodsOf [m] := by
  rw [methodsOf, List.flatMap_singleton, spaced, List.mem_flatMap]
  exact ⟨b, listed, List.mem_cons_of_mem "" inside⟩

theorem mentions_signature (listed : method signature body ∈ m.blocks)
    (inside : text.toList <:+: signature.toList) : (methodsOf [m]).Mentions text := by
  refine ⟨"pub fn " ++ signature ++ " \x7b", mem_methodsOf listed List.mem_cons_self, ?_⟩
  exact infix_left (infix_right inside)

theorem mentions_body {line : String} (listed : method signature body ∈ m.blocks)
    (written : line ∈ body) (inside : text.toList <:+: line.toList) :
    (methodsOf [m]).Mentions text := by
  refine ⟨Lines.indentLine 1 line, mem_methodsOf listed ?_, infix_indentLine 1 inside⟩
  apply List.mem_cons_of_mem
  apply List.mem_append_left
  exact List.mem_map_of_mem written

end Methods

/-- The accessors of a value of an enum type read and write at its place. -/
theorem touches_enumeration (name : String) (slot : Slot) (enumName : String) :
    (methodsOf [.enumeration name slot enumName]).Mentions "self.buffer" ∧
      (methodsOf [.enumeration name slot enumName]).Mentions "&mut self" := by
  constructor
  · have here : "self.buffer".toList <:+: (toString ">(self.buffer, ").toList := by decide +kernel
    refine mentions_body List.mem_cons_self List.mem_cons_self ?_
    exact infix_left (infix_left (infix_left (infix_left (infix_right here))))
  · have here : "&mut self".toList <:+: (toString "(&mut self, value: ").toList := by decide +kernel
    refine mentions_signature (List.mem_cons_of_mem _ List.mem_cons_self) ?_
    exact infix_left (infix_left (infix_right here))

theorem touches_nested (name : String) (place : Place) (typeName : String) :
    (methodsOf [.nested name place typeName]).Mentions "&mut self" := by
  have here : "&mut self".toList <:+: (toString "(&mut self) -> &mut ").toList := by decide +kernel
  refine mentions_signature List.mem_cons_self ?_
  exact infix_left (infix_left (infix_right here))

/-! ## Elements -/

/-- A type element of a section, the name that its accessors have, and the members that it gives
rise to. -/
structure Element where
  name : String
  first : Token
  more : List Token
  members : List Member

namespace Element

def tokens (e : Element) : List Token := e.first :: e.more

/-- The tokens are those of one element, and the members are what is read from them. -/
structure Read (context : String) (e : Element) : Prop where
  element : IsElement e.first e.more
  read : Member.ofElement e.name e.first ownPlace context = .ok e.members

/-- What becomes of a value that the schema fixes. -/
structure Fixed (e : Element) : Prop where
  /-- An encoding has a getter of its literal. -/
  getter : e.first.signal = .encoding → ∃ p literal,
    e.first.literal = .ok literal ∧ e.members = [.fixedValue e.name p literal]
  /-- An enum has the accessors of one that is transmitted, which go to its offset. -/
  enumeration : e.first.signal = .beginEnum → ∃ p order,
    e.members = [.enumeration e.name ⟨⟨ownPlace, e.first.offset.toNat⟩, p, order⟩ e.first.name] ∧
    (methodsOf e.members).Mentions "self.buffer" ∧ (methodsOf e.members).Mentions "&mut self"
  /-- Nothing but an encoding keeps off the buffer. -/
  keepsOff_iff : KeepsOff e.members ↔ e.first.signal = .encoding

/-- A nested flyweight is bound to the buffer, whatever is fixed of it. -/
theorem fixed_of_nested {e : Element} {place : Place} {typeName : String}
    (encoding : e.first.signal ≠ .encoding) (enum : e.first.signal ≠ .beginEnum)
    (members : e.members = [.nested e.name place typeName]) : e.Fixed where
  getter signal := absurd signal encoding
  enumeration signal := absurd signal enum
  keepsOff_iff := by
    rw [members]
    constructor
    · intro keeps
      exact absurd (touches_nested e.name place typeName) keeps.2
    · intro signal
      exact absurd signal encoding

theorem Read.fixed {context : String} {e : Element} (h : e.Read context)
    (constant : e.first.isConstant = true) : e.Fixed := by
  have read := h.read
  unfold Member.ofElement at read
  split at read
  · rename_i signal
    obtain ⟨encoding, encoded, read⟩ := bind_ok_iff.mp read
    have known := (sourceEncoding_ok_iff (by rw [signal]; rfl)).mp encoded
    have fixed : encoding.presence = .constant := by
      simpa only [Token.isConstant, known, beq_iff_eq] using constant
    rw [if_pos fixed] at read
    obtain ⟨literal, written, read⟩ := bind_ok_iff.mp read
    have members := (Except.ok.inj read).symm
    refine ⟨fun _ => ⟨encoding.primitive, literal, written, members⟩, fun other => ?_,
      fun _ => signal, fun _ => ?_⟩
    · rw [signal] at other
      cases other
    · rw [members]
      exact keepsOff_fixedValue (l_notMem_literal written)
  · rename_i signal
    obtain ⟨m, read, members⟩ := map_ok_iff.mp read
    obtain ⟨encoding, -, read⟩ := bind_ok_iff.mp read
    obtain rfl := Except.ok.inj read
    have touches := touches_enumeration e.name
      ⟨⟨ownPlace, e.first.offset.toNat⟩, encoding.primitive, encoding.byteOrder⟩ e.first.name
    rw [members] at touches
    refine ⟨fun other => ?_, fun _ => ⟨_, _, members.symm, touches⟩, fun keeps => ?_, fun other => ?_⟩
    · rw [signal] at other
      cases other
    · exact absurd touches.1 keeps.1
    · rw [signal] at other
      cases other
  · rename_i signal
    exact fixed_of_nested (by simp [signal]) (by simp [signal]) (Except.ok.inj read).symm
  · rename_i signal
    exact fixed_of_nested (by simp [signal]) (by simp [signal]) (Except.ok.inj read).symm
  · cases read

end Element

/-! ## Sections -/

/-- One step of the reader of composites: an element and the rest. -/
theorem ofCompositeFrom_cons_ok {context : String} {index : Nat} {first : Token}
    {rest : List Token} {members : List Member}
    (h : Member.ofCompositeFrom context index (first :: rest) = .ok members) :
    ∃ more tail part others, rest = more ++ tail ∧ IsElement first more ∧
      Member.ofElement first.name first ownPlace context = .ok part ∧
      Member.ofCompositeFrom context (index + more.length + 1) tail = .ok others ∧
      members = part ++ others := by
  rw [Member.ofCompositeFrom] at h
  obtain ⟨count, counted, h⟩ := bind_ok_iff.mp h
  obtain ⟨part, read, h⟩ := bind_ok_iff.mp h
  obtain ⟨others, behind, h⟩ := bind_ok_iff.mp h
  obtain rfl := Except.ok.inj h
  obtain ⟨more, tail, rfl, element, rfl⟩ :=
    Span.elementLengthAfter_ok_iff.mp (mapError_ok_iff.mp counted)
  rw [List.drop_left] at behind
  exact ⟨more, tail, part, others, rfl, element, read, behind, rfl⟩

/-- A body that is read as a composite is made of elements. -/
theorem elements_of_composite {context : String} {index : Nat} {body : List Token}
    {members : List Member} (h : Member.ofCompositeFrom context index body = .ok members) :
    ∃ elements : List Element, body = elements.flatMap Element.tokens ∧
      members = elements.flatMap Element.members ∧
      ∀ e ∈ elements, e.name = e.first.name ∧ e.Read context := by
  induction size : body.length using Nat.strongRecOn generalizing index body members with
  | ind length ih =>
    cases body with
    | nil =>
      rw [Member.ofCompositeFrom] at h
      obtain rfl := Except.ok.inj h
      exact ⟨[], rfl, rfl, by simp⟩
    | cons first rest =>
      obtain ⟨more, tail, part, others, rfl, element, read, behind, rfl⟩ :=
        ofCompositeFrom_cons_ok h
      have shorter : tail.length < length := by
        simp only [List.length_cons, List.length_append] at size
        omega
      obtain ⟨elements, rfl, rfl, each⟩ := ih _ shorter behind rfl
      refine ⟨⟨first.name, first, more, part⟩ :: elements, rfl, rfl, ?_⟩
      intro e mem
      rcases List.mem_cons.mp mem with rfl | later
      · exact ⟨rfl, element, read⟩
      · exact each e later

/-- A section that is read as fields is made of field tokens with an element behind each. -/
theorem elements_of_fields {context : String} {fields : List Token} {parts : List (List Member)}
    (h : FieldParts context fields parts) :
    ∃ entries : List (Token × Element),
      fields = entries.flatMap (fun entry => entry.1 :: entry.2.tokens) ∧
      parts.flatten = entries.flatMap (fun entry => entry.2.members) ∧
      ∀ entry ∈ entries, entry.1.signal = .beginField ∧ entry.2.name = entry.1.name ∧
        entry.2.Read context := by
  induction h with
  | nil => exact ⟨[], rfl, rfl, by simp⟩
  | @cons field first more rest part parts signal element read _ _ ih =>
    obtain ⟨entries, rfl, same, each⟩ := ih
    refine ⟨(field, ⟨field.name, first, more, part⟩) :: entries, rfl, ?_, ?_⟩
    · rw [List.flatten_cons, same]
      rfl
    · intro entry mem
      rcases List.mem_cons.mp mem with rfl | later
      · exact ⟨signal, rfl, element, read⟩
      · exact each entry later

/-- The fields of a section and the members of a composite have their accessors element by
element. An element whose value the schema fixes keeps off the buffer if it is an encoding,
wherever it stands and however long it is; one that is an enum reads and writes at its offset. -/
theorem fixed_of_sections (context : String) (tokens : List Token) (members : List Member) :
    (Member.ofFields context tokens = .ok members →
      ∃ entries : List (Token × Element),
        tokens = entries.flatMap (fun entry => entry.1 :: entry.2.tokens) ∧
        members = entries.flatMap (fun entry => entry.2.members) ∧
        ∀ entry ∈ entries, entry.1.signal = .beginField ∧ entry.2.name = entry.1.name ∧
          entry.2.Read context ∧ (entry.2.first.isConstant = true → entry.2.Fixed)) ∧
    (Member.ofComposite context tokens = .ok members →
      ∃ elements : List Element,
        tokens = elements.flatMap Element.tokens ∧ members = elements.flatMap Element.members ∧
        ∀ e ∈ elements, e.name = e.first.name ∧
          e.Read context ∧ (e.first.isConstant = true → e.Fixed)) := by
  constructor
  · intro h
    obtain ⟨parts, found, rfl, -⟩ := countFrom_fields h
    obtain ⟨entries, same, flat, each⟩ := elements_of_fields found
    refine ⟨entries, same, flat, fun entry mem => ?_⟩
    obtain ⟨signal, name, read⟩ := each entry mem
    exact ⟨signal, name, read, read.fixed⟩
  · intro h
    obtain ⟨elements, same, flat, each⟩ := elements_of_composite h
    refine ⟨elements, same, flat, fun e mem => ?_⟩
    obtain ⟨name, read⟩ := each e mem
    exact ⟨name, read, read.fixed⟩

/-- The value of an encoding is fixed, wherever it would stand and however many there would be. -/
theorem fixed_of_sections_limit :
    let limit : Token :=
      { signal := .encoding, name := "uint16", offset := 4, arrayLength := 3,
        encoding := some (.ofConstant .uint16 (.long 9000)) }
    ∃ members, Member.ofFields "m" [{ signal := .beginField, name := "maxRpm" }, limit] =
      .ok members ∧ KeepsOff members := by
  intro limit
  have read : Member.ofFields "m" [{ signal := .beginField, name := "maxRpm" }, limit] =
      .ok [.fixedValue "maxRpm" .uint16 "(9000 as u16)"] := by decide +kernel
  refine ⟨_, read, ?_⟩
  obtain ⟨entries, tokens, same, each⟩ := (fixed_of_sections _ _ _).1 read
  rw [same]
  match entries with
  | [] => nomatch tokens
  | [(field, e)] =>
    obtain ⟨-, -, -, fixed⟩ := each (field, e) List.mem_cons_self
    have first : limit = e.first := by
      simp only [List.flatMap_cons, List.flatMap_nil, Element.tokens, List.cons_append,
        List.cons.injEq] at tokens
      exact tokens.2.1
    have keeps := (fixed (first ▸ rfl)).keepsOff_iff.mpr (first ▸ rfl)
    simpa using keeps
  | (field, e) :: (field', e') :: rest =>
    have short := congrArg List.length tokens
    simp [Element.tokens] at short

/-- A field of an enum whose value is fixed, which takes no bytes, and a field at the same
offset. -/
def fixedModel : List Token :=
  [{ signal := .beginField, name := "code" },
    { signal := .beginEnum, name := "Model", encoding := some (.ofConstant .char (.long 65)) },
    { signal := .validValue, name := "A",
      encoding := some { primitive := .char, constant := some (.long 65) } },
    { signal := .endEnum, name := "Model" },
    { signal := .beginField, name := "speed" },
    { signal := .encoding, name := "speed", size := 1, encoding := some { primitive := .uint8 } }]

/-- The fixed model is got from the byte of the speed, and set there. -/
theorem fixedModel_touches :
    ∃ (field : Token) (e : Element) (rest : List Token) (others : List Member),
      fixedModel = field :: (e.tokens ++ rest) ∧ e.name = field.name ∧ e.Read "message 'm'" ∧
      Member.ofFields "message 'm'" fixedModel = .ok (e.members ++ others) ∧
      e.first.signal = .beginEnum ∧ e.first.isConstant = true ∧ e.first.size = 0 ∧
      ¬ KeepsOff e.members ∧ (methodsOf e.members).Mentions "&mut self" ∧
      e.members = [.enumeration "code" ⟨⟨ownPlace, 0⟩, .char, .littleEndian⟩ "Model"] ∧
      others = [.scalar "speed" ⟨⟨ownPlace, 0⟩, .uint8, .littleEndian⟩] := by
  let first : Token :=
    { signal := .beginEnum, name := "Model", encoding := some (.ofConstant .char (.long 65)) }
  let variant : Token :=
    { signal := .validValue, name := "A",
      encoding := some { primitive := .char, constant := some (.long 65) } }
  let last : Token := { signal := .endEnum, name := "Model" }
  let code : Member := .enumeration "code" ⟨⟨ownPlace, 0⟩, .char, .littleEndian⟩ "Model"
  have element : IsElement first ([variant] ++ [last]) := .span ⟨rfl, .single rfl rfl⟩
  have touches := touches_enumeration "code" ⟨⟨ownPlace, 0⟩, .char, .littleEndian⟩ "Model"
  refine ⟨_, ⟨"code", first, [variant, last], [code]⟩, _, _, rfl, rfl, ⟨element, rfl⟩, ?_, rfl, rfl,
    rfl, fun keeps => keeps.1 touches.1, touches.2, rfl, rfl⟩
  decide +kernel

end Source
end Flyweight
