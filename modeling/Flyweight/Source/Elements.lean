import Flyweight.Source.Declaration
import Flyweight.Source.Literal

/- The members that the elements of a body give rise to.

   An element is a single encoding token or a whole span; of a nested span only
   the first token matters, since the type it opens has a unit of its own. -/

namespace Flyweight.Source

namespace Member

/-- The members for an encoding token: none for an array of no elements. -/
def ofEncoding (name : String) (t : Token) (base : String) : Except SourceError (List Member) := do
  let e ← t.sourceEncoding
  if e.presence = .constant then
    return [fixedValue name e.primitive (← t.literal)]
  let slot : Slot := ⟨⟨base, t.offset.toNat⟩, e.primitive, e.byteOrder⟩
  match t.arrayLength.toNat with
  | 0 => return []
  | 1 => return [scalar name slot]
  | length => return [array name slot length]

/-- The member for a value of an enum type, of which `first` opens the span. -/
def ofEnum (name : String) (first : Token) (base : String) : Except SourceError Member := do
  let e ← first.sourceEncoding
  return enumeration name ⟨⟨base, first.offset.toNat⟩, e.primitive, e.byteOrder⟩ first.name

/-- The member for a value of an enum type given by its span. -/
def ofEnumSpan (name : String) (span : List Token) (base : String) : Except SourceError Member :=
  match span with
  | [] => .error (.emptyTokenList name)
  | first :: _ => ofEnum name first base

/-- The members for an element that starts with `first`. -/
def ofElement (name : String) (first : Token) (base context : String) :
    Except SourceError (List Member) :=
  match first.signal with
  | .encoding => ofEncoding name first base
  | .beginEnum => (ofEnum name first base).map ([·])
  | .beginSet | .beginComposite =>
    .ok [nested name ⟨base, first.offset.toNat⟩ (Identifier.typeName first.name)]
  | signal => .error (.unexpectedSignal signal first.name context)

/-- The members for an element given by its span. -/
def ofElementSpan (name : String) (span : List Token) (base context : String) :
    Except SourceError (List Member) :=
  match span with
  | [] => .error (.missingToken context name)
  | first :: _ => ofElement name first base context

/-- The members for the elements of a composite, of which `tokens` is the part
from position `index` on. -/
def ofCompositeFrom (context : String) (index : Nat) (tokens : List Token) :
    Except SourceError (List Member) :=
  match tokens with
  | [] => .ok []
  | first :: rest => do
    let count ← (Span.elementLengthAfter index first rest).mapError .span
    let members ← ofElement first.name first ownPlace context
    let others ← ofCompositeFrom context (index + count + 1) (rest.drop count)
    return members ++ others
termination_by tokens.length
decreasing_by simp only [List.length_cons, List.length_drop]; omega

/-- The members for the elements of a composite. -/
def ofComposite (context : String) (body : List Token) : Except SourceError (List Member) :=
  ofCompositeFrom context 0 body

/-- The members for the fields of a message or group, each a field token followed
by its type element; `tokens` is the part of the section from position `index`
on. -/
def ofFieldsFrom (context : String) (index : Nat) (tokens : List Token) :
    Except SourceError (List Member) :=
  match tokens with
  | [] => .ok []
  | field :: rest =>
    if field.signal = .beginField then
      match rest with
      | [] => .error (.missingToken context field.name)
      | first :: rest => do
        let count ← (Span.elementLengthAfter (index + 1) first rest).mapError .span
        let members ← ofElement field.name first ownPlace context
        let others ← ofFieldsFrom context (index + count + 2) (rest.drop count)
        return members ++ others
    else .error (.unexpectedSignal field.signal field.name context)
termination_by tokens.length
decreasing_by simp only [List.length_cons, List.length_drop]; omega

/-- The members for the fields of a message or group. -/
def ofFields (context : String) (fields : List Token) : Except SourceError (List Member) :=
  ofFieldsFrom context 0 fields

/-- The accessors for one choice of a set. -/
def ofChoice (t : Token) (set : Encoding) : Except SourceError Member := do
  let code ← t.requireConstant
  let width := set.primitive.size * 8
  match code.natural? with
  | none => .error (.invalidConstant t.name set.primitive code)
  | some bit =>
    if width ≤ bit then .error (.choiceBitOutOfRange t.name bit width)
    else .ok (choice t.name bit set.primitive set.byteOrder)

end Member

/-- The first token of a span. -/
def opening (context : String) : List Token → Except SourceError Token
  | [] => .error (.emptyTokenList context)
  | first :: _ => .ok first

/-- The tokens inside a list that is one span. -/
def interior (tokens : List Token) : Except SourceError (List Token) :=
  (Span.interior tokens).mapError .span

/-- A composite as a flyweight of fixed size. -/
def FixedFlyweight.ofComposite (typeName : String) (tokens : List Token) :
    Except SourceError FixedFlyweight := do
  let first ← opening typeName tokens
  let members ← Member.ofComposite s!"composite '{first.name}'" (← interior tokens)
  return ⟨typeName, first.size.toNat, members⟩

/-- A set as a flyweight of fixed size: the accessors of its word, then those of
its choices. A size not stated is that of the word. -/
def FixedFlyweight.ofSet (typeName : String) (tokens : List Token) :
    Except SourceError FixedFlyweight := do
  let first ← opening typeName tokens
  let e ← first.sourceEncoding
  unless e.primitive.isUnsigned do
    throw (.unsupportedEncoding first.name e.primitive "bit-set")
  let choices ← (← interior tokens).mapM fun t =>
    if t.signal = .choice then Member.ofChoice t e
    else .error (.unexpectedSignal t.signal t.name s!"set '{first.name}'")
  let length := if first.size = 0 then e.primitive.size else first.size.toNat
  return ⟨typeName, length, .word e.primitive e.byteOrder :: choices⟩

/-- An enum. -/
def Enumeration.ofTokens (tokens : List Token) : Except SourceError Enumeration := do
  let first ← opening "enum" tokens
  let e ← first.sourceEncoding
  unless e.primitive.isIntegral do
    throw (.unsupportedEncoding first.name e.primitive "enum")
  let variants ← (← interior tokens).mapM fun t => do
    if t.signal ≠ .validValue then
      throw (.unexpectedSignal t.signal t.name s!"enum '{first.name}'")
    let literal ← t.literal
    let code ← t.requireConstant
    return { typeName := Identifier.typeName t.name, code, literal }
  return ⟨Identifier.typeName first.name, e.primitive, variants⟩

end Flyweight.Source
