import Flyweight.Body
import Flyweight.Document.Datum
import Flyweight.Schema

/- A summary of a schema: its types and messages with their sizes, and how many
fields, groups and variable-length data each message has at its top level. -/

namespace Flyweight

/-- A type in the summary. -/
structure TypeSummary where
  name : String
  kind : String
  size : Nat
  deriving DecidableEq, Repr

/-- A message in the summary. -/
structure MessageSummary where
  name : String
  templateId : Int
  blockLength : Nat
  rootFields : Nat
  groups : Nat
  varData : Nat
  deriving DecidableEq, Repr

/-- A summary of a schema. -/
structure Summary where
  package : String
  headerSize : Nat
  types : List TypeSummary
  messages : List MessageSummary
  deriving DecidableEq, Repr

/-- Why no summary can be given. -/
inductive SummaryError where
  | emptyMessage
  | span (cause : SpanError)
  deriving DecidableEq, Repr

/-- The wording of the error. -/
def SummaryError.message : SummaryError → String
  | emptyMessage => "empty message token list"
  | span cause => cause.message

namespace Summary

/-- What the opening token of a type's list says about its kind. -/
def kindOf : Signal → String
  | .beginEnum => "enum"
  | .beginSet => "set"
  | .beginComposite => "composite"
  | s => s.label

/-- How many elements of a list start with a token of the given role; `tokens` is
the part of the list from position `index` on. -/
def countFrom (signal : Signal) (index : Nat) (tokens : List Token) : Except SpanError Nat :=
  match tokens with
  | [] => .ok 0
  | first :: rest => do
    let length ← Span.elementLengthAfter index first rest
    let others ← countFrom signal (index + length + 1) (rest.drop length)
    return others + if first.signal = signal then 1 else 0
termination_by tokens.length
decreasing_by simp only [List.length_cons, List.length_drop]; omega

/-- How many elements of a list start with a token of the given role. -/
def count (signal : Signal) (tokens : List Token) : Except SpanError Nat :=
  countFrom signal 0 tokens

/-- The summary of a message. -/
def ofMessage (tokens : List Token) : Except SummaryError MessageSummary :=
  match tokens with
  | [] => .error .emptyMessage
  | first :: _ => Except.mapError .span do
    let body ← Body.ofTokens (← Span.interior tokens)
    return {
      name := first.name
      templateId := first.id.toInt
      blockLength := first.size.toNat
      rootFields := ← count .beginField body.fields
      groups := ← count .beginGroup body.groups
      varData := ← count .beginVarData body.varData }

/-- The summary of a type, given by its first token. -/
def ofType (first : Token) : TypeSummary := ⟨first.name, kindOf first.signal, first.size.toNat⟩

/-- The summary of a schema; types without tokens are left out. -/
def ofSchema (s : Schema) : Except SummaryError Summary := do
  let messages ← s.messages.mapM ofMessage
  let headerSize := match s.header with
    | [] => 0
    | first :: _ => first.size.toNat
  return ⟨s.package, headerSize, (s.types.filterMap List.head?).map ofType, messages⟩

/-- A type's summary as a record. -/
def typeDatum (t : TypeSummary) : Datum :=
  .record [("name", .text t.name), ("kind", .text t.kind), ("size", .int t.size)]

/-- A message's summary as a record. -/
def messageDatum (m : MessageSummary) : Datum :=
  .record [("name", .text m.name), ("template-id", .int m.templateId),
    ("block-length", .int m.blockLength), ("root-fields", .int m.rootFields),
    ("groups", .int m.groups), ("var-data", .int m.varData)]

/-- The summary as a record. -/
def toDatum (s : Summary) : Datum :=
  .record [("package", .text s.package), ("header-size", .int s.headerSize),
    ("types", .list (s.types.map typeDatum)), ("messages", .list (s.messages.map messageDatum))]

end Summary

end Flyweight
