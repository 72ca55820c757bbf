/- The structural role of a token in a flattened schema.

   Six roles open a span and six close one; each opening role has exactly one
   closing role (`Signal.closing`), and no role does both. A field is marked by
   a single opening token with no closing one: its type element follows it. -/

namespace Flyweight

/-- What a token marks in the depth-first listing of a schema. -/
inductive Signal where
  | beginMessage
  | endMessage
  | beginField
  | encoding
  | beginEnum
  | endEnum
  | validValue
  | beginSet
  | endSet
  | choice
  | beginComposite
  | endComposite
  | beginGroup
  | endGroup
  | beginVarData
  | endVarData
  deriving DecidableEq, Repr, Inhabited

namespace Signal

/-- The role that closes the span this role opens. -/
def closing : Signal → Option Signal
  | beginMessage => some endMessage
  | beginEnum => some endEnum
  | beginSet => some endSet
  | beginComposite => some endComposite
  | beginGroup => some endGroup
  | beginVarData => some endVarData
  | _ => none

/-- Whether the role opens a span. -/
def isBegin (s : Signal) : Bool := s.closing.isSome

/-- Whether the role closes a span. -/
def isEnd : Signal → Bool
  | endMessage | endEnum | endSet | endComposite | endGroup | endVarData => true
  | _ => false

/-- Whether tokens of this role describe an encoding. -/
def carriesEncoding : Signal → Bool
  | encoding | beginEnum | validValue | beginSet | choice => true
  | _ => false

/-- Every role, in schema order. -/
def all : List Signal :=
  [beginMessage, endMessage, beginField, encoding, beginEnum, endEnum, validValue, beginSet,
    endSet, choice, beginComposite, endComposite, beginGroup, endGroup, beginVarData, endVarData]

/-- The name of the role in a schema document. -/
def name : Signal → String
  | beginMessage => "begin-message"
  | endMessage => "end-message"
  | beginField => "begin-field"
  | encoding => "encoding"
  | beginEnum => "begin-enum"
  | endEnum => "end-enum"
  | validValue => "valid-value"
  | beginSet => "begin-set"
  | endSet => "end-set"
  | choice => "choice"
  | beginComposite => "begin-composite"
  | endComposite => "end-composite"
  | beginGroup => "begin-group"
  | endGroup => "end-group"
  | beginVarData => "begin-var-data"
  | endVarData => "end-var-data"

/-- The role that a document calls `text`. -/
def ofName? (text : String) : Option Signal := all.find? (fun s => s.name == text)

/-- The name of the role in messages to the user. -/
def label : Signal → String
  | beginMessage => "BEGIN_MESSAGE"
  | endMessage => "END_MESSAGE"
  | beginField => "BEGIN_FIELD"
  | encoding => "ENCODING"
  | beginEnum => "BEGIN_ENUM"
  | endEnum => "END_ENUM"
  | validValue => "VALID_VALUE"
  | beginSet => "BEGIN_SET"
  | endSet => "END_SET"
  | choice => "CHOICE"
  | beginComposite => "BEGIN_COMPOSITE"
  | endComposite => "END_COMPOSITE"
  | beginGroup => "BEGIN_GROUP"
  | endGroup => "END_GROUP"
  | beginVarData => "BEGIN_VAR_DATA"
  | endVarData => "END_VAR_DATA"

/-- A closing role opens nothing. -/
theorem isBegin_of_isEnd {s : Signal} (h : s.isEnd = true) : s.isBegin = false := by
  cases s <;> first | rfl | simp [isEnd] at h

/-- The closing role of an opening one closes spans. -/
theorem isEnd_of_closing {s t : Signal} (h : s.closing = some t) : t.isEnd = true := by
  cases s <;> simp [closing] at h <;> subst h <;> rfl

end Signal

end Flyweight
