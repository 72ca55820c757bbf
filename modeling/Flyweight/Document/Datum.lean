import Flyweight.Binary64

/- The values that documents are made of.

   A datum keeps the order of a record's fields and every repetition of a field,
   so that a reader of records decides what a repetition means. -/

namespace Flyweight

/-- A value of a document. -/
inductive Datum where
  | null
  | bool (value : Bool)
  | int (value : Int)
  | double (value : Binary64)
  | text (value : String)
  | list (items : List Datum)
  | record (fields : List (String × Datum))
  /-- well formed in its document, but without a value: a number beyond all
  doubles, or a text with half a surrogate pair -/
  | unreadable
  deriving Repr, Inhabited

namespace Datum

/-- The value of the first field of that name in a record. -/
def field? (name : String) : Datum → Option Datum
  | record fields => (fields.find? fun f => f.1 == name).map (·.2)
  | _ => none

end Datum

end Flyweight
