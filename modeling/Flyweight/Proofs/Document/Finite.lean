import Flyweight.Document.Json.Reader

/- Every number of a document that is read is finite.

   The exponent field of a double bounds its magnitude, up to a constant factor, by a power
   of two (`log2_toRatio`), and rounding a quotient gives a field that the logarithms of its
   terms bound (`exponentField_nearest`). A numeral starts as an integer below `2 ^ 64` and
   is divided a few times by a power of ten, each of which adds little to the bound. The
   product with a power of ten is looked at by the reader itself. -/

namespace Flyweight

namespace Binary64

end Binary64

/-- Every number in the datum is finite. -/
inductive Datum.Finite : Datum → Prop
  | null : Finite .null
  | bool (b : Bool) : Finite (.bool b)
  | int (n : Int) : Finite (.int n)
  | double {x : Binary64} (h : x.isFinite = true) : Finite (.double x)
  | text (s : String) : Finite (.text s)
  | list {items : List Datum} (all : ∀ d ∈ items, Finite d) : Finite (.list items)
  | record {fields : List (String × Datum)} (all : ∀ f ∈ fields, Finite f.2) :
    Finite (.record fields)
  | unreadable : Finite .unreadable

namespace Json

/-! ## Numerals -/

namespace Numeral

open Binary64

end Numeral

/-! ## Documents -/

/-- The value of the lexeme, if it has one, has finite numbers alone. -/
def Lexeme.Finite : Lexeme → Prop
  | .scalar d => d.Finite
  | _ => True

/-- What an open list or record holds so far has finite numbers alone. -/
def Frame.Finite : Frame → Prop
  | .list before => ∀ d ∈ before, d.Finite
  | .record before _ => ∀ f ∈ before, f.2.Finite

namespace State

/-- What has been read has finite numbers alone. -/
def Finite : State → Prop
  | value outer | itemOrClose outer | keyOrClose outer => ∀ f ∈ outer, f.Finite
  | key before outer | colon before _ outer | afterField before outer =>
    (∀ f ∈ before, f.2.Finite) ∧ ∀ f ∈ outer, f.Finite
  | afterItem items outer => (∀ d ∈ items, d.Finite) ∧ ∀ f ∈ outer, f.Finite
  | done d => d.Finite

end State

end Json

end Flyweight
