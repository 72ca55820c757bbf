import Flyweight.Primitive

/- Whole numbers in generated source.

   A literal is a decimal number with an optional sign. It stands alone, has the name of
   its type behind it, or is cast to a type in parentheses. A pattern is a decimal number
   that stands alone. -/

namespace Flyweight

namespace Primitive

/-- An integral type that generated source calls `name`. Types that share a name there
hold the same integers. -/
def ofRustType? (name : String) : Option Primitive :=
  all.find? fun p => p.isIntegral && p.rustType == name

/-- Whether the integer is one of the type's. -/
def Holds (p : Primitive) (n : Int) : Prop :=
  ∃ low high, p.range? = some (low, high) ∧ low ≤ n ∧ n ≤ high

theorem holds_iff (p : Primitive) {low high n : Int} (range : p.range? = some (low, high)) :
    p.Holds n ↔ low ≤ n ∧ n ≤ high := by
  constructor
  · intro given
    obtain ⟨low', high', range', within⟩ := given
    obtain ⟨rfl, rfl⟩ := Prod.mk.inj (Option.some.inj (range.symm.trans range'))
    exact within
  · exact fun within => ⟨low, high, range, within⟩

/-- The integer of the type that `n` is cast to: the one with the same bits in the width
of the type. -/
def wrap (p : Primitive) (n : Int) : Int :=
  match p.range? with
  | some (low, high) => low + (n - low) % (high - low + 1)
  | none => n

/-- A cast leaves the integers of the type alone. -/
theorem wrap_of_holds {p : Primitive} {n : Int} (h : p.Holds n) : p.wrap n = n := by
  obtain ⟨low, high, range, least, most⟩ := h
  simp only [wrap, range]
  rw [Int.emod_eq_of_lt (by omega) (by omega)]
  omega

/-- The type that is found by the name of an integral type has the same range. -/
theorem ofRustType?_rustType {p : Primitive} (integral : p.isIntegral = true) :
    ∃ q, ofRustType? p.rustType = some q ∧ q.range? = p.range? := by
  cases p with
  | float | double => exact absurd integral (by decide)
  | _ => exact ⟨_, rfl, rfl⟩

end Primitive

namespace Source

/-- A literal of a whole number. -/
inductive Numeral where
  | plain (number : Int)
  | suffixed (number : Int) (typeName : String)
  | cast (number : Int) (typeName : String)
  deriving DecidableEq, Repr

namespace Numeral

/-- The type that is written with the number. -/
def typeName? : Numeral → Option String
  | plain _ => none
  | suffixed _ name => some name
  | cast _ name => some name

/-- The literal of an integer in a type: types narrower than a machine word are cast, wider
ones are a suffix. -/
def ofType (p : Primitive) (n : Int) : Numeral :=
  match p with
  | .int32 | .uint32 => plain n
  | .int64 | .uint64 => suffixed n p.rustType
  | _ => cast n p.rustType

/-- Reads a natural number off the front. -/
def readNatural (cs : List Char) : Option (Nat × List Char) :=
  match cs.takeWhile Char.isDigit with
  | [] => none
  | digits => some (Nat.ofDigitChars 10 digits 0, cs.dropWhile Char.isDigit)

/-- Reads a number with an optional sign off the front. -/
def readInteger : List Char → Option (Int × List Char)
  | '-' :: cs => (readNatural cs).map fun (n, rest) => (-(n : Int), rest)
  | cs => (readNatural cs).map fun (n, rest) => ((n : Int), rest)

/-- Reads what stands behind the number of a cast. -/
def readCast : List Char → Option String
  | ' ' :: 'a' :: 's' :: ' ' :: cs =>
    if cs.getLast? = some ')' then some (String.ofList cs.dropLast) else none
  | _ => none

/-- Reads a literal. -/
def read (text : String) : Option Numeral :=
  match text.toList with
  | '(' :: cs => do
    let (n, rest) ← readInteger cs
    return cast n (← readCast rest)
  | cs => do
    let (n, rest) ← readInteger cs
    return if rest.isEmpty then plain n else suffixed n (String.ofList rest)

/-- The integer that a literal denotes. A number with a suffix has to be one of the type;
one that is cast is wrapped. -/
def value? : Numeral → Option Int
  | plain n => some n
  | suffixed n name =>
    match (Primitive.ofRustType? name).bind Primitive.range? with
    | some (low, high) => if low ≤ n ∧ n ≤ high then some n else none
    | none => none
  | cast n name => (Primitive.ofRustType? name).map (·.wrap n)

/-- The integer that a literal with this text denotes. -/
def valueOf? (text : String) : Option Int := (read text).bind value?

/-- The integer that a pattern with this text matches. -/
def pattern? (text : String) : Option Int :=
  match readInteger text.toList with
  | some (n, []) => some n
  | _ => none

end Numeral

end Source

end Flyweight
