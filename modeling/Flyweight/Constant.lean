import Flyweight.Decimal.Notation

/- Constants declared by a schema.

   A constant is the code of an enum's valid value, the bit index of a set's
   choice, or the value of a field that is not transmitted. An integer has two
   carriers, signed and unsigned; `Constant.integer?` is its mathematical value
   whichever carries it. -/

namespace Flyweight

/-- A constant of a schema. -/
inductive Constant where
  | long (value : Int64)
  | unsignedLong (value : UInt64)
  | double (value : Binary64)
  deriving DecidableEq, Repr

namespace Constant

/-- The integer that the constant denotes, if it denotes one. -/
def integer? : Constant → Option Int
  | long v => some v.toInt
  | unsignedLong v => some v.toNat
  | double _ => none

/-- The natural number that the constant denotes, if it denotes one. -/
def natural? : Constant → Option Nat
  | long v => if 0 ≤ v.toInt then some v.toInt.toNat else none
  | unsignedLong v => some v.toNat
  | double _ => none

/-- The constant in messages and in generated code. -/
def text : Constant → String
  | long v => toString v.toInt
  | unsignedLong v => toString v.toNat
  | double x => Decimal.plain.text x

/-- The constant that carries the integer `n`: signed if it fits the signed
carrier, else unsigned; integers that fit neither have no constant. -/
def ofInt? (n : Int) : Option Constant :=
  if -0x8000000000000000 ≤ n ∧ n < 0x8000000000000000 then some (long (Int64.ofInt n))
  else if 0x8000000000000000 ≤ n ∧ n < 0x10000000000000000 then
    some (unsignedLong (UInt64.ofNat n.toNat))
  else none

end Constant

end Flyweight
