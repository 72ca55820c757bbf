/- Double-precision numbers as bit patterns, with exact rounding.

   A finite number is `significand * 2 ^ exponent`. Arithmetic is done on
   naturals and rounded once, to nearest with ties to even
   (`Binary64.nearest`), so no machine floating-point operation is involved. -/

namespace Flyweight

/-- A double-precision number: a sign bit, eleven exponent bits and fifty-two
fraction bits. -/
structure Binary64 where
  bits : UInt64
  deriving DecidableEq, Repr, Inhabited

namespace Binary64

/-- The fraction field. -/
def fraction (x : Binary64) : Nat := x.bits.toNat % 0x10000000000000

/-- The exponent field. -/
def exponentField (x : Binary64) : Nat := x.bits.toNat / 0x10000000000000 % 0x800

/-- Whether the sign bit is set. -/
def isNegative (x : Binary64) : Bool := 0x8000000000000000 ≤ x.bits.toNat

/-- Whether the number is neither infinite nor undefined. -/
def isFinite (x : Binary64) : Bool := x.exponentField < 2047

/-- Whether the pattern stands for no number. -/
def isNaN (x : Binary64) : Bool := x.exponentField == 2047 && x.fraction != 0

/-- Whether the number is zero, of either sign. -/
def isZero (x : Binary64) : Bool := x.exponentField == 0 && x.fraction == 0

/-- The integer factor of a finite number's magnitude. -/
def significand (x : Binary64) : Nat :=
  if x.exponentField = 0 then x.fraction else 0x10000000000000 + x.fraction

/-- The power of two of a finite number's magnitude. -/
def exponent (x : Binary64) : Int :=
  if x.exponentField = 0 then -1074 else (x.exponentField : Int) - 1075

/-- Whether the gap to the next smaller magnitude is half the gap to the next
larger one, as it is at powers of two. -/
def narrowBelow (x : Binary64) : Bool := x.fraction == 0 && 1 < x.exponentField

/-- The number with the given sign and magnitude field. -/
def ofMagnitude (negative : Bool) (magnitude : Nat) : Binary64 :=
  ⟨UInt64.ofNat (magnitude + if negative then 0x8000000000000000 else 0)⟩

/-- The magnitude field of the infinities. -/
def infinityMagnitude : Nat := 2047 * 0x10000000000000

/-- The quotient rounded to an integer, ties to even. -/
def roundEven (num den : Nat) : Nat :=
  let q := num / den
  match compare (2 * (num % den)) den with
  | .lt => q
  | .gt => q + 1
  | .eq => q + q % 2

/-- The magnitude field nearest to `num / den`, ties to even; past the greatest
finite magnitude it is infinite. -/
def nearestMagnitude (num den : Nat) : Nat :=
  if num = 0 then 0
  else
    let quotient (q : Int) : Nat × Nat := (num * Nat.pow 2 (-q).toNat, den * Nat.pow 2 q.toNat)
    let low : Int := max ((num.log2 : Int) - den.log2 - 53) (-1074)
    let coarse := quotient low
    let q := if 0x20000000000000 ≤ coarse.1 / coarse.2 then low + 1 else low
    let scaled := quotient q
    min infinityMagnitude ((q + 1074).toNat * 0x10000000000000 + roundEven scaled.1 scaled.2)

/-- The number nearest to `num / den`, with the given sign. -/
def nearest (negative : Bool) (num den : Nat) : Binary64 :=
  ofMagnitude negative (nearestMagnitude num den)

/-- The magnitude of a finite number as a quotient. -/
def toRatio (x : Binary64) : Nat × Nat :=
  (x.significand * Nat.pow 2 x.exponent.toNat, Nat.pow 2 (-x.exponent).toNat)

/-- The product of two magnitudes, rounded once. -/
def mul (x y : Binary64) : Binary64 :=
  nearest false (x.toRatio.1 * y.toRatio.1) (x.toRatio.2 * y.toRatio.2)

/-- The quotient of two magnitudes, rounded once. -/
def div (x y : Binary64) : Binary64 :=
  nearest false (x.toRatio.1 * y.toRatio.2) (x.toRatio.2 * y.toRatio.1)

/-- The number nearest to `digits * 10 ^ exponent`, with the given sign.
Exponents far outside the finite range are decided without computing the power. -/
def ofDecimal (negative : Bool) (digits : Nat) (exponent : Int) : Binary64 :=
  if digits = 0 then ofMagnitude negative 0
  else if 400 < exponent then ofMagnitude negative infinityMagnitude
  else if exponent + digits.log2 + 1 < -400 then ofMagnitude negative 0
  else nearest negative (digits * Nat.pow 10 exponent.toNat) (Nat.pow 10 (-exponent).toNat)

/-- The same magnitude with the sign bit set. -/
def negate (x : Binary64) : Binary64 := ofMagnitude true (x.bits.toNat % 0x8000000000000000)

/-- Whether the magnitude is at most the natural `n`; no answer is `true` for a
pattern that stands for no number. -/
def magnitudeAtMost (x : Binary64) (n : Nat) : Bool :=
  x.isFinite && x.toRatio.1 ≤ n * x.toRatio.2

end Binary64

end Flyweight
