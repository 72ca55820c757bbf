import Flyweight.Document.Datum

/- The value of a JSON number.

   A whole number within 64 bits is an integer. Any other number is a double
   found in three steps: the leading digits that fit 64 bits are taken as one
   integer, that integer is rounded, and the result is multiplied or divided by
   a rounded power of ten. Each step rounds, so the last digit may differ from
   that of the nearest double. -/

namespace Flyweight.Json

/-- The parts of a number as written. `fraction` and `exponent` are empty when
absent. -/
structure Numeral where
  negative : Bool
  whole : List Char
  fraction : List Char
  negativeExponent : Bool
  exponent : List Char
  deriving DecidableEq, Repr

namespace Numeral

/-- The value of a decimal digit. -/
def digit (c : Char) : Nat := c.toNat - '0'.toNat

/-- Appends digits to an integer for as long as it stays within 64 bits; the
digits that do not go in are given back. -/
def absorb (n : Nat) : List Char → Nat × List Char
  | [] => (n, [])
  | c :: rest =>
    if n * 10 + digit c < 0x10000000000000000 then absorb (n * 10 + digit c) rest
    else (n, c :: rest)

/-- The exponent's digits as a number, unless it exceeds 31 bits. -/
def exponentValue (digits : List Char) : Option Nat :=
  digits.foldlM
    (fun n c => if n * 10 + digit c < 0x80000000 then some (n * 10 + digit c) else none) 0

/-- A power of ten, rounded. -/
def powerOfTen (n : Nat) : Binary64 := Binary64.ofDecimal false 1 n

/-- Multiplies a magnitude by a power of ten. Powers below `10 ^ -308` are taken
in several divisions, of which `fuel` bounds the number. -/
def scaleBy : Nat → Binary64 → Int → Option Binary64
  | 0, _, _ => none
  | fuel + 1, x, exponent =>
    if exponent.natAbs ≤ 308 then
      if 0 ≤ exponent then
        let product := x.mul (powerOfTen exponent.natAbs)
        if product.isFinite then some product else none
      else some (x.div (powerOfTen exponent.natAbs))
    else if x.isZero then some x
    else if 0 ≤ exponent then none
    else scaleBy fuel (x.div (powerOfTen 308)) (exponent + 308)

/-- The magnitude of a numeral that is not an integer within 64 bits; none if it
is beyond all doubles. The smallest dividend is exhausted after two divisions by
`10 ^ 308`. -/
def magnitude (n : Numeral) : Option Binary64 :=
  let (leading, excess) := absorb 0 n.whole
  let (significand, remaining) := absorb leading n.fraction
  let shift : Int := excess.length - (n.fraction.length - remaining.length)
  match exponentValue n.exponent with
  | some e =>
    scaleBy 4 (Binary64.nearest false significand 1)
      (if n.negativeExponent then shift - e else shift + e)
  | none =>
    if significand ≠ 0 ∧ n.negativeExponent = false then none
    else some (Binary64.ofMagnitude false 0)

/-- The integer that the numeral denotes, if it is written as one and fits the
signed or the unsigned 64-bit range; `-0` is none. -/
def integer? (n : Numeral) : Option Int :=
  if n.fraction.isEmpty && n.exponent.isEmpty then
    match absorb 0 n.whole with
    | (value, []) =>
      if n.negative then
        if 0 < value ∧ value ≤ 0x8000000000000000 then some (-(value : Int)) else none
      else some value
    | _ => none
  else none

/-- The datum that the numeral denotes. -/
def datum (n : Numeral) : Datum :=
  match n.integer? with
  | some i => .int i
  | none =>
    match n.magnitude with
    | some x => .double (if n.negative then x.negate else x)
    | none => .unreadable

end Numeral

end Flyweight.Json
