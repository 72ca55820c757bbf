/- Naturals in hexadecimal. Digits are written small and read in either case. -/

namespace Flyweight.Hexadecimal

/-- The value of a digit. -/
def digit? (c : Char) : Option Nat :=
  if '0' ≤ c ∧ c ≤ '9' then some (c.toNat - '0'.toNat)
  else if 'a' ≤ c ∧ c ≤ 'f' then some (c.toNat - 'a'.toNat + 10)
  else if 'A' ≤ c ∧ c ≤ 'F' then some (c.toNat - 'A'.toNat + 10)
  else none

/-- The value of digits, the first one the most significant. -/
def value? (digits : List Char) : Option Nat :=
  digits.foldlM (fun n c => (digit? c).map (n * 16 + ·)) 0

/-- The digits of a natural, with zeros before them up to a width. -/
def digits (width n : Nat) : List Char :=
  let shortest := Nat.toDigits 16 n
  List.replicate (width - shortest.length) '0' ++ shortest

end Flyweight.Hexadecimal
