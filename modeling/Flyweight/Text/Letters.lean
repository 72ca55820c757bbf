import Flyweight.Text.Letters.Table

/- Letters, digits and their case, in all of Unicode. -/

namespace Flyweight.Letters

/-- Whether the character is a letter or a digit. -/
def isAlphanumeric (c : Char) : Bool :=
  if c.toNat < 0x80 then c.isAlphanum else alphanumeric.any (·.contains c.toNat)

/-- Whether the character is a small letter. -/
def isLower (c : Char) : Bool :=
  if c.toNat < 0x80 then c.isLower else lowercase.any (·.contains c.toNat)

/-- Whether the character is a capital letter. -/
def isUpper (c : Char) : Bool :=
  if c.toNat < 0x80 then c.isUpper else uppercase.any (·.contains c.toNat)

/-- The image of a code point under a case mapping given by its two tables. -/
def mapped (shifts : List Shift) (sequences : List (Nat × List Nat)) (c : Char) : List Char :=
  match sequences.lookup c.toNat with
  | some codes => codes.map Char.ofNat
  | none =>
    match shifts.find? (·.span.contains c.toNat) with
    | some s => [Char.ofNat (c.toNat + s.distance).toNat]
    | none => [c]

/-- The small form of a character. -/
def toLower (c : Char) : List Char :=
  if c.toNat < 0x80 then [c.toLower] else mapped lowerShifts lowerSequences c

/-- The capital form of a character. -/
def toUpper (c : Char) : List Char :=
  if c.toNat < 0x80 then [c.toUpper] else mapped upperShifts upperSequences c

end Flyweight.Letters
