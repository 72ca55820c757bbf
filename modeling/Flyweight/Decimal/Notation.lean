import Flyweight.Decimal.Shortest

/- How a double-precision number is written.

   `Decimal.Notation` holds the decisions that formats take differently; the
   digits themselves come from `Decimal.shortest`. -/

namespace Flyweight.Decimal

/-- The decisions of a format about the text of a number. -/
structure Notation where
  /-- which of two equally near shortest decimals is written -/
  tie : Tie
  /-- whether a number is written without an exponent, from the exponent of its
  leading digit -/
  positional : Int → Bool
  /-- what follows the digits of a whole number written without an exponent -/
  wholeMark : String
  /-- what precedes the digits of an exponent that is not negative -/
  plus : String
  /-- the text of a pattern that stands for no number -/
  undefined : String
  /-- the text of positive infinity -/
  infinity : String

/-- `n` zeros. -/
def zeros (n : Nat) : String := String.ofList (List.replicate n '0')

/-- The digits with the point where the exponent of the leading digit puts it. -/
def positionalText (wholeMark : String) (digits : List Char) (leading : Int) : String :=
  let count := digits.length
  if leading < 0 then "0." ++ zeros (-leading - 1).toNat ++ String.ofList digits
  else if (count : Int) ≤ leading + 1 then
    String.ofList digits ++ zeros (leading + 1 - count).toNat ++ wholeMark
  else
    let before := (leading + 1).toNat
    String.ofList (digits.take before) ++ "." ++ String.ofList (digits.drop before)

/-- The digits with a point after the first, and the exponent. -/
def exponentText (plus : String) (digits : List Char) (leading : Int) : String :=
  let mantissa :=
    match digits with
    | [] => "0"
    | [d] => d.toString
    | d :: rest => d.toString ++ "." ++ String.ofList rest
  let exponent :=
    if leading < 0 then "-" ++ toString leading.natAbs else plus ++ toString leading.natAbs
  mantissa ++ "e" ++ exponent

/-- The text of a magnitude. -/
def Notation.magnitude (n : Notation) (x : Binary64) : String :=
  let d := shortest n.tie x
  let digits := Nat.toDigits 10 d.digits
  let leading := d.exponent + digits.length - 1
  if n.positional leading then positionalText n.wholeMark digits leading
  else exponentText n.plus digits leading

/-- The text of a number. -/
def Notation.text (n : Notation) (x : Binary64) : String :=
  if x.isNaN then n.undefined
  else
    let sign := if x.isNegative then "-" else ""
    sign ++ if x.isFinite then n.magnitude x else n.infinity

/-- Numbers in messages and in generated code: never with an exponent, whole
numbers without a point. -/
def plain : Notation where
  tie := .awayFromZero
  positional := fun _ => true
  wholeMark := ""
  plus := ""
  undefined := "NaN"
  infinity := "inf"

/-- Whether a leading digit of this exponent is written positionally in a
document: from `10 ^ -5` up to but not including `10 ^ 16`. -/
def documentRange (leading : Int) : Bool := -5 ≤ leading && leading < 16

/-- Numbers in JSON documents, where a number that is not finite is null. -/
def json : Notation where
  tie := .toEven
  positional := documentRange
  wholeMark := ".0"
  plus := "+"
  undefined := "null"
  infinity := "null"

/-- Numbers in YAML documents. -/
def yaml : Notation where
  tie := .toEven
  positional := documentRange
  wholeMark := ".0"
  plus := ""
  undefined := ".nan"
  infinity := ".inf"

end Flyweight.Decimal
