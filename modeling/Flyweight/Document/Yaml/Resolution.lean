import Flyweight.Binary64
import Flyweight.Document.Yaml.Node

/- What the text of a plain scalar denotes: null, a truth value, a number or
text. -/

namespace Flyweight.Yaml

/-- A value that a scalar denotes. -/
inductive Meaning where
  | null
  | bool (value : Bool)
  | int (value : Int)
  | double (value : Binary64)
  | text
  deriving DecidableEq, Repr

/-- Whether the text is a word for null. -/
def isNullWord (s : String) : Bool := ["null", "Null", "NULL", "~"].contains s

/-- The truth value that a word denotes. -/
def boolWord? (s : String) : Option Bool :=
  if ["true", "True", "TRUE"].contains s then some true
  else if ["false", "False", "FALSE"].contains s then some false
  else none

/-! ## Integers -/

/-- The value of a digit of the base. -/
def digitIn? (base : Nat) (c : Char) : Option Nat :=
  (Hexadecimal.digit? c).bind fun d => if d < base then some d else none

/-- The natural number written in the base, without a sign. -/
def naturalIn? (base : Nat) (cs : List Char) : Option Nat :=
  if cs.isEmpty then none else cs.foldlM (fun n c => (digitIn? base c).map (n * base + ·)) 0

/-- Whether the text has a leading zero before other digits, which makes it text
rather than a number. -/
def hasLeadingZero (cs : List Char) : Bool :=
  let digits :=
    match cs with
    | '+' :: rest => rest
    | '-' :: rest => rest
    | rest => rest
  match digits with
  | '0' :: c :: rest => (c :: rest).all Char.isDigit
  | _ => false

/-- The natural number that a text without a sign denotes: in base sixteen, eight
or two after its mark, else in base ten. -/
def unsignedDigits? : List Char → Option Nat
  | '0' :: 'x' :: digits => naturalIn? 16 digits
  | '0' :: 'o' :: digits => naturalIn? 8 digits
  | '0' :: 'b' :: digits => naturalIn? 2 digits
  | digits => naturalIn? 10 digits

/-- The natural number that a text denotes, with or without a plus sign. -/
def natural? (s : String) : Option Nat :=
  if hasLeadingZero s.toList then none
  else
    match s.toList with
    | '+' :: rest => unsignedDigits? rest
    | rest => unsignedDigits? rest

/-- The integer that a text with a minus sign denotes. -/
def negative? (s : String) : Option Int :=
  if hasLeadingZero s.toList then none
  else
    match s.toList with
    | '-' :: rest => (unsignedDigits? rest).map fun n => -(n : Int)
    | _ => none

/-- The integer that a text denotes. -/
def integer? (s : String) : Option Int :=
  match natural? s with
  | some n => some n
  | none => negative? s

/-! ## Doubles -/

/-- Splits the decimal digits off the front. -/
def splitDigits (cs : List Char) : List Char × List Char := cs.span Char.isDigit

/-- The value of decimal digits. -/
def decimalValue (digits : List Char) : Nat :=
  digits.foldl (fun n d => n * 10 + (d.toNat - '0'.toNat)) 0

/-- The exponent at the end of a number; zero if there is none. -/
def exponent? : List Char → Option Int
  | [] => some 0
  | e :: rest =>
    if e == 'e' || e == 'E' then
      let (negative, digits) :=
        match rest with
        | '+' :: digits => (false, digits)
        | '-' :: digits => (true, digits)
        | digits => (false, digits)
      if digits.isEmpty || !digits.all Char.isDigit then none
      else
        let n : Int := decimalValue digits
        some (if negative then -n else n)
    else none

/-- The double nearest to a number written with digits, a point and an exponent,
all but the digits optional; none if it is infinite. -/
def decimal? (negative : Bool) (cs : List Char) : Option Binary64 := do
  let (whole, cs) := splitDigits cs
  let (fraction, cs) :=
    match cs with
    | '.' :: rest => splitDigits rest
    | rest => ([], rest)
  if whole.isEmpty && fraction.isEmpty then none
  let exponent ← exponent? cs
  let x := Binary64.ofDecimal negative (decimalValue (whole ++ fraction))
    (exponent - fraction.length)
  if x.isFinite then some x else none

/-- The pattern for what is no number. -/
def notANumber : Binary64 := ⟨0x7ff8000000000000⟩

/-- Whether the text is a word for infinity, without a sign. -/
def isInfinityWord (cs : List Char) : Bool :=
  [".inf", ".Inf", ".INF"].contains (String.ofList cs)

/-- The double that a text denotes. -/
def double? (s : String) : Option Binary64 :=
  if [".nan", ".NaN", ".NAN"].contains s then some notANumber
  else
    match s.toList with
    | '+' :: rest =>
      if isInfinityWord rest then some (Binary64.ofMagnitude false Binary64.infinityMagnitude)
      else decimal? false rest
    | '-' :: rest =>
      if isInfinityWord rest then some (Binary64.ofMagnitude true Binary64.infinityMagnitude)
      else decimal? true rest
    | rest =>
      if isInfinityWord rest then some (Binary64.ofMagnitude false Binary64.infinityMagnitude)
      else decimal? false rest

/-- Whether an integer has at most 128 bits, signed or not. -/
def isWide (n : Int) : Bool :=
  -0x80000000000000000000000000000000 ≤ n && n < 0x100000000000000000000000000000000

/-- What the text of a plain scalar denotes. An integer of more than 128 bits is
read as a double. -/
def meaningOf (s : String) : Meaning :=
  if s.isEmpty || isNullWord s then .null
  else
    match boolWord? s with
    | some b => .bool b
    | none =>
      match (integer? s).filter isWide with
      | some n => .int n
      | none =>
        if hasLeadingZero s.toList then .text
        else
          match double? s with
          | some x => .double x
          | none => .text

end Flyweight.Yaml
