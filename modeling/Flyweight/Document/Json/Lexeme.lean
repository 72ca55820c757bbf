import Flyweight.Document.Json.Number
import Flyweight.Text.Hexadecimal

/- The lexemes of JSON text.

   Lexing reads the whole text before any structure is looked at. A text whose
   escapes leave half a surrogate pair, and a number beyond all doubles, are
   lexemes too: they matter only where their value is needed. -/

namespace Flyweight.Json

/-- A lexeme of JSON text. -/
inductive Lexeme where
  | openList
  | closeList
  | openRecord
  | closeRecord
  | comma
  | colon
  /-- text in quotes; without a value if half a surrogate pair is left -/
  | text (value : Option String)
  /-- a number, a truth value or null -/
  | scalar (value : Datum)
  deriving Repr, Inhabited

/-- A piece of text in quotes: a character, or half a surrogate pair from an
escape. -/
inductive Piece where
  | char (c : Char)
  | half (unit : Nat)
  deriving DecidableEq, Repr

/-- Joins the halves of surrogate pairs; none if a half is left alone. -/
def joinHalves : List Piece → Option (List Char)
  | [] => some []
  | .char c :: rest => (joinHalves rest).map (c :: ·)
  | .half high :: .half low :: rest =>
    if high < 0xDC00 ∧ 0xDC00 ≤ low then
      (joinHalves rest).map (Char.ofNat (0x10000 + (high - 0xD800) * 0x400 + (low - 0xDC00)) :: ·)
    else none
  | .half _ :: _ => none

/-- The piece that a 16-bit unit stands for. -/
def Piece.ofUnit (unit : Nat) : Piece :=
  if 0xD800 ≤ unit ∧ unit < 0xE000 then .half unit else .char (Char.ofNat unit)

/-- The character that a backslash and a letter stand for. -/
def escaped? : Char → Option Char
  | '"' => some '"'
  | '\\' => some '\\'
  | '/' => some '/'
  | 'b' => some '\x08'
  | 'f' => some '\x0c'
  | 'n' => some '\n'
  | 'r' => some '\r'
  | 't' => some '\t'
  | _ => none

/-- Reads text up to its closing quote; gives its pieces and what follows the
quote. -/
def readPieces : List Char → Option (List Piece × List Char)
  | [] => none
  | '"' :: rest => some ([], rest)
  | '\\' :: 'u' :: a :: b :: c :: d :: rest => do
    let unit ← Hexadecimal.value? [a, b, c, d]
    let (pieces, rest) ← readPieces rest
    return (.ofUnit unit :: pieces, rest)
  | '\\' :: c :: rest => do
    let c ← escaped? c
    let (pieces, rest) ← readPieces rest
    return (.char c :: pieces, rest)
  | c :: rest => do
    if c.toNat < 0x20 || c == '\\' then none
    let (pieces, rest) ← readPieces rest
    return (.char c :: pieces, rest)

/-- Splits the decimal digits off the front. -/
def splitDigits (cs : List Char) : List Char × List Char := cs.span Char.isDigit

/-- Reads the fraction of a number: a point and at least one digit, or nothing. -/
def readFraction : List Char → Option (List Char × List Char)
  | '.' :: rest =>
    match splitDigits rest with
    | ([], _) => none
    | (digits, rest) => some (digits, rest)
  | rest => some ([], rest)

/-- Reads an exponent after its letter: an optional sign and at least one digit.
The first component says whether the exponent is negative. -/
def readExponentDigits (cs : List Char) : Option (Bool × List Char × List Char) :=
  let (negative, cs) :=
    match cs with
    | '+' :: rest => (false, rest)
    | '-' :: rest => (true, rest)
    | rest => (false, rest)
  match splitDigits cs with
  | ([], _) => none
  | (digits, rest) => some (negative, digits, rest)

/-- Reads the exponent of a number, or nothing. -/
def readExponent : List Char → Option (Bool × List Char × List Char)
  | 'e' :: rest => readExponentDigits rest
  | 'E' :: rest => readExponentDigits rest
  | rest => some (false, [], rest)

/-- Reads the whole part of a number: a single zero, or digits that do not start
with one. -/
def readWhole : List Char → Option (List Char × List Char)
  | '0' :: rest => some (['0'], rest)
  | cs =>
    match splitDigits cs with
    | ([], _) => none
    | (digits, rest) => some (digits, rest)

/-- Reads a number after its sign. -/
def readNumeral (negative : Bool) (cs : List Char) : Option (Numeral × List Char) := do
  let (whole, cs) ← readWhole cs
  let (fraction, cs) ← readFraction cs
  let (negativeExponent, exponent, cs) ← readExponent cs
  return (⟨negative, whole, fraction, negativeExponent, exponent⟩, cs)

/-- Whether JSON allows the character between lexemes. -/
def isBlank (c : Char) : Bool := c == ' ' || c == '\t' || c == '\n' || c == '\r'

/-- Reads one lexeme that starts at the front. -/
def readLexeme : List Char → Option (Lexeme × List Char)
  | '[' :: rest => some (.openList, rest)
  | ']' :: rest => some (.closeList, rest)
  | '\x7b' :: rest => some (.openRecord, rest)
  | '\x7d' :: rest => some (.closeRecord, rest)
  | ',' :: rest => some (.comma, rest)
  | ':' :: rest => some (.colon, rest)
  | 'n' :: 'u' :: 'l' :: 'l' :: rest => some (.scalar .null, rest)
  | 't' :: 'r' :: 'u' :: 'e' :: rest => some (.scalar (.bool true), rest)
  | 'f' :: 'a' :: 'l' :: 's' :: 'e' :: rest => some (.scalar (.bool false), rest)
  | '"' :: rest => do
    let (pieces, rest) ← readPieces rest
    return (.text ((joinHalves pieces).map String.ofList), rest)
  | '-' :: rest => (readNumeral true rest).map fun (n, rest) => (.scalar n.datum, rest)
  | cs => (readNumeral false cs).map fun (n, rest) => (.scalar n.datum, rest)

/-- Reads lexemes up to the end of the text; `fuel` bounds their number. -/
def readLexemes : Nat → List Char → Option (List Lexeme)
  | 0, _ => none
  | fuel + 1, cs =>
    match cs.dropWhile isBlank with
    | [] => some []
    | cs => do
      let (lexeme, rest) ← readLexeme cs
      let lexemes ← readLexemes fuel rest
      return lexeme :: lexemes

/-- The lexemes of a text. Every lexeme takes at least one character. -/
def lexemes (text : String) : Option (List Lexeme) :=
  let cs := text.toList
  readLexemes (cs.length + 1) cs

end Flyweight.Json
