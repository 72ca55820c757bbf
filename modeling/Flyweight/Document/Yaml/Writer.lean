import Flyweight.Decimal.Notation
import Flyweight.Document.Datum
import Flyweight.Document.Yaml.Resolution

/- YAML text of a datum, in block style.

   A list stands at the indentation of the key before it, and the first item or
   field of a collection inside a list stands on the line of its hyphen. Text is
   written plain where it reads back as itself, else in quotes or as a literal
   block. -/

namespace Flyweight.Yaml

/-- `n` spaces. -/
def spaces (n : Nat) : List Char := List.replicate n ' '

/-! ## Which style a text takes -/

/-- Words that some readers take for truth values. -/
def truthWords : List String :=
  ["y", "Y", "yes", "Yes", "YES", "n", "N", "no", "No", "NO", "true", "True", "TRUE", "false",
    "False", "FALSE", "on", "On", "ON", "off", "Off", "OFF"]

/-- Whether a text, though it denotes text, looks like something else: a word for
null or a truth value in any case, or the start of a number. -/
def looksAmbiguous (s : String) : Bool :=
  let lower := s.toLower
  isNullWord lower || (boolWord? lower).isSome ||
    match s.toList with
    | [] => true
    | c :: _ => c.isDigit || c == '-' || c == '.' || c == '+'

/-- The style that a text asks for; its characters may call for another. -/
def wantedStyle (s : String) : ScalarStyle :=
  if truthWords.contains s then .singleQuoted
  else if s.toList.contains '\n' then .literal
  else if meaningOf s ≠ .text || looksAmbiguous s then .singleQuoted
  else .plain

/-- Whether the character can be written as it is. -/
def isPrintable (c : Char) : Bool :=
  let n := c.toNat
  n == 0x0A || (0x20 ≤ n && n ≤ 0x7E) || (0xA0 ≤ n && n != 0xFEFF && n != 0xFFFE && n != 0xFFFF)

/-- Whether a text of these characters starts with an indicator of YAML. -/
def startsWithIndicator : List Char → Bool
  | [] => false
  | c :: rest =>
    "#,[]\x7b\x7d&*!|>'\"%@`".contains c || ((c == '?' || c == ':' || c == '-') && endsWord rest)

/-- Whether an indicator stands inside a text: a colon before a blank or a hash
behind one. `afterBlank` says whether a blank precedes the characters. -/
def hasIndicatorInside (afterBlank : Bool) : List Char → Bool
  | [] => false
  | c :: rest =>
    (c == ':' && endsWord rest) || (c == '#' && afterBlank) ||
      hasIndicatorInside (isBlank c || isBreak c) rest

/-- Whether one of two neighbours satisfies `p` and the next one `q`. -/
def hasNeighbours (p q : Char → Bool) : List Char → Bool
  | a :: b :: rest => (p a && q b) || hasNeighbours p q (b :: rest)
  | _ => false

/-- A space, which a tab is not. -/
def isSpace (c : Char) : Bool := c == ' '

/-- Whether only a text in double quotes can hold these characters. -/
def needsEscapes (cs : List Char) : Bool := !cs.all isPrintable || hasNeighbours isSpace isBreak cs

/-- Whether the text may be written plain. -/
def mayBePlain (cs : List Char) : Bool :=
  let atEnd := (cs.take 1 ++ cs.getLast?.toList).any fun c => isSpace c || isBreak c
  !(atEnd || needsEscapes cs || cs.any isBreak || startsWithIndicator cs ||
    hasIndicatorInside false (cs.drop 1) || cs.take 3 == ['-', '-', '-'] ||
    cs.take 3 == ['.', '.', '.'])

/-- Whether the text may be written in single quotes. -/
def mayBeSingleQuoted (cs : List Char) : Bool :=
  !(needsEscapes cs || hasNeighbours isBreak isSpace cs)

/-- Whether the text may be written as a literal block. -/
def mayBeLiteral (cs : List Char) : Bool := !(needsEscapes cs || cs.getLast?.any isSpace)

/-- The style in which a text is written. -/
def styleOf (s : String) : ScalarStyle :=
  let cs := s.toList
  let quoted : ScalarStyle := if mayBeSingleQuoted cs then .singleQuoted else .doubleQuoted
  match wantedStyle s with
  | .plain => if mayBePlain cs then .plain else quoted
  | .literal => if mayBeLiteral cs then .literal else .doubleQuoted
  | _ => quoted

/-! ## The styles -/

/-- Characters in which the first one after line breaks is moved to the
indentation. `afterBreak` says whether a break precedes the characters. -/
def indentLines (indent : Nat) (afterBreak : Bool) : List Char → List Char
  | [] => []
  | c :: rest =>
    if isBreak c then c :: indentLines indent true rest
    else (if afterBreak then spaces indent else []) ++ c :: indentLines indent false rest

/-- A text in single quotes: a quote inside is written twice. -/
def singleQuoted (indent : Nat) (cs : List Char) : List Char :=
  let doubled := cs.flatMap fun c => if c == '\'' then ['\'', '\''] else [c]
  let closing := if cs.getLast?.any isBreak then spaces indent else []
  '\'' :: indentLines indent false doubled ++ closing ++ ['\'']

/-- A natural number in hexadecimal, in capitals, with at least `width` digits. -/
def upperHex (width n : Nat) : List Char := (Hexadecimal.digits width n).map Char.toUpper

/-- The letter that stands for a character behind a backslash. -/
def escapeLetter? (c : Char) : Option Char :=
  [('\x00', '0'), ('\x07', 'a'), ('\x08', 'b'), ('\t', 't'), ('\n', 'n'), ('\x0b', 'v'),
    ('\x0c', 'f'), ('\x0d', 'r'), ('\x1b', 'e'), ('"', '"'), ('\\', '\\'), (nextLine, 'N'),
    (lineSeparator, 'L'), (paragraphSeparator, 'P')].lookup c

/-- A character as written in double quotes. -/
def doubleQuotedChar (c : Char) : List Char :=
  if isPrintable c && !isBreak c && c != '"' && c != '\\' then [c]
  else
    match escapeLetter? c with
    | some letter => ['\\', letter]
    | none =>
      if c.toNat ≤ 0xFF then '\\' :: 'x' :: upperHex 2 c.toNat
      else if c.toNat ≤ 0xFFFF then '\\' :: 'u' :: upperHex 4 c.toNat
      else '\\' :: 'U' :: upperHex 8 c.toNat

/-- A text in double quotes. -/
def doubleQuoted (cs : List Char) : List Char := '"' :: cs.flatMap doubleQuotedChar ++ ['"']

/-- The header of a literal block: how deep it is indented, if that cannot be seen
from its first line, and how it ends. -/
def literalHeader (cs : List Char) : List Char :=
  let indentation := if cs.head?.any fun c => isSpace c || isBreak c then ['2'] else []
  let ending :=
    match cs.reverse with
    | [] => ['-']
    | [c] => if isBreak c then ['+'] else ['-']
    | c :: before :: _ => if !isBreak c then ['-'] else if isBreak before then ['+'] else []
  '|' :: indentation ++ ending

/-- A text as a literal block. -/
def literalBlock (indent : Nat) (cs : List Char) : List Char :=
  let line := if cs.getLast?.any isBreak then [] else ['\n']
  literalHeader cs ++ '\n' :: indentLines indent true cs ++ line

/-- A text with the end of its last line. Lines after the first stand at the
indentation. -/
def scalarText (indent : Nat) (s : String) : String :=
  let cs := s.toList
  String.ofList <|
    match styleOf s with
    | .plain => cs ++ ['\n']
    | .singleQuoted => singleQuoted indent cs ++ ['\n']
    | .literal => literalBlock indent cs
    | _ => doubleQuoted cs ++ ['\n']

/-! ## Collections -/

/-- Spaces as text. -/
def blanks (n : Nat) : String := String.ofList (spaces n)

mutual

/-- A datum behind a hyphen; what stands on later lines is indented by `n`. -/
def item (n : Nat) : Datum → String
  | .null => "null\n"
  | .bool true => "true\n"
  | .bool false => "false\n"
  | .int i => toString i ++ "\n"
  | .double x => Decimal.yaml.text x ++ "\n"
  | .text s => scalarText n s
  | .list [] => "[]\n"
  | .list (d :: rest) => "- " ++ item (n + 2) d ++ items n rest
  | .record [] => "\x7b\x7d\n"
  | .record ((name, d) :: rest) => name ++ ":" ++ fieldValue n d ++ fields n rest
  | .unreadable => "null\n"

/-- Items of a list, each on its own line. -/
def items (n : Nat) : List Datum → String
  | [] => ""
  | d :: rest => blanks n ++ "- " ++ item (n + 2) d ++ items n rest

/-- Fields of a record, each on its own line. -/
def fields (n : Nat) : List (String × Datum) → String
  | [] => ""
  | (name, d) :: rest => blanks n ++ name ++ ":" ++ fieldValue n d ++ fields n rest

/-- A datum behind a key that is indented by `n`. -/
def fieldValue (n : Nat) : Datum → String
  | .list [] => " []\n"
  | .list (d :: rest) => "\n" ++ items n (d :: rest)
  | .record [] => " \x7b\x7d\n"
  | .record (f :: rest) => "\n" ++ fields (n + 2) (f :: rest)
  | .null => " null\n"
  | .bool true => " true\n"
  | .bool false => " false\n"
  | .int i => " " ++ toString i ++ "\n"
  | .double x => " " ++ Decimal.yaml.text x ++ "\n"
  | .text s => " " ++ scalarText (n + 2) s
  | .unreadable => " null\n"

end

/-- The YAML text of a datum. -/
def write (d : Datum) : String := item 0 d

end Flyweight.Yaml
