import Flyweight.Decimal.Notation
import Flyweight.Document.Datum
import Flyweight.Text.Hexadecimal

/- JSON text of a datum: on one line without blanks, or laid out. -/

namespace Flyweight.Json

/-- A character of text as written between quotes: quotes, backslashes and
control characters are escaped. -/
def escape : Char → List Char
  | '"' => ['\\', '"']
  | '\\' => ['\\', '\\']
  | '\x08' => ['\\', 'b']
  | '\t' => ['\\', 't']
  | '\n' => ['\\', 'n']
  | '\x0c' => ['\\', 'f']
  | '\r' => ['\\', 'r']
  | c =>
    if c.toNat < 0x20 then '\\' :: 'u' :: Hexadecimal.digits 4 c.toNat else [c]

/-- Text in quotes. -/
def quoted (s : String) : String := String.ofList ('"' :: s.toList.flatMap escape ++ ['"'])

/-- A number; one that is not finite is null. -/
def number (x : Binary64) : String :=
  if x.isFinite then Decimal.json.text x else Decimal.json.undefined

mutual

/-- The datum on one line, without blanks. -/
def compact : Datum → String
  | .null => "null"
  | .bool true => "true"
  | .bool false => "false"
  | .int n => toString n
  | .double x => number x
  | .text s => quoted s
  | .list items => "[" ++ compactItems items ++ "]"
  | .record fields => "\x7b" ++ compactFields fields ++ "\x7d"
  | .unreadable => "null"

/-- The items of a list, with commas between them. -/
def compactItems : List Datum → String
  | [] => ""
  | [d] => compact d
  | d :: rest => compact d ++ "," ++ compactItems rest

/-- The fields of a record, with commas between them. -/
def compactFields : List (String × Datum) → String
  | [] => ""
  | [(name, value)] => quoted name ++ ":" ++ compact value
  | (name, value) :: rest => quoted name ++ ":" ++ compact value ++ "," ++ compactFields rest

end

/-- A line break and the indentation of a level, two blanks each. -/
def newline (level : Nat) : String := "\n" ++ String.ofList (List.replicate (2 * level) ' ')

mutual

/-- The datum with every item and field on its own line; `level` is the
indentation of the line that the datum starts on. -/
def pretty (level : Nat) : Datum → String
  | .null => "null"
  | .bool true => "true"
  | .bool false => "false"
  | .int n => toString n
  | .double x => number x
  | .text s => quoted s
  | .list [] => "[]"
  | .list items => "[" ++ prettyItems (level + 1) items ++ newline level ++ "]"
  | .record [] => "\x7b\x7d"
  | .record fields => "\x7b" ++ prettyFields (level + 1) fields ++ newline level ++ "\x7d"
  | .unreadable => "null"

/-- The items of a list, each on its own line. -/
def prettyItems (level : Nat) : List Datum → String
  | [] => ""
  | [d] => newline level ++ pretty level d
  | d :: rest => newline level ++ pretty level d ++ "," ++ prettyItems level rest

/-- The fields of a record, each on its own line. -/
def prettyFields (level : Nat) : List (String × Datum) → String
  | [] => ""
  | [(name, value)] => newline level ++ quoted name ++ ": " ++ pretty level value
  | (name, value) :: rest =>
    newline level ++ quoted name ++ ": " ++ pretty level value ++ "," ++ prettyFields level rest

end

end Flyweight.Json
