/- Text as lines. -/

namespace Flyweight.Lines

/-- Cuts characters after each line break; the piece after the last break is
left out if it is empty. Each piece comes with whether a break ended it. -/
def pieces : List Char → List (List Char × Bool)
  | [] => []
  | '\n' :: rest => ([], true) :: pieces rest
  | c :: rest =>
    match pieces rest with
    | [] => [([c], false)]
    | (line, ended) :: others => (c :: line, ended) :: others

/-- A line without its break: a carriage return belongs to the break after it. -/
def body (line : List Char) (ended : Bool) : List Char :=
  if ended ∧ line.getLast? = some '\x0d' then line.dropLast else line

/-- The lines of a text. -/
def ofText (text : String) : List String :=
  (pieces text.toList).map fun (line, ended) => String.ofList (body line ended)

/-- A text without the line breaks at its two ends. -/
def trimBreaks (text : String) : String :=
  let isBreak (c : Char) := c == '\n'
  String.ofList ((text.toList.dropWhile isBreak).reverse.dropWhile isBreak).reverse

/-- Lines without the empty ones at the two ends. -/
def trimmed (lines : List String) : List String :=
  ((lines.dropWhile String.isEmpty).reverse.dropWhile String.isEmpty).reverse

/-- The lines one below another, without a break at the end. -/
def join (lines : List String) : String := String.intercalate "\n" lines

/-- A line moved right by `level` steps of four blanks; an empty line stays
empty. -/
def indentLine (level : Nat) (line : String) : String :=
  if line.isEmpty then "" else String.ofList (List.replicate (4 * level) ' ') ++ line

/-- A text with every line moved right by `level` steps. -/
def indent (text : String) (level : Nat) : String :=
  join ((ofText text).map (indentLine level))

end Flyweight.Lines
