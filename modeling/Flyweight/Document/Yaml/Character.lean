/- Character classes of YAML, and places in a text. -/

namespace Flyweight.Yaml

/-- Whether a document may contain the character as it is: control characters
other than tabs and line breaks, and byte order marks, are not allowed. -/
def isAllowed (c : Char) : Bool :=
  let n := c.toNat
  n == 0x09 || n == 0x0A || n == 0x0D || (0x20 ≤ n && n ≤ 0x7E) || n == 0x85 ||
    (0xA0 ≤ n && n ≤ 0xD7FF) || (0xE000 ≤ n && n ≤ 0xFFFD && n != 0xFEFF) || 0x10000 ≤ n

/-- A space or a tab. -/
def isBlank (c : Char) : Bool := c == ' ' || c == '\t'

/-- The next-line character. -/
def nextLine : Char := '\u0085'

/-- The line separator. -/
def lineSeparator : Char := '\u2028'

/-- The paragraph separator. -/
def paragraphSeparator : Char := '\u2029'

/-- Whether the character ends a line; a carriage return and a line feed together
end one line. -/
def isBreak (c : Char) : Bool :=
  c == '\n' || c == '\x0d' || c == nextLine || c == lineSeparator || c == paragraphSeparator

/-- A letter, a digit, a hyphen or an underscore. -/
def isWordChar (c : Char) : Bool := c.isAlphanum || c == '-' || c == '_'

/-- Whether a text ends or a line ends or a blank stands at the front. -/
def endsWord : List Char → Bool
  | [] => true
  | c :: _ => isBlank c || isBreak c

/-- Whether a line ends at the front. -/
def endsLine : List Char → Bool
  | [] => true
  | c :: _ => isBreak c

/-- A place in a text: how many characters and lines precede it, and how many
characters of its line. -/
structure Mark where
  index : Nat := 0
  line : Nat := 0
  column : Nat := 0
  deriving DecidableEq, Repr, Inhabited

namespace Mark

/-- The place `n` characters further on the same line. -/
def advance (m : Mark) (n : Nat) : Mark := { m with index := m.index + n, column := m.column + n }

/-- The place after a line break of `n` characters. -/
def newline (m : Mark) (n : Nat) : Mark := ⟨m.index + n, m.line + 1, 0⟩

end Mark

/-- The rest of a text and the place where it starts. -/
structure Cursor where
  mark : Mark
  rest : List Char
  deriving DecidableEq, Repr, Inhabited

namespace Cursor

/-- The cursor after `n` characters of the same line. -/
def skip (c : Cursor) (n : Nat) : Cursor := ⟨c.mark.advance n, c.rest.drop n⟩

/-- The cursor after a line break, if one stands at the front. -/
def skipBreak (c : Cursor) : Cursor :=
  match c.rest with
  | '\x0d' :: '\n' :: rest => ⟨c.mark.newline 2, rest⟩
  | b :: rest => if isBreak b then ⟨c.mark.newline 1, rest⟩ else c
  | [] => c

/-- The longest stretch at the front whose characters satisfy `p`, which does not
hold of line breaks, and the cursor after it. -/
def takeWhile (c : Cursor) (p : Char → Bool) : List Char × Cursor :=
  let taken := c.rest.takeWhile p
  (taken, c.skip taken.length)

/-- The cursor after the blanks at the front. -/
def skipBlanks (c : Cursor) : Cursor := (c.takeWhile isBlank).2

/-- The cursor after the rest of a line that holds nothing but blanks and a
comment; none if it holds anything else. -/
def skipLineEnd (c : Cursor) : Option Cursor :=
  let c := c.skipBlanks
  let c :=
    match c.rest with
    | '#' :: _ => (c.takeWhile fun x => !isBreak x).2
    | _ => c
  if endsLine c.rest then some c.skipBreak else none

/-- Whether a document marker of three characters stands at the start of a line. -/
def atMarker (c : Cursor) (marker : Char) : Bool :=
  c.mark.column == 0 && c.rest.take 3 == [marker, marker, marker] && endsWord (c.rest.drop 3)

end Cursor

/-- The form in which a line break enters the text of a scalar: separators are
kept, other breaks become line feeds. -/
def normalBreak (c : Char) : Char :=
  if c == lineSeparator || c == paragraphSeparator then c else '\n'

end Flyweight.Yaml
