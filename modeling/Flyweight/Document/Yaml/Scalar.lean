import Flyweight.Document.Yaml.Character
import Flyweight.Text.Hexadecimal

/- Scalars of YAML: plain, in quotes, and in blocks.

   A plain or quoted scalar may go on over several lines. What lies between two
   words of it is a gap: blanks, or line breaks with the blanks around them. A gap
   is folded: one line break becomes a space, further ones are kept. -/

namespace Flyweight.Yaml

/-- How a scalar is written. -/
inductive ScalarStyle where
  | plain
  | singleQuoted
  | doubleQuoted
  | literal
  | folded
  deriving DecidableEq, Repr, Inhabited

/-! ## Gaps -/

/-- What lies between two words: blanks before the first line break, and the
breaks. A break that was escaped counts as folded away. -/
structure Gap where
  blanks : List Char := []
  breaks : List Char := []
  escapedBreak : Bool := false
  deriving Repr, Inhabited

namespace Gap

/-- Whether the gap goes over a line break. -/
def hasBreak (g : Gap) : Bool := g.escapedBreak || !g.breaks.isEmpty

/-- What the gap contributes to the text. -/
def fold (g : Gap) : List Char :=
  if g.escapedBreak then g.breaks
  else
    match g.breaks with
    | [] => g.blanks
    | ['\n'] => [' ']
    | '\n' :: more => more
    | more => more

/-- Reads a gap. Tabs among the blanks after a line break are refused before
column `tabLimit`. -/
def read (tabLimit : Nat) (g : Gap) (m : Mark) : List Char → Option (Gap × Cursor)
  | [] => some (g, ⟨m, []⟩)
  | '\x0d' :: '\n' :: rest =>
    read tabLimit { g with breaks := g.breaks ++ ['\n'] } (m.newline 2) rest
  | c :: rest =>
    if isBlank c then
      if g.hasBreak then
        if c == '\t' && m.column < tabLimit then none else read tabLimit g (m.advance 1) rest
      else read tabLimit { g with blanks := g.blanks ++ [c] } (m.advance 1) rest
    else if isBreak c then
      read tabLimit { g with breaks := g.breaks ++ [normalBreak c] } (m.newline 1) rest
    else some (g, ⟨m, c :: rest⟩)

end Gap

/-! ## Plain scalars -/

/-- The brackets and the comma of flow collections. -/
def isFlowIndicator (c : Char) : Bool :=
  c == ',' || c == '[' || c == ']' || c == '\x7b' || c == '\x7d'

/-- Reads a word of a plain scalar. In a flow collection a colon may not be
directly before an indicator. -/
def plainWord (flow : Bool) : List Char → Option (List Char)
  | [] => some []
  | c :: rest =>
    if isBlank c || isBreak c then some []
    else if flow && c == ':' && (rest.head?.any fun n => isFlowIndicator n || n == '?') then none
    else if (c == ':' && endsWord rest) || (flow && isFlowIndicator c) then some []
    else (plainWord flow rest).map (c :: ·)

/-- Reads the words and gaps of a plain scalar; `gap` is the gap before the cursor,
which counts only if a word follows it. `indent` is the least column of a word on
a later line, and `fuel` bounds the number of words. -/
def plainWords (flow : Bool) (indent : Nat) :
    Nat → Gap → Cursor → Option (List Char × Gap × Cursor)
  | 0, _, _ => none
  | fuel + 1, gap, c => do
    if c.atMarker '-' || c.atMarker '.' || c.rest.head? == some '#' then
      return ([], gap, c)
    let word ← plainWord flow c.rest
    let text := if word.isEmpty then [] else gap.fold ++ word
    let gap := if word.isEmpty then gap else {}
    let c := c.skip word.length
    match c.rest with
    | [] => return (text, gap, c)
    | next :: _ =>
      if isBlank next || isBreak next then
        let (gap, c) ← Gap.read indent gap c.mark c.rest
        if !flow && c.mark.column < indent then return (text, gap, c)
        let (more, gap, c) ← plainWords flow indent fuel gap c
        return (text ++ more, gap, c)
      else return (text, gap, c)

/-- A scalar with the cursor after it, and whether a line break directly precedes
that cursor. -/
structure ReadScalar where
  style : ScalarStyle
  text : String
  after : Cursor
  endsLine : Bool

/-- Reads a plain scalar. -/
def readPlain (flow : Bool) (indent : Nat) (c : Cursor) : Option ReadScalar := do
  let (text, gap, c) ← plainWords flow indent (c.rest.length + 1) {} c
  return ⟨.plain, String.ofList text, c, gap.hasBreak⟩

/-! ## Quoted scalars -/

/-- The character that a backslash and a letter stand for. -/
def escapedChar? : Char → Option Char
  | '0' => some '\x00'
  | 'a' => some '\x07'
  | 'b' => some '\x08'
  | 't' => some '\t'
  | '\t' => some '\t'
  | 'n' => some '\n'
  | 'v' => some '\x0b'
  | 'f' => some '\x0c'
  | 'r' => some '\x0d'
  | 'e' => some '\x1b'
  | ' ' => some ' '
  | '"' => some '"'
  | '/' => some '/'
  | '\\' => some '\\'
  | 'N' => some nextLine
  | '_' => some '\u00a0'
  | 'L' => some lineSeparator
  | 'P' => some paragraphSeparator
  | _ => none

/-- How many hexadecimal digits follow a backslash and a letter. -/
def escapeDigits? : Char → Option Nat
  | 'x' => some 2
  | 'u' => some 4
  | 'U' => some 8
  | _ => none

/-- The character given by `n` hexadecimal digits at the front. -/
def hexChar? (n : Nat) (cs : List Char) : Option Char := do
  let digits := cs.take n
  if digits.length < n then none
  let value ← Hexadecimal.value? digits
  if h : value.isValidChar then some (Char.ofNatAux value h) else none

/-- Reads a word in quotes up to a blank, a line break or the closing quote. The
last component says whether an escaped line break ends it. -/
def quotedWord (single : Bool) (fuel : Nat) (c : Cursor) : Option (List Char × Cursor × Bool) :=
  match fuel with
  | 0 => none
  | fuel + 1 =>
    let more (x : Char) (n : Nat) : Option (List Char × Cursor × Bool) :=
      (quotedWord single fuel (c.skip n)).map fun (word, c, escaped) => (x :: word, c, escaped)
    match c.rest with
    | [] => some ([], c, false)
    | '\'' :: '\'' :: rest =>
      if single then more '\'' 2
      else (quotedWord single fuel ⟨c.mark.advance 1, '\'' :: rest⟩).map
        fun (word, c, escaped) => ('\'' :: word, c, escaped)
    | x :: rest =>
      if isBlank x || isBreak x || x == (if single then '\'' else '"') then some ([], c, false)
      else if !single && x == '\\' then
        match rest with
        | [] => none
        | e :: digits =>
          if isBreak e then some ([], (c.skip 1).skipBreak, true)
          else
            match escapeDigits? e with
            | some n => (hexChar? n digits).bind (more · (n + 2))
            | none => (escapedChar? e).bind (more · 2)
      else more x 1

/-- Reads the words and gaps of a scalar in quotes, from behind the opening quote
to behind the closing one. -/
def quotedWords (single : Bool) : Nat → Cursor → Option (List Char × Cursor)
  | 0, _ => none
  | fuel + 1, c => do
    if c.atMarker '-' || c.atMarker '.' then none
    let (word, c, escaped) ← quotedWord single (c.rest.length + 1) c
    match c.rest with
    | [] => none
    | next :: _ =>
      if next == (if single then '\'' else '"') then return (word, c.skip 1)
      let (gap, c) ← Gap.read 0 { escapedBreak := escaped } c.mark c.rest
      let (more, c) ← quotedWords single fuel c
      return (word ++ gap.fold ++ more, c)

/-- Reads a scalar in quotes; the opening quote stands at the front. -/
def readQuoted (single : Bool) (c : Cursor) : Option ReadScalar := do
  let (text, c) ← quotedWords single (c.rest.length + 1) (c.skip 1)
  return ⟨if single then .singleQuoted else .doubleQuoted, String.ofList text, c, false⟩

/-! ## Block scalars -/

/-- What becomes of the line breaks at the end of a block scalar. -/
inductive Chomping where
  /-- none is kept -/
  | strip
  /-- the first is kept -/
  | clip
  /-- all are kept -/
  | keep
  deriving DecidableEq, Repr

/-- The header of a block scalar: how its end is treated and how much deeper than
its parent it is indented, if that is stated. -/
structure BlockHeader where
  chomping : Chomping := .clip
  increment : Option Nat := none
  deriving DecidableEq, Repr

/-- The chomping that a sign stands for. -/
def chomping? : Char → Option Chomping
  | '+' => some .keep
  | '-' => some .strip
  | _ => none

/-- Reads an indentation digit; zero is refused. -/
def readIncrement (h : BlockHeader) (c : Cursor) : Option (BlockHeader × Cursor) :=
  match c.rest with
  | d :: _ =>
    if d == '0' then none
    else if d.isDigit then some ({ h with increment := some (d.toNat - '0'.toNat) }, c.skip 1)
    else some (h, c)
  | [] => some (h, c)

/-- Reads a chomping sign. -/
def readChomping (h : BlockHeader) (c : Cursor) : BlockHeader × Cursor :=
  match c.rest.head?.bind chomping? with
  | some chomping => ({ h with chomping }, c.skip 1)
  | none => (h, c)

/-- Reads the header: a sign and a digit in either order, both optional. -/
def readBlockHeader (c : Cursor) : Option (BlockHeader × Cursor) :=
  match c.rest.head?.bind chomping? with
  | some _ =>
    let (h, c) := readChomping {} c
    readIncrement h c
  | none => do
    let (h, c) ← readIncrement {} c
    if h.increment.isSome then return readChomping h c else return (h, c)

/-- The empty lines and the indentation before a line of a block scalar. -/
structure BlockBreaks where
  breaks : List Char := []
  /-- the greatest column reached -/
  deepest : Nat := 0
  deriving Repr

/-- Reads empty lines and indentation, up to column `indent` if it is known. A tab
is refused where a blank of the indentation is expected. -/
def readBlockBreaks (indent : Option Nat) (b : BlockBreaks) (m : Mark) :
    List Char → Option (BlockBreaks × Cursor)
  | [] => some ({ b with deepest := max b.deepest m.column }, ⟨m, []⟩)
  | '\x0d' :: '\n' :: rest =>
    readBlockBreaks indent ⟨b.breaks ++ ['\n'], max b.deepest m.column⟩ (m.newline 2) rest
  | c :: rest =>
    let inside := indent.all (m.column < ·)
    if c == ' ' && inside then readBlockBreaks indent b (m.advance 1) rest
    else if c == '\t' && inside then none
    else if isBreak c then
      readBlockBreaks indent ⟨b.breaks ++ [normalBreak c], max b.deepest m.column⟩ (m.newline 1)
        rest
    else some ({ b with deepest := max b.deepest m.column }, ⟨m, c :: rest⟩)

/-- The break after the last line and the empty lines that follow it. -/
structure BlockTail where
  lineBreak : List Char := []
  emptyLines : List Char := []
  deriving Repr

/-- Reads the lines of a block scalar. `leadingBlank` says whether the line before
started with a blank, in which case the break is not folded. -/
def blockLines (literal : Bool) (indent : Nat) :
    Nat → Bool → BlockTail → Cursor → Option (List Char × BlockTail × Cursor)
  | 0, _, _, _ => none
  | fuel + 1, leadingBlank, tail, c =>
    if c.mark.column = indent ∧ c.rest ≠ [] then do
      let blank := c.rest.head?.any isBlank
      let joined :=
        if !literal && tail.lineBreak == ['\n'] && !leadingBlank && !blank then
          if tail.emptyLines.isEmpty then [' '] else tail.emptyLines
        else tail.lineBreak ++ tail.emptyLines
      let (line, c) := c.takeWhile fun x => !isBreak x
      let lineBreak := (c.rest.take 1).map normalBreak
      let c := c.skipBreak
      let (b, c) ← readBlockBreaks (some indent) {} c.mark c.rest
      let (more, tail, c) ← blockLines literal indent fuel blank ⟨lineBreak, b.breaks⟩ c
      return (joined ++ line ++ more, tail, c)
    else some ([], tail, c)

/-- Reads a block scalar; its indicator stands at the front. `parent` is the
column of the collection around it, if there is one. -/
def readBlock (literal : Bool) (parent : Option Nat) (c : Cursor) : Option ReadScalar := do
  let (header, c) ← readBlockHeader (c.skip 1)
  let c ← c.skipLineEnd
  let stated := header.increment.map (parent.getD 0 + ·)
  let (b, c) ← readBlockBreaks stated {} c.mark c.rest
  let least := match parent with
    | some column => column + 1
    | none => 0
  let indent := stated.getD (max (max b.deepest least) 1)
  let (text, tail, c) ← blockLines literal indent (c.rest.length + 1) false ⟨[], b.breaks⟩ c
  let ending :=
    match header.chomping with
    | .strip => []
    | .clip => tail.lineBreak
    | .keep => tail.lineBreak ++ tail.emptyLines
  return ⟨if literal then .literal else .folded, String.ofList (text ++ ending), c, true⟩

end Flyweight.Yaml
