import Flyweight.Document.Yaml.Property

/- The lexemes of YAML text.

   Indentation becomes explicit: the lexemes say where collections start and end.
   A mapping's key is recognised only when the colon behind it is read, so a place
   where a key may start is remembered (`KeyCandidate`) and the lexemes for the key
   are put in there afterwards. -/

namespace Flyweight.Yaml

/-- A lexeme of YAML text. -/
inductive Lexeme where
  | directive (d : Directive)
  | documentStart
  | documentEnd
  | blockSequenceStart
  | blockMappingStart
  | blockEnd
  | flowSequenceStart
  | flowSequenceEnd
  | flowMappingStart
  | flowMappingEnd
  | blockEntry
  | flowEntry
  | key
  | value
  | reference (name : String)
  | anchor (name : String)
  | tag (t : WrittenTag)
  | scalar (style : ScalarStyle) (text : String)
  deriving DecidableEq, Repr, Inhabited

/-- A place where a key may have started: how many lexemes precede it, and where
it stands. A required one has to turn out to be a key. -/
structure KeyCandidate where
  required : Bool
  preceding : Nat
  mark : Mark
  deriving Repr

/-- A column of a block collection; outside of all of them there is none. -/
abbrev Column := Option Nat

/-- The state of reading lexemes. -/
structure Lexing where
  cursor : Cursor
  /-- the lexemes read, last first -/
  lexemes : List Lexeme := []
  /-- the column of the innermost block collection, and those around it -/
  column : Column := none
  outer : List Column := []
  /-- whether a key may start here -/
  keyAllowed : Bool := true
  /-- the candidate for a key outside of flow collections -/
  blockKey : Option KeyCandidate := none
  /-- one candidate for each open flow collection, innermost first -/
  flowKeys : List (Option KeyCandidate) := []

namespace Lexing

/-- Whether a flow collection is open. -/
def inFlow (s : Lexing) : Bool := !s.flowKeys.isEmpty

/-- The state with one more lexeme. -/
def push (s : Lexing) (l : Lexeme) : Lexing := { s with lexemes := l :: s.lexemes }

/-- The state with a lexeme put in behind the first `preceding` ones. -/
def insert (s : Lexing) (preceding : Nat) (l : Lexeme) : Lexing :=
  let behind := s.lexemes.length - preceding
  { s with lexemes := s.lexemes.take behind ++ l :: s.lexemes.drop behind }

/-- The innermost candidate. -/
def candidate (s : Lexing) : Option KeyCandidate :=
  match s.flowKeys with
  | [] => s.blockKey
  | k :: _ => k

/-- The state with another innermost candidate. -/
def setCandidate (s : Lexing) (k : Option KeyCandidate) : Lexing :=
  match s.flowKeys with
  | [] => { s with blockKey := k }
  | _ :: others => { s with flowKeys := k :: others }

/-- How many characters a key may have. -/
def longestKey : Nat := 1024

/-- Whether the text has gone on too far for the candidate to be a key: a key
lies on one line and has a bounded length. -/
def isStale (m : Mark) (k : KeyCandidate) : Bool :=
  k.mark.line < m.line || k.mark.index + longestKey < m.index

/-- Drops a candidate that is too old; a required one is an error. -/
def dropStale (m : Mark) : Option KeyCandidate → Option (Option KeyCandidate)
  | some k => if isStale m k then if k.required then none else some none else some (some k)
  | none => some none

/-- Drops all candidates that are too old. -/
def dropStaleKeys (s : Lexing) : Option Lexing := do
  let blockKey ← dropStale s.cursor.mark s.blockKey
  let flowKeys ← s.flowKeys.mapM (dropStale s.cursor.mark)
  return { s with blockKey, flowKeys }

/-- Drops the innermost candidate; a required one is an error. -/
def removeKey (s : Lexing) : Option Lexing :=
  match s.candidate with
  | some k => if k.required then none else some (s.setCandidate none)
  | none => some s

/-- Remembers that a key may start here, if one may. -/
def saveKey (s : Lexing) : Option Lexing :=
  if s.keyAllowed then do
    let required := !s.inFlow && s.column == some s.cursor.mark.column
    let s ← s.removeKey
    return s.setCandidate (some ⟨required, s.lexemes.length, s.cursor.mark⟩)
  else some s

/-- Whether the column lies deeper than the innermost block collection. -/
def isDeeper (s : Lexing) (column : Nat) : Bool := s.column.all (· < column)

/-- Opens a block collection if the column lies deeper than the innermost one; its
lexeme is put in behind the first `preceding` ones. -/
def openBlock (s : Lexing) (column preceding : Nat) (l : Lexeme) : Lexing :=
  if !s.inFlow && s.isDeeper column then
    { s.insert preceding l with column := some column, outer := s.column :: s.outer }
  else s

/-- Closes the block collections that lie deeper than the column: `columns` holds
the innermost column and those around it. -/
def closedBlocks (column : Nat) : Column → List Column → Nat × Column × List Column
  | some c, next :: outer =>
    if column < c then
      let (count, rest) := closedBlocks column next outer
      (count + 1, rest)
    else (0, some c, next :: outer)
  | c, outer => (0, c, outer)

/-- Closes the block collections that lie deeper than the column. -/
def closeBlocks (s : Lexing) (column : Nat) : Lexing :=
  if s.inFlow then s
  else
    let (count, column, outer) := closedBlocks column s.column s.outer
    { s with column, outer, lexemes := List.replicate count .blockEnd ++ s.lexemes }

/-- Closes all block collections. -/
def closeAllBlocks (s : Lexing) : Lexing :=
  if s.inFlow then s
  else
    { s with
      column := none
      outer := []
      lexemes := List.replicate s.outer.length .blockEnd ++ s.lexemes }

/-- Moves to the next lexeme: over blanks, comments and line breaks. A tab is a
blank only where no key may start. `fuel` bounds the number of lines. -/
def skipToLexeme : Nat → Lexing → Lexing
  | 0, s => s
  | fuel + 1, s =>
    let tabs := s.inFlow || !s.keyAllowed
    let (_, c) := s.cursor.takeWhile fun x => x == ' ' || (tabs && x == '\t')
    let c :=
      match c.rest with
      | '#' :: _ => (c.takeWhile fun x => !isBreak x).2
      | _ => c
    match c.rest with
    | b :: _ =>
      if isBreak b then
        skipToLexeme fuel
          { s with cursor := c.skipBreak, keyAllowed := s.keyAllowed || !s.inFlow }
      else { s with cursor := c }
    | [] => { s with cursor := c }

/-- Moves over an indicator of one character and pushes its lexeme. -/
def indicator (s : Lexing) (l : Lexeme) : Lexing := { s.push l with cursor := s.cursor.skip 1 }

/-- Reads a marker of the start or the end of a document. -/
def documentMarker (s : Lexing) (l : Lexeme) : Option Lexing := do
  let s ← s.closeAllBlocks.removeKey
  return { s.push l with cursor := s.cursor.skip 3, keyAllowed := false }

/-- Reads a directive. -/
def directive (s : Lexing) : Option Lexing := do
  let s ← s.closeAllBlocks.removeKey
  let (d, c) ← readDirective s.cursor
  return { s.push (.directive d) with cursor := c, keyAllowed := false }

/-- Reads the opening bracket of a flow collection. -/
def openFlow (s : Lexing) (l : Lexeme) : Option Lexing := do
  let s ← s.saveKey
  return { s.indicator l with flowKeys := none :: s.flowKeys, keyAllowed := true }

/-- Reads the closing bracket of a flow collection. -/
def closeFlow (s : Lexing) (l : Lexeme) : Option Lexing := do
  let s ← s.removeKey
  return { s.indicator l with flowKeys := s.flowKeys.drop 1, keyAllowed := false }

/-- Reads a comma between the entries of a flow collection. -/
def flowEntry (s : Lexing) : Option Lexing := do
  let s ← s.removeKey
  return { s.indicator .flowEntry with keyAllowed := true }

/-- Reads the hyphen of a block sequence. -/
def blockEntry (s : Lexing) : Option Lexing := do
  if !s.inFlow && !s.keyAllowed then none
  let s ← (s.openBlock s.cursor.mark.column s.lexemes.length .blockSequenceStart).removeKey
  return { s.indicator .blockEntry with keyAllowed := true }

/-- Reads the question mark before a key. -/
def explicitKey (s : Lexing) : Option Lexing := do
  if !s.inFlow && !s.keyAllowed then none
  let s ← (s.openBlock s.cursor.mark.column s.lexemes.length .blockMappingStart).removeKey
  return { s.indicator .key with keyAllowed := !s.inFlow }

/-- Reads the colon before a value; what the innermost candidate starts becomes
its key. -/
def value (s : Lexing) : Option Lexing :=
  match s.candidate with
  | some k =>
    let s := (s.insert k.preceding .key).openBlock k.mark.column k.preceding .blockMappingStart
    some { (s.setCandidate none).indicator .value with keyAllowed := false }
  | none => do
    if !s.inFlow && !s.keyAllowed then none
    let s := s.openBlock s.cursor.mark.column s.lexemes.length .blockMappingStart
    return { s.indicator .value with keyAllowed := !s.inFlow }

/-- Reads an alias or an anchor. -/
def anchored (s : Lexing) (l : String → Lexeme) : Option Lexing := do
  let s ← s.saveKey
  let (name, c) ← readAnchor s.cursor
  return { s.push (l name) with cursor := c, keyAllowed := false }

/-- Reads a tag. -/
def tag (s : Lexing) : Option Lexing := do
  let s ← s.saveKey
  let (t, c) ← readTag s.inFlow s.cursor
  return { s.push (.tag t) with cursor := c, keyAllowed := false }

/-- Takes over a scalar that was read. -/
def scalar (s : Lexing) (r : ReadScalar) : Lexing :=
  { s.push (.scalar r.style r.text) with cursor := r.after, keyAllowed := r.endsLine }

/-- Reads a block scalar. -/
def blockScalar (s : Lexing) (literal : Bool) : Option Lexing := do
  let s ← s.removeKey
  return s.scalar (← readBlock literal s.column s.cursor)

/-- Reads a scalar in quotes. -/
def quoted (s : Lexing) (single : Bool) : Option Lexing := do
  let s ← s.saveKey
  return s.scalar (← readQuoted single s.cursor)

/-- Whether a plain scalar may start with the character `c` before `rest`. -/
def startsPlain (flow : Bool) (c : Char) (rest : List Char) : Bool :=
  !(isBlank c || isBreak c || "-?:,[]\x7b\x7d#&*!|>'\"%@`".contains c) ||
    (c == '-' && !(rest.head?.any isBlank)) ||
    (!flow && (c == '?' || c == ':') && !endsWord rest)

/-- Reads a plain scalar. -/
def plain (s : Lexing) : Option Lexing := do
  let s ← s.saveKey
  let least := match s.column with
    | some column => column + 1
    | none => 0
  return s.scalar (← readPlain s.inFlow least s.cursor)

/-- Reads the lexeme that starts with the character `c` before `rest`. -/
def lexeme (s : Lexing) (c : Char) (rest : List Char) : Option Lexing :=
  if s.cursor.mark.column = 0 ∧ c = '%' then s.directive
  else if s.cursor.atMarker '-' then s.documentMarker .documentStart
  else if s.cursor.atMarker '.' then s.documentMarker .documentEnd
  else if c = '[' then s.openFlow .flowSequenceStart
  else if c = '\x7b' then s.openFlow .flowMappingStart
  else if c = ']' then s.closeFlow .flowSequenceEnd
  else if c = '\x7d' then s.closeFlow .flowMappingEnd
  else if c = ',' then s.flowEntry
  else if c = '-' ∧ endsWord rest then s.blockEntry
  else if c = '?' ∧ (s.inFlow ∨ endsWord rest) then s.explicitKey
  else if c = ':' ∧ (s.inFlow ∨ endsWord rest) then s.value
  else if c = '*' then s.anchored .reference
  else if c = '&' then s.anchored .anchor
  else if c = '!' then s.tag
  else if c = '|' ∧ !s.inFlow then s.blockScalar true
  else if c = '>' ∧ !s.inFlow then s.blockScalar false
  else if c = '\'' then s.quoted true
  else if c = '"' then s.quoted false
  else if startsPlain s.inFlow c rest then s.plain
  else none

/-- Reads lexemes up to the end of the text; `fuel` bounds their number. -/
def run : Nat → Lexing → Option Lexing
  | 0, _ => none
  | fuel + 1, s => do
    let s ← (skipToLexeme (s.cursor.rest.length + 1) s).dropStaleKeys
    let s := s.closeBlocks s.cursor.mark.column
    match s.cursor.rest with
    | [] => s.closeAllBlocks.removeKey
    | c :: rest => run fuel (← s.lexeme c rest)

end Lexing

/-- The lexemes of a text. Every lexeme takes at least one character. -/
def lexemes (text : String) : Option (List Lexeme) := do
  let cs := text.toList
  if !cs.all isAllowed then none
  let s ← Lexing.run (cs.length + 1) { cursor := ⟨{}, cs⟩ }
  return s.lexemes.reverse

end Flyweight.Yaml
