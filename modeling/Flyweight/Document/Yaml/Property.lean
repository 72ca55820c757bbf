import Flyweight.Document.Yaml.Scalar

/- Anchors, tags and directives of YAML. -/

namespace Flyweight.Yaml

/-! ## Anchors and aliases -/

/-- Whether the name of an anchor or alias may end at the front. -/
def endsAnchor (cs : List Char) : Bool :=
  endsWord cs || (cs.head?.any fun c => "?:,]\x7d%@`".contains c)

/-- Reads the name of an anchor or alias; its indicator stands at the front. -/
def readAnchor (c : Cursor) : Option (String × Cursor) := do
  let (name, c) := (c.skip 1).takeWhile isWordChar
  if name.isEmpty || !endsAnchor c.rest then none
  return (String.ofList name, c)

/-! ## Tags -/

/-- A tag as written: a handle, which a directive may define, and a suffix. -/
structure WrittenTag where
  handle : String
  suffix : String
  deriving DecidableEq, Repr, Inhabited

/-- Whether the character may stand in a tag; brackets and commas only where the
tag is delimited. -/
def isTagChar (delimited : Bool) (c : Char) : Bool :=
  isWordChar c || ";/?:@&=+$.%!~*'()".contains c || (delimited && ",[]".contains c)

/-- The octet of an escape at the front: a percent sign and two hexadecimal
digits. -/
def escapedOctet? : List Char → Option (Nat × List Char)
  | '%' :: a :: b :: rest => do
    let octet ← Hexadecimal.value? [a, b]
    return (octet, rest)
  | _ => none

/-- Reads `n` more octets of a character in UTF-8. -/
def escapedTail? : Nat → Nat → List Char → Option (Nat × List Char)
  | 0, value, cs => some (value, cs)
  | n + 1, value, cs => do
    let (octet, cs) ← escapedOctet? cs
    if octet / 64 ≠ 2 then none
    escapedTail? n (value * 64 + octet % 64) cs

/-- The character given by escaped octets at the front. -/
def escapedTagChar? (cs : List Char) : Option (Char × List Char) := do
  let (octet, cs) ← escapedOctet? cs
  let (value, cs) ←
    if octet < 0x80 then some (octet, cs)
    else if octet / 32 = 6 then escapedTail? 1 (octet % 32) cs
    else if octet / 16 = 14 then escapedTail? 2 (octet % 16) cs
    else if octet / 8 = 30 then escapedTail? 3 (octet % 8) cs
    else none
  return (Char.ofNat value, cs)

/-- Reads the characters of a tag; `fuel` bounds their number. -/
def readTagChars (delimited : Bool) : Nat → Cursor → Option (List Char × Cursor)
  | 0, _ => none
  | fuel + 1, c =>
    match c.rest with
    | [] => some ([], c)
    | x :: _ =>
      if x == '%' then do
        let (x, rest) ← escapedTagChar? c.rest
        let (more, c) ← readTagChars delimited fuel (c.skip (c.rest.length - rest.length))
        return (x :: more, c)
      else if isTagChar delimited x then do
        let (more, c) ← readTagChars delimited fuel (c.skip 1)
        return (x :: more, c)
      else some ([], c)

/-- Reads the characters of a tag, at least one unless it may be empty. -/
def readTagText (delimited mayBeEmpty : Bool) (c : Cursor) : Option (List Char × Cursor) := do
  let (text, c) ← readTagChars delimited (c.rest.length + 1) c
  if text.isEmpty && !mayBeEmpty then none
  return (text, c)

/-- Reads an exclamation mark, letters, and a second mark if there is one. -/
def readHandle (c : Cursor) : Option (List Char × Cursor) :=
  match c.rest with
  | '!' :: _ =>
    let (name, c) := (c.skip 1).takeWhile isWordChar
    match c.rest with
    | '!' :: _ => some ('!' :: name ++ ['!'], c.skip 1)
    | _ => some ('!' :: name, c)
  | _ => none

/-- Whether the text is a handle with a mark at either end. -/
def isFullHandle (handle : List Char) : Bool :=
  1 < handle.length && handle.getLast? == some '!'

/-- Reads a tag; an exclamation mark stands at the front. -/
def readTag (flow : Bool) (c : Cursor) : Option (WrittenTag × Cursor) := do
  let (tag, c) ←
    if c.rest.take 2 = ['!', '<'] then do
      let (uri, c) ← readTagText true false (c.skip 2)
      if c.rest.head? ≠ some '>' then none
      some (WrittenTag.mk "" (String.ofList uri), c.skip 1)
    else do
      let (handle, c) ← readHandle c
      if isFullHandle handle then
        let (suffix, c) ← readTagText false false c
        some (WrittenTag.mk (String.ofList handle) (String.ofList suffix), c)
      else
        let (rest, c) ← readTagText false true c
        let suffix := handle.drop 1 ++ rest
        if suffix.isEmpty then some (WrittenTag.mk "" "!", c)
        else some (WrittenTag.mk "!" (String.ofList suffix), c)
  if endsWord c.rest || (flow && c.rest.head? == some ',') then return (tag, c) else none

/-! ## Directives -/

/-- A directive before a document. -/
inductive Directive where
  | version (major minor : Nat)
  | tag (handle meaning : String)
  deriving DecidableEq, Repr

/-- Reads a number of at most nine digits. -/
def readVersionNumber (c : Cursor) : Option (Nat × Cursor) :=
  let (digits, c) := c.takeWhile Char.isDigit
  if digits.isEmpty || 9 < digits.length then none
  else some (digits.foldl (fun n d => n * 10 + (d.toNat - '0'.toNat)) 0, c)

/-- Reads the value of a version directive. -/
def readVersion (c : Cursor) : Option (Directive × Cursor) := do
  let (major, c) ← readVersionNumber c.skipBlanks
  if c.rest.head? ≠ some '.' then none
  let (minor, c) ← readVersionNumber (c.skip 1)
  return (.version major minor, c)

/-- Reads the value of a tag directive. -/
def readTagDirective (c : Cursor) : Option (Directive × Cursor) := do
  let (handle, c) ← readHandle c.skipBlanks
  if handle ≠ ['!'] ∧ !isFullHandle handle then none
  if !(c.rest.head?.any isBlank) then none
  let (meaning, c) ← readTagText true false c.skipBlanks
  if !endsWord c.rest then none
  return (.tag (String.ofList handle) (String.ofList meaning), c)

/-- Reads a directive with the rest of its line; its indicator stands at the
front. -/
def readDirective (c : Cursor) : Option (Directive × Cursor) := do
  let (name, c) := (c.skip 1).takeWhile isWordChar
  if name.isEmpty || !endsWord c.rest then none
  let (directive, c) ←
    match String.ofList name with
    | "YAML" => readVersion c
    | "TAG" => readTagDirective c
    | _ => none
  return (directive, ← c.skipLineEnd)

end Flyweight.Yaml
