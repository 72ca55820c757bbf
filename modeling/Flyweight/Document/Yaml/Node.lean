import Flyweight.Document.Yaml.Lexeme

/- The nodes of a YAML document.

   A node may define an anchor, and an alias refers to one by number. Numbers are
   given out as definitions are met: the number of a definition is how many
   different names were defined before it. A number may thus be given out again
   when a name is defined twice, and then it stands for the later definition. -/

namespace Flyweight.Yaml

/-- A node of a document. -/
inductive Node where
  | reference (target : Nat)
  | scalar (anchor : Option Nat) (tag : Option String) (style : ScalarStyle) (text : String)
  | sequence (anchor : Option Nat) (items : List Node)
  | mapping (anchor : Option Nat) (fields : List (Node × Node))
  deriving Repr, Inhabited

namespace Node

/-- The node of a value that is not written. -/
def empty : Node := scalar none none .plain ""

/-- What is known besides the lexemes: the meanings of tag handles, and the names
of anchors, each with its number. -/
structure Scope where
  handles : List (String × String)
  anchors : List (String × Nat) := []

/-- The handles that need no directive. -/
def standardHandles : List (String × String) := [("!", "!"), ("!!", "tag:yaml.org,2002:")]

/-- The scope after the definition of an anchor, and the anchor's number. -/
def Scope.define (s : Scope) (name : String) : Scope × Nat :=
  let number := s.anchors.length
  ({ s with anchors := (name, number) :: s.anchors.filter (·.1 ≠ name) }, number)

/-- The full tag; none if its handle is not known. -/
def Scope.resolve (s : Scope) (t : WrittenTag) : Option String :=
  if t.handle.isEmpty then some t.suffix
  else (s.handles.lookup t.handle).map (· ++ t.suffix)

/-- The properties of a node. -/
structure Properties where
  anchor : Option Nat := none
  tag : Option String := none
  deriving DecidableEq, Repr

/-- Whether the node has a property. -/
def Properties.isPresent (p : Properties) : Bool := p.anchor.isSome || p.tag.isSome

/-- A parse that reads lexemes from the front and keeps the rest. -/
abbrev Parse (α : Type) := StateT (Scope × List Lexeme) Option α

/-- The lexeme at the front. -/
def peek : Parse (Option Lexeme) := do return (← get).2.head?

/-- Moves over the lexeme at the front. -/
def skip : Parse Unit := modify fun (s, ls) => (s, ls.drop 1)

/-- Reads the anchor of a node. -/
def readAnchorName (name : String) (p : Properties) : Parse Properties := do
  let (s, ls) ← get
  let (s, number) := s.define name
  set (s, ls.drop 1)
  return { p with anchor := some number }

/-- Reads the tag of a node. -/
def readTagName (t : WrittenTag) (p : Properties) : Parse Properties := do
  let tag ← (← get).1.resolve t
  skip
  return { p with tag := some tag }

/-- Reads the properties of a node: an anchor and a tag in either order, both
optional. -/
def readProperties : Parse Properties := do
  match ← peek with
  | some (.anchor name) => do
    let p ← readAnchorName name {}
    match ← peek with
    | some (.tag t) => readTagName t p
    | _ => return p
  | some (.tag t) => do
    let p ← readTagName t {}
    match ← peek with
    | some (.anchor name) => readAnchorName name p
    | _ => return p
  | _ => return {}

/-- The node of a scalar. The tag of a single mark on a scalar says nothing. -/
def ofScalar (p : Properties) (style : ScalarStyle) (text : String) : Node :=
  scalar p.anchor (if p.tag = some "!" then none else p.tag) style text

/-- Whether a key or a value of a block mapping is not written, from the lexeme
that stands in its place. -/
def isMissing : Option Lexeme → Bool
  | some .key | some .value | some .blockEnd => true
  | _ => false

/-- Whether an item of a block sequence that has no indentation of its own is not
written. -/
def isMissingItem : Option Lexeme → Bool
  | some .blockEntry => true
  | l => isMissing l

/-- Whether a key or a value in a flow mapping is not written. -/
def isMissingInFlow (close : Lexeme) : Option Lexeme → Bool
  | some l => l == .flowEntry || l == close
  | none => false

/-- Reads a comma before all but the first entry of a flow collection; gives what
stands behind it. -/
def readSeparator (first : Bool) : Parse (Option Lexeme) := do
  if first then peek
  else
    match ← peek with
    | some .flowEntry => do
      skip
      peek
    | _ => failure

mutual

/-- Reads a node. Block collections are allowed in blocks only, and a sequence
without an indentation of its own only where `unindented` says so. -/
def readNode (fuel : Nat) (block unindented : Bool) : Parse Node :=
  match fuel with
  | 0 => failure
  | fuel + 1 => do
    match ← peek with
    | some (.reference name) => do
      match (← get).1.anchors.lookup name with
      | some target => do
        skip
        return reference target
      | none => failure
    | _ => do
      let p ← readProperties
      match ← peek with
      | some (.scalar style text) => do
        skip
        return ofScalar p style text
      | some .flowSequenceStart => do
        skip
        return sequence p.anchor (← readFlowItems fuel true)
      | some .flowMappingStart => do
        skip
        return mapping p.anchor (← readFlowFields fuel true)
      | some .blockEntry =>
        if unindented then return sequence p.anchor (← readUnindentedItems fuel)
        else if p.isPresent then return scalar p.anchor p.tag .plain ""
        else failure
      | some .blockSequenceStart =>
        if block then
          skip
          return sequence p.anchor (← readBlockItems fuel)
        else if p.isPresent then return scalar p.anchor p.tag .plain ""
        else failure
      | some .blockMappingStart =>
        if block then
          skip
          return mapping p.anchor (← readBlockFields fuel)
        else if p.isPresent then return scalar p.anchor p.tag .plain ""
        else failure
      | _ => if p.isPresent then return scalar p.anchor p.tag .plain "" else failure

/-- Reads the items of a block sequence up to its end. -/
def readBlockItems (fuel : Nat) : Parse (List Node) :=
  match fuel with
  | 0 => failure
  | fuel + 1 => do
    match ← peek with
    | some .blockEntry => do
      skip
      let l ← peek
      let item ←
        if l = some .blockEntry ∨ l = some .blockEnd then pure empty else readNode fuel true false
      return item :: (← readBlockItems fuel)
    | some .blockEnd => do
      skip
      return []
    | _ => failure

/-- Reads the items of a sequence that has no indentation of its own. -/
def readUnindentedItems (fuel : Nat) : Parse (List Node) :=
  match fuel with
  | 0 => failure
  | fuel + 1 => do
    match ← peek with
    | some .blockEntry => do
      skip
      let item ← if isMissingItem (← peek) then pure empty else readNode fuel true false
      return item :: (← readUnindentedItems fuel)
    | _ => return []

/-- Reads the fields of a block mapping up to its end. -/
def readBlockFields (fuel : Nat) : Parse (List (Node × Node)) :=
  match fuel with
  | 0 => failure
  | fuel + 1 => do
    match ← peek with
    | some .key => do
      skip
      let key ← if isMissing (← peek) then pure empty else readNode fuel true true
      let value ← readBlockValue fuel
      return (key, value) :: (← readBlockFields fuel)
    | some .blockEnd => do
      skip
      return []
    | _ => failure

/-- Reads the value of a field in a block mapping. -/
def readBlockValue (fuel : Nat) : Parse Node :=
  match fuel with
  | 0 => failure
  | fuel + 1 => do
    match ← peek with
    | some .value => do
      skip
      if isMissing (← peek) then return empty else readNode fuel true true
    | _ => return empty

/-- Reads the items of a flow sequence up to its end; an item may be a mapping of
one field. -/
def readFlowItems (fuel : Nat) (first : Bool) : Parse (List Node) :=
  match fuel with
  | 0 => failure
  | fuel + 1 => do
    if (← peek) = some .flowSequenceEnd then
      skip
      return []
    match ← readSeparator first with
    | some .flowSequenceEnd => do
      skip
      return []
    | some .key => do
      skip
      let field ← readFlowPair fuel
      return mapping none [field] :: (← readFlowItems fuel false)
    | _ => do
      let item ← readNode fuel false false
      return item :: (← readFlowItems fuel false)

/-- Reads the field of an item that is a mapping. A missing key takes the lexeme in
its place with it. -/
def readFlowPair (fuel : Nat) : Parse (Node × Node) :=
  match fuel with
  | 0 => failure
  | fuel + 1 => do
    let l ← peek
    let key ←
      if l = some .value || isMissingInFlow .flowSequenceEnd l then do
        skip
        pure empty
      else readNode fuel false false
    match ← peek with
    | some .value => do
      skip
      let value ←
        if isMissingInFlow .flowSequenceEnd (← peek) then pure empty
        else readNode fuel false false
      return (key, value)
    | _ => return (key, empty)

/-- Reads the fields of a flow mapping up to its end. -/
def readFlowFields (fuel : Nat) (first : Bool) : Parse (List (Node × Node)) :=
  match fuel with
  | 0 => failure
  | fuel + 1 => do
    if (← peek) = some .flowMappingEnd then
      skip
      return []
    match ← readSeparator first with
    | some .flowMappingEnd => do
      skip
      return []
    | some .key => do
      skip
      let l ← peek
      let key ←
        if l = some .value || isMissingInFlow .flowMappingEnd l then pure empty
        else readNode fuel false false
      let value ← readFlowValue fuel
      return (key, value) :: (← readFlowFields fuel false)
    | _ => do
      let key ← readNode fuel false false
      return (key, empty) :: (← readFlowFields fuel false)

/-- Reads the value of a field in a flow mapping. -/
def readFlowValue (fuel : Nat) : Parse Node :=
  match fuel with
  | 0 => failure
  | fuel + 1 => do
    match ← peek with
    | some .value => do
      skip
      if isMissingInFlow .flowMappingEnd (← peek) then return empty
      else readNode fuel false false
    | _ => return empty

end

/-- Reads the directives before a document; a repeated one is refused. The second
component says whether there is any. -/
def readDirectives (version : Bool) (handles : List (String × String)) :
    List Lexeme → Option (List (String × String) × List Lexeme)
  | .directive (.version major minor) :: rest =>
    if version || major ≠ 1 || (minor ≠ 1 && minor ≠ 2) then none
    else readDirectives true handles rest
  | .directive (.tag handle meaning) :: rest =>
    if (handles.lookup handle).isSome then none
    else readDirectives version ((handle, meaning) :: handles) rest
  | rest => some (handles ++ standardHandles, rest)

/-- Whether a document without a node ends there. -/
def endsDocument : Option Lexeme → Bool
  | none | some (.directive _) | some .documentStart | some .documentEnd => true
  | _ => false

/-- The node of a text that is exactly one document. -/
def ofLexemes (lexemes : List Lexeme) : Option Node := do
  let fuel := 4 * lexemes.length + 8
  let (handles, rest) ← readDirectives false [] lexemes
  let scope : Scope := { handles }
  let (node, _, rest) ←
    match rest with
    | .documentStart :: rest =>
      if endsDocument rest.head? then some (empty, scope, rest)
      else (readNode fuel true false).run (scope, rest)
    | [] => none
    | rest =>
      if rest.length = lexemes.length then (readNode fuel true false).run (scope, rest) else none
  if (rest.dropWhile (· == .documentEnd)).isEmpty then return node else none

/-- The node of YAML text; none if the text is not well formed or is not one
document. -/
def ofText (text : String) : Option Node := (lexemes text).bind ofLexemes

mutual

/-- The anchors defined by a node, outer ones first. -/
def anchors : Node → List (Nat × Node)
  | reference _ => []
  | scalar anchor tag style text =>
    (anchor.map fun n => (n, scalar anchor tag style text)).toList
  | sequence anchor items =>
    (anchor.map fun n => (n, sequence anchor items)).toList ++ itemAnchors items
  | mapping anchor fields =>
    (anchor.map fun n => (n, mapping anchor fields)).toList ++ fieldAnchors fields

/-- The anchors defined by items. -/
def itemAnchors : List Node → List (Nat × Node)
  | [] => []
  | item :: rest => anchors item ++ itemAnchors rest

/-- The anchors defined by fields. -/
def fieldAnchors : List (Node × Node) → List (Nat × Node)
  | [] => []
  | (key, value) :: rest => anchors key ++ anchors value ++ fieldAnchors rest

end

end Node

end Flyweight.Yaml
