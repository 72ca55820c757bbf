import Flyweight.Document.Layout
import Flyweight.Document.Yaml.Resolution

/- How the nodes of a YAML document are understood. -/

namespace Flyweight.Yaml

namespace Node

/-- The tag of the standard types. -/
def standardTag (name : String) : String := "tag:yaml.org,2002:" ++ name

/-- The name of a tag that belongs to the document alone: what follows its
exclamation mark. -/
def localTag? (tag : Option String) : Option String :=
  match tag.map String.toList with
  | some ('!' :: name) => some (String.ofList name)
  | _ => none

/-- The node itself, or the node that an alias stands for. -/
def follow (anchors : List (Nat × Node)) : Node → Option Node
  | reference target => anchors.lookup target
  | n => some n

/-- The text of a scalar, however it is written. -/
def text? : Node → Option String
  | scalar _ _ _ text => some text
  | _ => none

/-- The text of a scalar that may denote an integer: a plain one, or a literal
block that is tagged as one. -/
def integerText? : Node → Option String
  | scalar _ _ .plain text => some text
  | scalar _ tag .literal text => if tag = some (standardTag "int") then some text else none
  | _ => none

/-- The name that a node gives to one of a set of words: the text of a scalar, or
the tag of one that denotes null. -/
def symbol? : Node → Option String
  | scalar _ tag style text =>
    match localTag? tag with
    | some name => if style = .plain ∧ (text.isEmpty ∨ isNullWord text) then some name else none
    | none => some text
  | _ => none

/-- The items of a sequence; a value that is not written has none. -/
def items? : Node → Option (List Node)
  | sequence _ items => some items
  | scalar _ _ .plain "" => some []
  | _ => none

/-- Whether the node denotes the absence of an optional value. -/
def isAbsent : Node → Bool
  | scalar _ none .plain text => text.isEmpty || isNullWord text
  | scalar _ (some tag) .plain text => tag = standardTag "null" && isNullWord text
  | _ => false

/-- The constant that an integer or a double denotes. -/
def constantOf : Meaning → Option Constant
  | .int n => Constant.ofInt? n
  | .double x => some (.double x)
  | _ => none

/-- The constant that a scalar denotes: a plain one by its text, a tagged one by
its tag. -/
def constant? : Node → Option Constant
  | scalar _ none .plain text => constantOf (meaningOf text)
  | scalar _ (some tag) _ text =>
    if tag = standardTag "int" then ((integer? text).filter isWide).bind Constant.ofInt?
    else if tag = standardTag "float" then (double? text).map .double
    else none
  | _ => none

/-- The fields of a mapping with the given names; none if a key is no scalar or if
one of the names occurs twice. -/
def fields? (anchors : List (Nat × Node)) (names : List String) :
    Node → Option (List (String × Node))
  | mapping _ fields => do
    let named ← fields.mapM fun (key, value) => do
      return (← (← key.follow anchors).text?, value)
    let known := named.filter fun f => names.contains f.1
    if (known.map (·.1)).Nodup then some known else none
  | _ => none

/-- How nodes are understood, given the nodes that aliases stand for. -/
def reading (anchors : List (Nat × Node)) : Reading Node where
  text n := (n.follow anchors).bind text?
  natural n := do
    let m ← natural? (← (← n.follow anchors).integerText?)
    if m < 0x10000000000000000 then some (UInt64.ofNat m) else none
  integer n := do
    let i ← integer? (← (← n.follow anchors).integerText?)
    if -0x80000000 ≤ i ∧ i < 0x80000000 then some (Int32.ofInt i) else none
  symbol n := (n.follow anchors).bind symbol?
  items n := (n.follow anchors).bind items?
  fields names n := (n.follow anchors).bind (fields? anchors names)
  isAbsent n := (n.follow anchors).any isAbsent
  constant n := (n.follow anchors).bind constant?

end Node

/-- The schema that YAML text denotes. -/
def readSchema (text : String) : Option Schema := do
  let node ← Node.ofText text
  (Node.reading node.anchors.reverse).schema node

end Flyweight.Yaml
