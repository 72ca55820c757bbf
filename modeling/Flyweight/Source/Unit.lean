import Flyweight.Schema
import Flyweight.Source.Groups
import Flyweight.Source.Text

/- Units of generated source: one for the message header, one for each type and
   one for each message of a schema. -/

namespace Flyweight.Source

/-- The name of the unit of the message header. -/
def messageHeaderName : String := "MessageHeader"

/-- The name of the module index. -/
def moduleIndexName : String := "mod"

/-- The choices left open by a schema. -/
structure Options where
  /-- where generated code finds the codec -/
  codecPath : String := "sbe_codec"
  /-- the package named in every unit, if not the schema's -/
  package : Option String := none
  moduleIndex : Bool := true
  deriving DecidableEq, Repr

/-- A unit of generated source. -/
structure SourceUnit where
  name : String
  text : String
  deriving DecidableEq, Repr

/-- The module that holds the unit. -/
def SourceUnit.moduleName (u : SourceUnit) : String := Identifier.moduleName u.name

/-- What every unit starts with. -/
def prologue (codecPath package name : String) : Block :=
  [s!"//! Generated flyweight for `{name}` (package `{package}`). Do not edit.",
    "#![allow(clippy::all, unused_parens, unused_imports, dead_code)]",
    "",
    s!"use {codecPath}::\x7bself as codec, ByteOrder, CodecError, CodecResult, DirectBuffer\x7d;",
    "use super::*;",
    ""]

/-- The unit of a declaration. -/
def Declaration.unit (o : Options) (s : Schema) (d : Declaration) : SourceUnit :=
  ⟨d.typeName,
    Block.text (prologue o.codecPath (o.package.getD s.package) d.typeName ++ d.block)⟩

/-- The declaration of the message header. -/
def Declaration.ofHeader (tokens : List Token) : Except SourceError Declaration :=
  match tokens with
  | [] => .error (.emptyTokenList "message header")
  | _ => (FixedFlyweight.ofComposite messageHeaderName tokens).map .fixed

/-- The declaration of a type: an enum, a set or a composite. -/
def Declaration.ofType (tokens : List Token) : Except SourceError Declaration := do
  let first ← opening "type" tokens
  let typeName := Identifier.typeName first.name
  match first.signal with
  | .beginEnum => (Enumeration.ofTokens tokens).map .enumeration
  | .beginSet => (FixedFlyweight.ofSet typeName tokens).map .fixed
  | .beginComposite => (FixedFlyweight.ofComposite typeName tokens).map .fixed
  | signal => .error (.unexpectedSignal signal first.name "type list")

/-- The declaration of a message. -/
def Declaration.ofMessage (tokens : List Token) : Except SourceError Declaration :=
  (MessageFlyweight.ofTokens tokens).map .message

/-- The unit of the message header. -/
def headerUnit (o : Options) (s : Schema) : Except SourceError SourceUnit :=
  (Declaration.ofHeader s.header).map (·.unit o s)

/-- The unit of a type. -/
def typeUnit (o : Options) (s : Schema) (tokens : List Token) : Except SourceError SourceUnit :=
  (Declaration.ofType tokens).map (·.unit o s)

/-- The unit of a message. -/
def messageUnit (o : Options) (s : Schema) (tokens : List Token) : Except SourceError SourceUnit :=
  (Declaration.ofMessage tokens).map (·.unit o s)

/-- The units of a schema: the header's, then those of the types, then those of
the messages. -/
def units (o : Options) (s : Schema) : Except SourceError (List SourceUnit) := do
  let header ← headerUnit o s
  let types ← s.types.mapM (typeUnit o s)
  let messages ← s.messages.mapM (messageUnit o s)
  return header :: (types ++ messages)

/-- The module index: it declares and re-exports the modules of units. -/
def moduleIndex (names : List String) : String :=
  let modules := names.map Identifier.moduleName
  Block.text
    (["//! Generated module index. Do not edit.", ""] ++
      modules.map (fun m => s!"pub mod {m};") ++ [""] ++ modules.map (fun m => s!"pub use {m}::*;"))

/-- Whether a line may stand inside a module: inner documentation and inner
attributes may not. -/
def mayStandInside (line : String) : Bool :=
  !(line.startsWith "//!" || line.startsWith "#![")

/-- The block of a unit in a bundle: its text as an inline module. -/
def bundleBlock (name text : String) : String :=
  let module_ := Identifier.moduleName name
  let body := Block.text ((Lines.ofText text).filter mayStandInside)
  String.join
    ["#[allow(clippy::all, unused_parens, unused_imports, dead_code)]\n",
      s!"pub mod {module_} \x7b\n",
      Lines.indent (Lines.trimBreaks body) 1,
      s!"\n\x7d\n\npub use {module_}::*;\n\n"]

/-- All units in one text, each as an inline module. -/
def bundle (units : List (String × String)) : String :=
  String.join (units.map fun (name, text) => bundleBlock name text)

/-- The units of a schema in one text. -/
def bundleOf (o : Options) (s : Schema) : Except SourceError String :=
  (units o s).map fun us => bundle (us.map fun u => (u.name, u.text))

end Flyweight.Source
