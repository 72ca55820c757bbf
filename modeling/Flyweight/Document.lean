import Flyweight.Document.Json.Reader
import Flyweight.Document.Json.Writer
import Flyweight.Document.Layout
import Flyweight.Document.Yaml.Reading
import Flyweight.Document.Yaml.Writer
import Flyweight.FileTree

/- Schema documents: the formats, and reading a document from a file. -/

namespace Flyweight.Document

/-- A format of documents. -/
inductive Format where
  | json
  | yaml
  deriving DecidableEq, Repr

/-- The format that a file's extension stands for. -/
def Format.ofExtension? : String → Option Format
  | "yaml" => some .yaml
  | "yml" => some .yaml
  | "json" => some .json
  | _ => none

/-- The schema that a text denotes in a format. -/
def read (f : Format) (text : String) : Option Schema :=
  match f with
  | .json => (Json.read text).bind Datum.reading.schema
  | .yaml => Yaml.readSchema text

/-- A datum as a document that is meant to be read by people. -/
def write (f : Format) (d : Datum) : String :=
  match f with
  | .json => Json.pretty 0 d
  | .yaml => Yaml.write d

/-- Why no schema could be read from a file. -/
inductive LoadError where
  | unreadable (path : String) (cause : FileError)
  | unsupported (path : String)
  | malformed (f : Format)
  deriving DecidableEq, Repr

/-- The wording of the error; of a malformed document only the format is told. -/
def LoadError.message : LoadError → String
  | unreadable path cause => s!"failed to read IR file {path}: " ++ cause.message
  | unsupported path =>
    s!"unsupported IR file extension for {path} (expected .yaml, .yml or .json)"
  | malformed .yaml => "invalid YAML IR"
  | malformed .json => "invalid JSON IR"

/-- Reads a schema from a file, in the format that its extension stands for. The
file has to be readable even if its format is not supported. -/
def load {m : Type → Type} [Monad m] (files : Files m) (path : String) :
    ExceptT LoadError m Schema := do
  let text ← (files.read path).adapt (LoadError.unreadable path)
  match (FileTree.extension? path).bind Format.ofExtension? with
  | none => throw (.unsupported path)
  | some f =>
    match read f text with
    | some s => return s
    | none => throw (.malformed f)

end Flyweight.Document
