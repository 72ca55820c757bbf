import Flyweight.Command.Arguments
import Flyweight.Document
import Flyweight.Report
import Flyweight.Source.Output
import Flyweight.Summary

/- The commands: generating source from a schema, and summarising a schema. -/

namespace Flyweight

/-- What the command for generating source needs to know. -/
structure GenerateOptions where
  schema : String
  directory : String := "generated"
  codecPath : String := "sbe_codec"
  package : Option String := none
  bundle : Bool := false
  deriving DecidableEq, Repr

/-- A command. -/
inductive Command where
  | generate (o : GenerateOptions)
  | inspect (schema : String) (format : Document.Format)
  deriving DecidableEq, Repr

namespace Command

/-! ## Reading the command line -/

/-- The option that names the schema's file. -/
def schemaOption : OptionSpec := { long := "ir", short := some 'i' }

/-- The options for generating source. -/
def generateOptions : List OptionSpec :=
  [schemaOption, { long := "output", short := some 'o' }, { long := "codec-crate" },
    { long := "package" }, { long := "bundle", takesValue := false },
    { long := "verbose", short := some 'v', takesValue := false }]

/-- The options for summarising. -/
def inspectOptions : List OptionSpec := [schemaOption, { long := "format" }]

/-- A path that was given; it may not be empty. -/
def path? (value : String) : Option String := if value.isEmpty then none else some value

/-- The format that a word names. -/
def format? : String → Option Document.Format
  | "json" => some .json
  | "yaml" => some .yaml
  | _ => none

/-- The command that arguments stand for; none if they are not as they should be. -/
def parse : List String → Option Command
  | "generate" :: args => do
    let given ← readArguments generateOptions [] none args
    return generate {
      schema := ← (given.lookup "ir").bind path?
      directory := ← path? ((given.lookup "output").getD "generated")
      codecPath := (given.lookup "codec-crate").getD "sbe_codec"
      package := given.lookup "package"
      bundle := (given.lookup "bundle").isSome }
  | "inspect" :: args => do
    let given ← readArguments inspectOptions [] none args
    return inspect (← (given.lookup "ir").bind path?)
      (← format? ((given.lookup "format").getD "yaml"))
  | _ => none

/-! ## Running a command -/

/-- How a command ends. -/
inductive Outcome where
  /-- with this text for the user -/
  | done (output : String)
  | failed (report : Report)
  /-- the arguments were not as they should be -/
  | misused
  deriving DecidableEq, Repr

/-- The code that a program leaves with. -/
def Outcome.code : Outcome → Nat
  | done _ => 0
  | failed _ => 1
  | misused => 2

/-- The text that a program prints. -/
def Outcome.output : Outcome → String
  | done output => output
  | _ => ""

/-- The causes of a failure to load a schema. -/
def loadReport (path : String) (e : Document.LoadError) : Report :=
  let summary := s!"failed to load IR from {path}"
  match e with
  | .unreadable _ cause => ⟨summary, [e.message, cause.message], false⟩
  | .unsupported _ => ⟨summary, [e.message], false⟩
  | .malformed _ => ⟨summary, [e.message], true⟩

/-- The causes of a failure to put out units. -/
def outputReport (e : Source.OutputError) : Report :=
  let summary := "code generation failed"
  match e with
  | .source cause => ⟨summary, [cause.message], false⟩
  | .write _ cause => ⟨summary, [e.message, cause.message], false⟩

/-- The name of the file of a bundle. -/
def bundleName : String := "flyweights.rs"

/-- The mark before a line that reports success. -/
def successMark : String := "[✓] "

section

variable {m : Type → Type} [Monad m]

/-- A computation that ends in a report when it fails. -/
abbrev Attempt (m : Type → Type) (α : Type) := ExceptT Report m α

/-- Loads a schema. -/
def loadSchema (files : Files m) (path : String) : Attempt m Schema :=
  (Document.load files path).adapt (loadReport path)

/-- Generates the bundle and writes it to its file. -/
def writeBundle (files : Files m) (o : GenerateOptions) (options : Source.Options) (s : Schema) :
    Attempt m String := do
  match Source.bundleOf options s with
  | .error e => throw (outputReport (.source e))
  | .ok text => do
    let directory := o.directory
    (files.ensureDirectory directory).adapt fun e =>
      ⟨s!"failed to create {directory}", [e.message], false⟩
    let path := FileTree.join directory bundleName
    (files.write path text).adapt fun e => ⟨s!"failed to write {path}", [e.message], false⟩
    return s!"{successMark}Generated bundle: {path}\n"

/-- Generates the units and writes each to a file of its own. -/
def writeUnits (files : Files m) (o : GenerateOptions) (options : Source.Options) (s : Schema) :
    Attempt m String := do
  let directory := o.directory
  let units ← (Source.putAll options s (Source.directorySink files directory)).adapt outputReport
  let count := units.length
  return s!"{successMark}Generated {count} unit(s) in {directory}\n"

/-- Generates source. -/
def runGenerate (files : Files m) (o : GenerateOptions) : Attempt m String := do
  let s ← loadSchema files o.schema
  match s.checkNesting with
  | .error e =>
    let path := o.schema
    throw ⟨s!"malformed IR in {path}", [e.message], false⟩
  | .ok () => do
    let options : Source.Options :=
      { codecPath := o.codecPath, package := o.package, moduleIndex := !o.bundle }
    if o.bundle then writeBundle files o options s else writeUnits files o options s

/-- Summarises a schema. -/
def runInspect (files : Files m) (path : String) (format : Document.Format) :
    Attempt m String := do
  let s ← loadSchema files path
  match Summary.ofSchema s with
  | .error e => throw ⟨e.message, [], false⟩
  | .ok summary => return Document.write format summary.toDatum ++ "\n"

/-- Runs a command. -/
def run (files : Files m) (c : Command) : m Outcome := do
  let attempt :=
    match c with
    | generate o => runGenerate files o
    | inspect path format => runInspect files path format
  match ← attempt.run with
  | .ok output => return .done output
  | .error report => return .failed report

/-- Runs the command that arguments stand for. -/
def runArguments (files : Files m) (args : List String) : m Outcome :=
  match parse args with
  | some c => run files c
  | none => return .misused

end

end Command

end Flyweight
