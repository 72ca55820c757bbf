import Flyweight.FileTree
import Flyweight.Source.Unit

/- Where units go: into memory, or into a directory of a file tree.

   A sink takes units one by one. All units of a schema are generated before the
   first of them is handed to a sink, so that nothing is written when one of them
   cannot be generated. -/

namespace Flyweight.Source

/-- Why units were not put out. -/
inductive OutputError where
  /-- a unit could not be generated -/
  | source (cause : SourceError)
  /-- a unit could not be written -/
  | write (name : String) (cause : FileError)
  deriving DecidableEq, Repr

/-- The wording of the error. -/
def OutputError.message : OutputError → String
  | source cause => cause.message
  | write name cause => s!"failed to write output '{name}': " ++ cause.message

/-- An operation that puts out units. -/
abbrev Put (m : Type → Type) (α : Type) := ExceptT OutputError m α

/-- Takes a unit, given by its name and its text. -/
abbrev Sink (m : Type → Type) := String → String → Put m Unit

/-- Units kept in memory, each with its name, in the order in which the names came
first. -/
structure Shelf where
  units : List (String × String) := []
  deriving DecidableEq, Repr

/-- The shelf with a unit; one of the same name keeps its place. -/
def Shelf.insert (s : Shelf) (name text : String) : Shelf :=
  if s.units.any (·.1 = name) then
    ⟨s.units.map fun u => if u.1 = name then (name, text) else u⟩
  else ⟨s.units ++ [(name, text)]⟩

/-- Keeps units in memory. -/
def Shelf.sink : Sink (StateM Shelf) := fun name text => modify (·.insert name text)

/-- The path of a unit's file in a directory. -/
def unitPath (directory name : String) : String :=
  FileTree.join directory (Identifier.fileStem name ++ ".rs")

/-- Writes each unit to a file of its own in a directory, which is made if it is
missing. -/
def directorySink {m : Type → Type} [Monad m] (files : Files m) (directory : String) : Sink m :=
  fun name text =>
    ExceptT.adapt (OutputError.write name) (do
      files.ensureDirectory directory
      files.write (unitPath directory name) text)

section

variable {m : Type → Type} [Monad m]

/-- What has to be generated before it can be put out. -/
def Put.generated {α : Type} : Except SourceError α → Put m α
  | .ok a => pure a
  | .error e => throw (.source e)

/-- Puts out the unit of the message header. -/
def putHeader (o : Options) (s : Schema) (sink : Sink m) : Put m Unit := do
  let u ← Put.generated (headerUnit o s)
  sink u.name u.text

/-- Puts out the units of the types, each as soon as it is generated. -/
def putTypes (o : Options) (s : Schema) (sink : Sink m) : Put m Unit :=
  s.types.forM fun tokens => do
    let u ← Put.generated (typeUnit o s tokens)
    sink u.name u.text

/-- Puts out the units of the messages, each as soon as it is generated. -/
def putMessages (o : Options) (s : Schema) (sink : Sink m) : Put m Unit :=
  s.messages.forM fun tokens => do
    let u ← Put.generated (messageUnit o s tokens)
    sink u.name u.text

/-- Puts out all units of a schema, and the module index if it is wanted. Nothing
is put out when one of the units cannot be generated. -/
def putAll (o : Options) (s : Schema) (sink : Sink m) : Put m (List SourceUnit) := do
  let us ← Put.generated (units o s)
  us.forM fun u => sink u.name u.text
  if o.moduleIndex then
    sink moduleIndexName (moduleIndex (us.map (·.name)))
  return us

end

end Flyweight.Source
