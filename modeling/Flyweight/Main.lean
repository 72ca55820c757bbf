import Flyweight.Command

/- The program: runs a command on the files of the computer. -/

namespace Flyweight.Disk

/-- The cause of a failed operation on files. -/
def fileError : IO.Error → FileError
  | .noFileOrDirectory .. => .notFound
  | .alreadyExists .. => .alreadyExists
  | .inappropriateType .. => .isADirectory
  | e => .other (toString e)

/-- An operation on files, with its failure as a value. -/
def onDisk {α : Type} (action : IO α) : ExceptT FileError IO α := do
  match ← (action.toBaseIO : BaseIO _) with
  | .ok a => return a
  | .error e => throw (fileError e)

/-- The files of the computer. -/
def files : Files IO where
  read path := onDisk (IO.FS.readFile path)
  ensureDirectory path := onDisk (IO.FS.createDirAll path)
  write path text := onDisk (IO.FS.writeFile path text)

end Flyweight.Disk

open Flyweight in
/-- Runs the command that the arguments stand for. -/
def main (args : List String) : IO UInt32 := do
  let outcome ← Command.runArguments Disk.files args
  IO.print outcome.output
  match outcome with
  | .failed report => IO.eprintln report.text
  | .misused => IO.eprintln "usage: generate --ir FILE [options] | inspect --ir FILE [options]"
  | .done _ => pure ()
  return outcome.code.toUInt32
