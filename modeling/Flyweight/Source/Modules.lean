import Flyweight.Source.Output

/- Modules, as they are read from generated source.

   A line `pub mod m;` declares a module that is in a file of its own, next to the index that
   has the line; a line `pub use m::*;` exports what the module has. A module may also stand in
   the text itself, between a line `pub mod m {` and the next line that is a closing brace. -/

namespace Flyweight.Source.Modules

/-- What stands between two texts on a line that starts with the one and ends with the other. -/
def between? (before after line : String) : Option String :=
  let behind := line.toList.drop before.toList.length
  if before.toList.isPrefixOf line.toList && after.toList.isSuffixOf behind then
    some (String.ofList (behind.take (behind.length - after.toList.length)))
  else none

/-- The identifiers of the modules that are declared to be in files. -/
def declared (lines : List String) : List String := lines.filterMap (between? "pub mod " ";")

/-- The identifiers of the modules that are exported again. -/
def reexported (lines : List String) : List String := lines.filterMap (between? "pub use " "::*;")

/-- The file that a module is looked up in, if the index of the directory declares it. -/
def path (directory identifier : String) : String :=
  FileTree.join directory (Identifier.bare identifier ++ ".rs")

/-- A line moved left by four blanks. -/
def unindented (line : String) : String :=
  match line.toList with
  | ' ' :: ' ' :: ' ' :: ' ' :: rest => String.ofList rest
  | _ => line

/-- The modules that stand in the text: the identifier of each, and its lines. -/
def inlined (lines : List String) : List (String × List String) :=
  match lines with
  | [] => []
  | line :: rest =>
    match between? "pub mod " " \x7b" line with
    | some identifier =>
      (identifier, (rest.takeWhile (· ≠ "\x7d")).map unindented) ::
        inlined (rest.dropWhile (· ≠ "\x7d"))
    | none => inlined rest
termination_by lines.length
decreasing_by
  · exact Nat.lt_succ_of_le (List.dropWhile_suffix _).length_le
  · simp

/-- The lines of a source that may stand inside a module, without the empty ones at the two
ends. -/
def codeLines (text : String) : List String :=
  Lines.trimmed ((Lines.ofText text).filter mayStandInside)

/-- The lines of a module in the text, which has one empty line if there is no code. -/
def heldLines (text : String) : List String :=
  match codeLines text with
  | [] => [""]
  | code => code

/-- The lines of the block of a unit: its module in the text, and the export of what is in it. -/
def blockLines (name text : String) : Block :=
  let identifier := Identifier.moduleName name
  ["#[allow(clippy::all, unused_parens, unused_imports, dead_code)]",
      "pub mod " ++ identifier ++ " \x7b"] ++
    (heldLines text).map (Lines.indentLine 1) ++
    ["\x7d", "", "pub use " ++ identifier ++ "::*;", ""]

end Flyweight.Source.Modules
