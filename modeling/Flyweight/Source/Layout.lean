import Flyweight.Text.Lines

/- The layout of generated source: lines, and blocks in braces. -/

namespace Flyweight.Source

/-- Lines of source, without their breaks. -/
abbrev Block := List String

namespace Block

/-- The lines moved right by `level` steps; empty lines stay empty. -/
def indented (level : Nat) (b : Block) : Block := b.map (Lines.indentLine level)

/-- The lines as text, each with a break at its end. -/
def text (b : Block) : String := String.join (b.map (· ++ "\n"))

end Block

/-- A head, a body one step to the right between braces, and what follows the
closing brace on its line. -/
def braces (head : String) (body : Block) (tail : String := "") : Block :=
  s!"{head} \x7b" :: body.indented 1 ++ [s!"\x7d{tail}"]

/-- Items with an empty line before each. -/
def spaced (items : List Block) : Block := items.flatMap ("" :: ·)

end Flyweight.Source
