import Flyweight.Text.Words

/- Identifiers of generated source, from the names of a schema. -/

namespace Flyweight.Identifier

/-- The reserved words of the generated language. -/
def reserved : List String :=
  ["as", "break", "const", "continue", "crate", "else", "enum", "extern", "false", "fn", "for",
    "if", "impl", "in", "let", "loop", "match", "mod", "move", "mut", "pub", "ref", "return",
    "self", "Self", "static", "struct", "super", "trait", "true", "type", "unsafe", "use", "where",
    "while", "async", "await", "dyn", "abstract", "become", "box", "do", "final", "macro",
    "override", "priv", "typeof", "unsized", "virtual", "yield", "try", "gen"]

/-- The reserved words that stay reserved when written as a raw identifier. -/
def neverRaw : List String := ["self", "Self", "super", "crate"]

/-- The identifier for a word, which may be reserved: such a word is written as
a raw identifier, or with an underscore after it where that is not allowed. -/
def escape (word : String) : String :=
  if neverRaw.contains word then word ++ "_"
  else if reserved.contains word then "r#" ++ word
  else word

/-- The name that an identifier stands for: the mark of a raw identifier is not a part of
it. -/
def bare (identifier : String) : String :=
  match identifier.toList with
  | 'r' :: '#' :: rest => String.ofList rest
  | _ => identifier

/-- The name of a type. -/
def typeName (name : String) : String := Words.camel name

/-- The name of an accessor. -/
def property (name : String) : String := escape (Words.snake name)

/-- The name of an accessor with something attached, which is never reserved. -/
def compound (before name after : String) : String := before ++ Words.snake name ++ after

/-- The name of an associated constant. -/
def constant (name : String) : String := Words.shouting name

/-- The name of a module. -/
def moduleName (name : String) : String := escape (Words.snake name)

/-- The stem of a module's file, where no word is reserved. -/
def fileStem (name : String) : String := Words.snake name

end Flyweight.Identifier
