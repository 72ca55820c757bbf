/- Arguments of a command line.

   An option has a long name and may have a short one. Its value stands behind an
   equals sign, in the next argument, or, behind a short name, in the rest of the
   argument. Short names may stand together. No option may be given twice, and
   nothing but options is allowed. -/

namespace Flyweight.Command

/-- An option that a command takes. -/
structure OptionSpec where
  long : String
  short : Option Char := none
  takesValue : Bool := true
  deriving DecidableEq, Repr

/-- The options given so far, by their long names; one without a value has the
empty text. -/
abbrev Given := List (String × String)

/-- Notes an option; one that was given before is refused. -/
def Given.add (g : Given) (o : OptionSpec) (value : String) : Option Given :=
  if g.any (·.1 = o.long) then none else some (g ++ [(o.long, value)])

/-- Whether an argument looks like an option, so that it is no value. -/
def looksLikeOption (arg : String) : Bool := arg.startsWith "-" && arg ≠ "-"

/-- Reads the short names in one argument. The second component is the option that
waits for its value in the next argument. -/
def readShort (options : List OptionSpec) (g : Given) :
    List Char → Option (Given × Option OptionSpec)
  | [] => some (g, none)
  | c :: rest =>
    match options.find? (·.short = some c) with
    | none => none
    | some o =>
      if o.takesValue then
        match rest with
        | [] => some (g, some o)
        | '=' :: value => (g.add o (String.ofList value)).map (·, none)
        | value => (g.add o (String.ofList value)).map (·, none)
      else (g.add o "").bind (readShort options · rest)

/-- Reads a long name, and the value behind an equals sign. -/
def readLong (options : List OptionSpec) (g : Given) (cs : List Char) :
    Option (Given × Option OptionSpec) :=
  let name := String.ofList (cs.takeWhile (· ≠ '='))
  match options.find? (·.long = name), cs.dropWhile (· ≠ '=') with
  | some o, [] => if o.takesValue then some (g, some o) else (g.add o "").map (·, none)
  | some o, _ :: value =>
    if o.takesValue then (g.add o (String.ofList value)).map (·, none) else none
  | none, _ => none

/-- Reads arguments; `waiting` is the option whose value is the next one. -/
def readArguments (options : List OptionSpec) (g : Given) :
    Option OptionSpec → List String → Option Given
  | none, [] => some g
  | some _, [] => none
  | some o, arg :: rest =>
    if looksLikeOption arg then none
    else (g.add o arg).bind fun g => readArguments options g none rest
  | none, arg :: rest =>
    if arg = "--" then if rest.isEmpty then some g else none
    else
      match arg.toList with
      | '-' :: '-' :: cs =>
        (readLong options g cs).bind fun (g, waiting) => readArguments options g waiting rest
      | '-' :: c :: cs =>
        (readShort options g (c :: cs)).bind fun (g, waiting) =>
          readArguments options g waiting rest
      | _ => none

end Flyweight.Command
