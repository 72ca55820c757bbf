import Flyweight.Text.Letters

/- The words of a name, and names written from words.

   Words end at every character that is neither a letter nor a digit, between a
   small letter and a capital one, and before the last of several capitals when a
   small letter follows: `HTTPServer_v2` has the words `HTTP`, `Server` and `v2`. -/

namespace Flyweight.Words

/-- The case of the last letter that has a case, in the word so far. -/
inductive Case where
  | unknown
  | lower
  | upper
  deriving DecidableEq, Repr

/-- The case after one more character. -/
def Case.after (mode : Case) (c : Char) : Case :=
  if Letters.isLower c then .lower else if Letters.isUpper c then .upper else mode

/-- Cuts a run of letters and digits into words; `word` is the word so far. -/
def cut (mode : Case) (word : List Char) : List Char → List (List Char)
  | [] => if word.isEmpty then [] else [word]
  | [c] => [word ++ [c]]
  | c :: next :: rest =>
    if mode.after c = .lower ∧ Letters.isUpper next then
      (word ++ [c]) :: cut .unknown [] (next :: rest)
    else if mode = .upper ∧ Letters.isUpper c ∧ Letters.isLower next then
      word :: cut .unknown [c] (next :: rest)
    else cut (mode.after c) (word ++ [c]) (next :: rest)

/-- The runs of letters and digits of a name; a run may be empty. -/
def runs : List Char → List (List Char)
  | [] => [[]]
  | c :: rest =>
    match runs rest with
    | [] => [[c]]
    | run :: others =>
      if Letters.isAlphanumeric c then (c :: run) :: others else [] :: run :: others

/-- The words of a name. -/
def ofName (name : String) : List (List Char) := (runs name.toList).flatMap (cut .unknown [])

/-- A word in small letters; the last letter of a word takes the final form of
sigma. -/
def lower : List Char → List Char
  | [] => []
  | [c] => if c = 'Σ' then ['ς'] else Letters.toLower c
  | c :: rest => Letters.toLower c ++ lower rest

/-- A word in capital letters. -/
def upper (word : List Char) : List Char := word.flatMap Letters.toUpper

/-- A word with a capital letter first. -/
def capitalized : List Char → List Char
  | [] => []
  | c :: rest => Letters.toUpper c ++ lower rest

/-- The words one after another, each with a capital first: `FuelFigures`. -/
def camel (name : String) : String := String.ofList ((ofName name).flatMap capitalized)

/-- The words in small letters, joined by underscores: `fuel_figures`. -/
def snake (name : String) : String :=
  String.ofList (List.intercalate ['_'] ((ofName name).map lower))

/-- The words in capital letters, joined by underscores: `FUEL_FIGURES`. -/
def shouting (name : String) : String :=
  String.ofList (List.intercalate ['_'] ((ofName name).map upper))

end Flyweight.Words
