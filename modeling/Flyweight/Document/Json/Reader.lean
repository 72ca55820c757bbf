import Flyweight.Document.Json.Lexeme

/- The value of JSON text.

   The lexemes are read one by one with a stack of the lists and records that are
   still open, so reading is a fold over the lexemes and nesting has no limit. -/

namespace Flyweight.Json

/-- A list or record that is still open, with what it holds so far, last first. -/
inductive Frame where
  | list (before : List Datum)
  /-- a record that waits for the value of the field `name` -/
  | record (before : List (Option String × Datum)) (name : Option String)

/-- What the next lexeme may be; the open frames are listed innermost first. -/
inductive State where
  | value (outer : List Frame)
  /-- after the opening of a list -/
  | itemOrClose (outer : List Frame)
  /-- after the opening of a record -/
  | keyOrClose (outer : List Frame)
  /-- after a comma in a record -/
  | key (before : List (Option String × Datum)) (outer : List Frame)
  | colon (before : List (Option String × Datum)) (name : Option String) (outer : List Frame)
  /-- after an item of a list -/
  | afterItem (items : List Datum) (outer : List Frame)
  /-- after a field of a record -/
  | afterField (fields : List (Option String × Datum)) (outer : List Frame)
  /-- after the whole value -/
  | done (value : Datum)

namespace State

/-- The state after a value, which belongs to the innermost open frame. -/
def complete (d : Datum) : List Frame → State
  | [] => done d
  | .list before :: outer => afterItem (d :: before) outer
  | .record before name :: outer => afterField ((name, d) :: before) outer

/-- The value of a record whose fields are given last first; without a value if a
field's name has none. -/
def closeRecord (fields : List (Option String × Datum)) : Datum :=
  match fields.reverse.mapM fun (name, d) => name.map (·, d) with
  | some fields => .record fields
  | none => .unreadable

/-- The value of text. -/
def textDatum : Option String → Datum
  | some s => .text s
  | none => .unreadable

/-- The state after a lexeme where a value may start. -/
def startValue (outer : List Frame) : Lexeme → Option State
  | .openList => some (itemOrClose outer)
  | .openRecord => some (keyOrClose outer)
  | .text t => some (complete (textDatum t) outer)
  | .scalar d => some (complete d outer)
  | _ => none

/-- The state after one more lexeme; none if the lexeme may not stand there. -/
def step : State → Lexeme → Option State
  | value outer, l => startValue outer l
  | itemOrClose outer, .closeList => some (complete (.list []) outer)
  | itemOrClose outer, l => startValue (.list [] :: outer) l
  | keyOrClose outer, .closeRecord => some (complete (.record []) outer)
  | keyOrClose outer, .text t => some (colon [] t outer)
  | key before outer, .text t => some (colon before t outer)
  | colon before t outer, .colon => some (value (.record before t :: outer))
  | afterItem items outer, .comma => some (value (.list items :: outer))
  | afterItem items outer, .closeList => some (complete (.list items.reverse) outer)
  | afterField fields outer, .comma => some (key fields outer)
  | afterField fields outer, .closeRecord => some (complete (closeRecord fields) outer)
  | _, _ => none

end State

/-- The value that a list of lexemes denotes. -/
def ofLexemes (lexemes : List Lexeme) : Option Datum :=
  match lexemes.foldlM State.step (.value []) with
  | some (.done d) => some d
  | _ => none

/-- The value of JSON text; none if the text is not well formed. -/
def read (text : String) : Option Datum := (lexemes text).bind ofLexemes

end Flyweight.Json
