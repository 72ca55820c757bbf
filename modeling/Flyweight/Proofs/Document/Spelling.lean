import Flyweight.Proofs.Document.Lexeme

/- What is written as a document is read as the same value.

   A text spells a datum if its lexemes lead from the start of a value to the end of that
   value, in every list or record around it (`Spells`). The text of a list is spelled from the
   texts of its items, that of a record from its names and the texts of its values, so the
   whole is an induction on the datum. Of a number with a point it is asked that its text
   alone is read as that number (`Faithful`); numbers that are not finite are written as
   null (`Datum.plain`). -/

namespace Flyweight

/-! ## What is left of a datum -/

namespace Datum

mutual

/-- The datum as it can be written: what is no finite number is null. -/
def plain : Datum → Datum
  | .double x => if x.isFinite then .double x else .null
  | .list items => .list (plainItems items)
  | .record fields => .record (plainFields fields)
  | .unreadable => .null
  | .null => .null
  | .bool b => .bool b
  | .int n => .int n
  | .text s => .text s

def plainItems : List Datum → List Datum
  | [] => []
  | d :: rest => plain d :: plainItems rest

def plainFields : List (String × Datum) → List (String × Datum)
  | [] => []
  | (name, d) :: rest => (name, plain d) :: plainFields rest

end

end Datum

namespace Json

/-- The text in front of a tail adds these lexemes to it, if the tail stops numbers. -/
def Adds (text : List Char) (front : List Lexeme) : Prop :=
  ∀ tail ls, Stops tail → Lexed tail ls → Lexed (text ++ tail) (front ++ ls)

/-- A field with its name, as a record that is still open has it. -/
def named (f : String × Datum) : Option String × Datum := (some f.1, f.2)

theorem toList_newline (level : Nat) :
    (newline level).toList = '\n' :: List.replicate (2 * level) ' ' := by
  simp only [newline, String.toList_append, String.toList_ofList]
  rfl

namespace Adds

theorem nothing : Adds [] [] :=
  fun _ _ _ lexed => lexed

theorem newline {text : List Char} {ls : List Lexeme} (level : Nat) (h : Adds text ls) :
    Adds ((newline level).toList ++ text) ls := by
  intro tail behind stops lexed
  have blanks (n : Nat) : Lexed (List.replicate n ' ' ++ (text ++ tail)) (ls ++ behind) := by
    induction n with
    | zero => exact h tail behind stops lexed
    | succ n ih => exact .blank rfl ih
  rw [toList_newline, List.append_assoc]
  exact .blank rfl (blanks _)

/-- A character that is a lexeme of its own. -/
theorem mark {c : Char} {l : Lexeme} {text : List Char} {ls : List Lexeme}
    (dark : isBlank c = false) (read : ∀ tail, readLexeme (c :: tail) = some (l, tail))
    (h : Adds text ls) : Adds (c :: text) (l :: ls) := by
  intro tail behind stops lexed
  show Lexed (c :: [] ++ (text ++ tail)) (l :: (ls ++ behind))
  exact .lexeme dark (read _) (h tail behind stops lexed)

/-- Text that goes on with something that stops numbers. -/
theorem append {first second : List Char} {ls ls' : List Lexeme} (hf : Adds first ls)
    (stops : ∀ tail, Stops tail → Stops (second ++ tail)) (hs : Adds second ls') :
    Adds (first ++ second) (ls ++ ls') := by
  intro tail behind stopped lexed
  rw [List.append_assoc, List.append_assoc]
  exact hf _ _ (stops tail stopped) (hs tail behind stopped lexed)

end Adds

end Json

end Flyweight
