import Flyweight.Text.Lines

/- The report of a failure: what was attempted, and the chain of causes. -/

namespace Flyweight

/-- A report of a failure. -/
structure Report where
  summary : String
  /-- each the cause of what precedes it -/
  causes : List String := []
  /-- whether the last cause has causes that are not told -/
  hasMore : Bool := false
  deriving DecidableEq, Repr

namespace Report

/-- The lines of a cause: a lead before the first one, the same width of blanks
before the others. -/
def causeLines (lead : String) (cause : String) : List String :=
  match cause.splitOn "\n" with
  | [] => [lead]
  | first :: rest =>
    (lead ++ first) :: rest.map (String.ofList (List.replicate lead.length ' ') ++ ·)

/-- The lead of the cause at a place of the chain. -/
def numberedLead (place : Nat) : String :=
  let digits := toString place
  String.ofList (List.replicate (5 - digits.length) ' ') ++ digits ++ ": "

/-- The lines of the causes; they are numbered unless there is just one. -/
def causeBlock (r : Report) : List String :=
  if r.hasMore || 1 < r.causes.length then
    (r.causes.zipIdx.map fun (cause, place) => causeLines (numberedLead place) cause).flatten
  else r.causes.flatMap (causeLines "    ")

/-- The text of the report. -/
def text (r : Report) : String :=
  let opening := "Error: " ++ r.summary
  if r.causes.isEmpty then opening
  else Lines.join ([opening, "", "Caused by:"] ++ r.causeBlock)

end Report

end Flyweight
