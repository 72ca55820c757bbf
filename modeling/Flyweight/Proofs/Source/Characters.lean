import Mathlib.Data.List.Basic
import Flyweight.Proofs.Document.Lexeme
import Flyweight.Proofs.Source.Acceptance
import Flyweight.Proofs.Source.Numeral
import Flyweight.Proofs.Text.Identifiers
import Flyweight.Source.Layout

/- Characters that generated source does not have.

   What a schema brings into the source is names, numbers and literals. A name is written with
   letters, digits, underscores and the mark of a raw identifier; a number with the characters
   of numerals; a literal with those and the few more that name its type. A character that is
   none of these (`notMem_property`, `notMem_toString`, `notMem_literal`) is in no part of the
   source that comes from a schema. -/

namespace Flyweight.Source

theorem notMem_append {c : Char} {s t : String} (front : c ∉ s.toList) (back : c ∉ t.toList) :
    c ∉ (s ++ t).toList := by
  rw [String.toList_append, List.mem_append, not_or]
  exact ⟨front, back⟩

theorem notMem_indentLine {c : Char} {line : String} (level : Nat) (blank : c ≠ ' ')
    (missing : c ∉ line.toList) : c ∉ (Lines.indentLine level line).toList := by
  unfold Lines.indentLine
  split
  · simp
  · rw [String.toList_append, List.mem_append, not_or, String.toList_ofList]
    exact ⟨fun listed => blank (List.eq_of_mem_replicate listed), missing⟩

/-! ## Names -/

theorem notMem_property {c : Char} (foreign : Letters.Foreign c) (other : c ≠ '#') (name : String) :
    c ∉ (Identifier.property name).toList := by
  have letter : c ≠ 'r' := (foreign.differs (by decide)).symm
  exact Identifier.notMem_escape (Words.notMem_snake foreign name)
    (by simp [letter, other, foreign.apart])

/-! ## Numbers -/

/-- The name of a number type is written with three letters and with digits. -/
theorem notMem_rustType {c : Char} (other : c ∉ "fiu123468".toList) (p : Primitive) :
    c ∉ p.rustType.toList := by
  have each : p.rustType.toList ⊆ "fiu123468".toList := by
    cases p <;> decide
  exact fun listed => other (each listed)

theorem notMem_numeric {c : Char} (other : Json.isNumeric c = false) {s : String}
    (h : ∀ c ∈ s.toList, Json.isNumeric c) : c ∉ s.toList := by
  intro listed
  rw [h c listed] at other
  cases other

theorem notMem_toString_nat {c : Char} (other : Json.isNumeric c = false) (n : Nat) :
    c ∉ (toString n).toList := by
  apply notMem_numeric other
  rw [Nat.toString_eq_ofList_toDigits]
  exact Json.numeric_digits fun d listed =>
    Nat.isDigit_of_mem_toDigits (by decide) (by decide) listed

theorem notMem_toString {c : Char} (other : Json.isNumeric c = false) (n : Int) :
    c ∉ (toString n).toList := by
  cases n with
  | ofNat m => exact notMem_toString_nat other m
  | negSucc m =>
    rw [Numeral.toList_toString_negSucc]
    intro listed
    rcases List.mem_cons.mp listed with rfl | digit
    · cases other
    · apply notMem_toString_nat other (m + 1)
      rwa [Nat.toString_eq_ofList_toDigits, String.toList_ofList]

/-! ## Literals -/

/-- The characters of a literal that is no numeral. -/
def literalMarks : List Char := "(1 as fiu23468) ::NAN ::NEG_INFINITY NaN inf".toList

theorem notMem_mark {c : Char} (apart : c ∉ literalMarks) {s : String}
    (inside : s.toList ⊆ literalMarks) : c ∉ s.toList :=
  fun listed => apart (inside listed)

theorem notMem_text {c : Char} (other : Json.isNumeric c = false) (apart : c ∉ literalMarks)
    (k : Constant) : c ∉ k.text.toList := by
  cases k with
  | long v => exact notMem_toString other v.toInt
  | unsignedLong v => exact notMem_toString_nat other v.toNat
  | double x =>
    by_cases finite : x.isFinite = true
    · exact notMem_numeric other (Json.numeric_text (n := Decimal.plain) rfl rfl finite)
    · rw [Constant.text, Decimal.Notation.text, if_neg finite]
      split
      · exact notMem_mark apart (by decide)
      · simp only
        apply notMem_append
        · split
          · exact notMem_numeric other (Json.numeric_mark rfl)
          · simp
        · exact notMem_mark apart (by decide)

theorem notMem_floatLiteral {c : Char} (other : Json.isNumeric c = false) (apart : c ∉ literalMarks)
    (k : Constant) {rustType : String} (type : c ∉ rustType.toList) :
    c ∉ (k.floatLiteral rustType).toList := by
  have suffixed := notMem_append (notMem_text other apart k) type
  unfold Constant.floatLiteral
  split
  · split
    · exact notMem_append type (notMem_mark apart (by decide))
    · split
      · exact suffixed
      · split
        · exact notMem_append type (notMem_mark apart (by decide))
        · exact notMem_append type (notMem_mark apart (by decide))
  · exact suffixed

theorem notMem_literal_constant {c : Char} (other : Json.isNumeric c = false)
    (apart : c ∉ literalMarks) {name literal : String} {p : Primitive} {k : Constant}
    (h : k.literal name p = .ok literal) : c ∉ literal.toList := by
  have text := notMem_text other apart k
  have letters : "fiu123468".toList ⊆ literalMarks := by decide
  have type : c ∉ p.rustType.toList := notMem_rustType (fun listed => apart (letters listed)) p
  have cast_ : c ∉ ("(" ++ k.text ++ " as " ++ p.rustType ++ ")").toList :=
    notMem_append (notMem_append (notMem_append (notMem_append (notMem_mark apart (by decide)) text)
      (notMem_mark apart (by decide))) type) (notMem_mark apart (by decide))
  unfold Constant.literal at h
  split at h
  · obtain rfl := Except.ok.inj h
    cases p with
    | char | int8 | int16 | uint8 | uint16 => exact cast_
    | int32 | uint32 => exact text
    | int64 | uint64 => exact notMem_append text type
    | float | double => exact notMem_floatLiteral other apart k type
  · cases h

theorem notMem_literal {c : Char} (other : Json.isNumeric c = false) (apart : c ∉ literalMarks)
    {t : Token} {literal : String} (h : t.literal = .ok literal) : c ∉ literal.toList := by
  obtain ⟨encoding, -, h⟩ := bind_ok_iff.mp h
  split at h
  · exact notMem_literal_constant other apart h
  · cases h

end Flyweight.Source
