import Flyweight.Proofs.Source.Numeral

/- Literals in integral types are exact.

   The two carriers of a constant overlap: an integer that is not negative and less than 2⁶³ is
   carried signed or unsigned. A literal does not show the carrier. For an integral type this
   file

   1. proves that a constant has a literal exactly if it is an integer of the type, so that none
      carried as a double has one, not even a whole number (`literal_eq_error_iff`);
   2. proves that the literal depends on the integer alone (`literal_congr`), which it denotes
      (`Source.Numeral.read_literal`);
   3. concludes that constants have the same literal in a type exactly if they are the same
      integer (`literal_exact`). -/

namespace Flyweight

open Source (Numeral)

namespace Constant

variable {p : Primitive} {c c' : Constant}

theorem literal_ok_iff (integral : p.isIntegral = true) (name : String) :
    (∃ text, c.literal name p = .ok text) ↔ ∃ n, c.integer? = some n ∧ p.Holds n := by
  rw [← fits_integral_iff integral]
  unfold literal
  split
  · rename_i fits
    exact ⟨fun _ => fits, fun _ => ⟨_, rfl⟩⟩
  · rename_i unfit
    exact ⟨fun given => (nomatch given), fun fits => absurd fits unfit⟩

theorem literal_eq_error_iff (integral : p.isIntegral = true) (name : String) :
    c.literal name p = .error (.invalidConstant name p c) ↔
      ¬ ∃ n, c.integer? = some n ∧ p.Holds n := by
  rw [← fits_integral_iff integral]
  unfold literal
  split
  · rename_i fits
    exact ⟨fun same => (nomatch same), fun unfit => absurd fits unfit⟩
  · rename_i unfit
    exact ⟨fun _ => unfit, fun _ => rfl⟩

/-- The literal of an integer does not depend on its carrier, nor on the token that it is
for. -/
theorem literal_congr {n : Int} (integral : p.isIntegral = true) (h : c.integer? = some n)
    (h' : c'.integer? = some n) (holds : p.Holds n) (name name' : String) :
    c.literal name p = c'.literal name' p := by
  have fits := (fits_integral_iff integral).mpr ⟨n, h, holds⟩
  have fits' := (fits_integral_iff integral).mpr ⟨n, h', holds⟩
  unfold literal
  rw [if_pos fits, if_pos fits', text_of_integer? h, text_of_integer? h']
  cases p with
  | float | double => exact absurd integral (by decide)
  | _ => rfl

/-- In an integral type, a constant has a literal exactly if it is an integer of the type. The
literal names the type, except that of 32 bits, and denotes the integer; and every constant
with the same literal in the type is the same integer, whatever carries it. -/
theorem literal_exact (integral : p.isIntegral = true) (name : String) (c : Constant) :
    ((∃ text, c.literal name p = .ok text) ↔ ∃ n, c.integer? = some n ∧ p.Holds n) ∧
      (∀ x, c = .double x → c.literal name p = .error (.invalidConstant name p c)) ∧
      ∀ text, c.literal name p = .ok text →
        (∃ n numeral, c.integer? = some n ∧ Numeral.read text = some numeral ∧
          numeral.typeName? = (if p = .int32 ∨ p = .uint32 then none else some p.rustType) ∧
          numeral.value? = some n) ∧
        ∀ name' (c' : Constant), c'.literal name' p = .ok text ↔ c'.integer? = c.integer? := by
  refine ⟨literal_ok_iff integral name, ?_, ?_⟩
  · rintro x rfl
    rw [literal_eq_error_iff integral]
    rintro ⟨n, none_, -⟩
    cases none_
  · intro text written
    obtain ⟨n, integer, holds, reads⟩ := Numeral.read_literal integral written
    have denotes := Numeral.value?_ofType holds
    refine ⟨⟨n, Numeral.ofType p n, integer, reads, ?_, denotes⟩, ?_⟩
    · cases p with
      | float | double => exact absurd integral (by decide)
      | _ => rfl
    · intro name' c'
      constructor
      · -- Both constants are what the one text denotes.
        intro written'
        obtain ⟨n', integer', holds', reads'⟩ := Numeral.read_literal integral written'
        have same : Numeral.ofType p n' = Numeral.ofType p n :=
          Option.some.inj (reads'.symm.trans reads)
        have denotes' := Numeral.value?_ofType holds'
        rw [same, denotes] at denotes'
        rw [integer, integer', denotes']
      · intro same
        rw [literal_congr integral (same.trans integer) integer holds name' name, written]

/-- The least integer of 64 bits, and the greatest with either carrier. -/
theorem literal_exact_limits :
    Primitive.int64.isIntegral = true ∧
      (∃ n numeral, (Constant.long Int64.minValue).integer? = some n ∧
        Numeral.read "-9223372036854775808i64" = some numeral ∧
        numeral.typeName? = some "i64" ∧ numeral.value? = some n) ∧
      (Constant.long Int64.maxValue).literal "high" .int64 = .ok "9223372036854775807i64" ∧
      (Constant.unsignedLong 0x7fffffffffffffff).literal "top" .int64 =
        .ok "9223372036854775807i64" ∧
      (Constant.unsignedLong 0x8000000000000000).literal "top" .int64 ≠
        .ok "9223372036854775807i64" := by
  have integral : Primitive.int64.isIntegral = true := rfl
  have least : (Constant.long Int64.minValue).literal "low" .int64 =
      .ok "-9223372036854775808i64" := rfl
  have high : (Constant.long Int64.maxValue).literal "high" .int64 =
      .ok "9223372036854775807i64" := rfl
  obtain ⟨-, -, denotes⟩ := literal_exact integral "low" (.long Int64.minValue)
  obtain ⟨-, -, same⟩ := literal_exact integral "high" (.long Int64.maxValue)
  refine ⟨integral, (denotes _ least).1, high, ?_, ?_⟩
  · exact ((same _ high).2 "top" _).mpr (by decide)
  · exact fun written => absurd (((same _ high).2 "top" _).mp written) (by decide)

end Constant

end Flyweight
