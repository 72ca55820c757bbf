import Flyweight.Proofs.Source.Numeral
import Flyweight.Proofs.Source.Types
import Flyweight.Source.Conversion

/- The codes of a generated enum.

   The two conversions of an enum are made from the same valid values: one answers a
   literal in the type of the valid value's own encoding, the other has the constant as its
   pattern. If these encodings are integral, both denote the constant (`denotes_of_declares`,
   `pattern?_of_declares`). Then

   1. the conversion of a variant answers its code;
   2. the conversion of a code answers the first variant that has it, and refuses a code
      that no variant has.

   Nothing compares the encoding of a valid value with that of the enum, and nothing asks
   that two valid values have different codes (`codes_unchecked`): a variant is what its
   code is converted to exactly if no variant before it has the code. -/

namespace Flyweight.Source

open Grammar

/-! ## Variants of valid values -/

/-- The variant that a valid value declares. -/
structure Declares (t : Token) (v : Variant) : Prop where
  named : v.typeName = Identifier.typeName t.name
  coded : ∃ own, t.encoding = some own ∧ own.constant = some v.code ∧
    v.code.literal t.name own.primitive = .ok v.literal

/-- What is read for a token inside the span of an enum is the variant that it declares. -/
theorem declares_of_ok {context : String} {t : Token} {v : Variant}
    (h : (do
      if t.signal ≠ Signal.validValue then
        throw (SourceError.unexpectedSignal t.signal t.name context)
      let literal ← t.literal
      let code ← t.requireConstant
      return ({ typeName := Identifier.typeName t.name, code, literal } : Variant)) = .ok v) :
    Declares t v := by
  by_cases signal : t.signal = .validValue
  · have carries : t.signal.carriesEncoding = true := by
      rw [signal]
      rfl
    rw [if_neg (not_not_intro signal)] at h
    obtain ⟨literal, written, h⟩ := bind_ok_iff.mp h
    obtain ⟨code, required, h⟩ := bind_ok_iff.mp h
    obtain rfl := Except.ok.inj h
    obtain ⟨own, encoded, constant⟩ := (requireConstant_ok_iff carries).mp required
    rw [Token.literal, (sourceEncoding_ok_iff carries).mpr encoded] at written
    simp only [bind, Except.bind, constant] at written
    exact ⟨rfl, own, encoded, constant, written⟩
  · rw [if_pos signal] at h
    obtain ⟨_, refused, _⟩ := bind_ok_iff.mp h
    cases refused

/-- An enum is read from one span, and has the variants of the valid values inside in the
same order. -/
theorem declares_of_ofTokens {tokens : List Token} {e : Enumeration}
    (h : Enumeration.ofTokens tokens = .ok e) :
    ∃ first inner last encoding, tokens = first :: (inner ++ [last]) ∧
      first.sourceEncoding = .ok encoding ∧ encoding.primitive.isIntegral = true ∧
      e.primitive = encoding.primitive ∧ e.typeName = Identifier.typeName first.name ∧
      List.Forall₂ Declares inner e.variants := by
  rw [Enumeration.ofTokens] at h
  obtain ⟨first, opened, h⟩ := bind_ok_iff.mp h
  obtain ⟨encoding, encoded, h⟩ := bind_ok_iff.mp h
  by_cases integral : encoding.primitive.isIntegral = true
  · rw [if_pos integral] at h
    obtain ⟨inner, inside, h⟩ := bind_ok_iff.mp h
    obtain ⟨variants, found, h⟩ := bind_ok_iff.mp h
    obtain rfl := Except.ok.inj h
    obtain ⟨first', last, rfl, span⟩ := interior_ok_iff.mp inside
    obtain rfl : first' = first := Except.ok.inj opened
    have each : List.Forall₂ Declares inner variants :=
      (mapM_ok_iff.mp found).imp fun _ _ read => declares_of_ok read
    exact ⟨first', inner, last, encoding, rfl, encoded, integral, rfl, rfl, each⟩
  · rw [if_neg integral] at h
    obtain ⟨_, refused, _⟩ := bind_ok_iff.mp h
    cases refused

/-! ## Arms -/

/-- A valid value with an encoding of integers has its constant for a code, and the literal
of its variant denotes the code. -/
theorem denotes_of_declares {t : Token} {v : Variant} (h : Declares t v)
    (integral : ∀ own, t.encoding = some own → own.primitive.isIntegral = true) :
    ∃ n, v.code.integer? = some n ∧ Numeral.valueOf? v.literal = some n := by
  obtain ⟨-, own, encoded, -, written⟩ := h
  obtain ⟨n, integer, -, denotes⟩ := Numeral.literal_denotes (integral own encoded) written
  exact ⟨n, integer, denotes⟩

/-- Such a variant has its code for a pattern. -/
theorem pattern?_of_declares {t : Token} {v : Variant} (h : Declares t v)
    (integral : ∀ own, t.encoding = some own → own.primitive.isIntegral = true) :
    Numeral.pattern? v.code.text = v.code.integer? := by
  obtain ⟨n, integer, -⟩ := denotes_of_declares h integral
  rw [integer, Numeral.pattern?_text integer]

theorem path_injective {v w : Variant} (h : v.path = w.path) : v.typeName = w.typeName := by
  have same := congrArg String.toList h
  simp only [Variant.path, String.toList_append] at same
  exact String.toList_inj.mp (List.append_cancel_left same)

section Arms
variable {e : Enumeration} {earlier later : List Variant} {v : Variant}

/-- A variant is converted by its own arm unless a variant of the same name stands before
it. -/
theorem value?_of_split (split : e.variants = earlier ++ v :: later)
    (first : ∀ w ∈ earlier, w.typeName ≠ v.typeName) :
    e.value? v.path = Numeral.valueOf? v.literal := by
  have found : e.variants.find? (fun w => w.path == v.path) = some v := by
    rw [List.find?_eq_some_iff_append]
    refine ⟨beq_self_eq_true v.path, earlier, later, split, fun w mem => ?_⟩
    have other : w.path ≠ v.path := fun same => first w mem (path_injective same)
    simp [other]
  rw [Enumeration.value?, List.find?_map]
  show ((e.variants.find? fun w => w.path == v.path).map Variant.valueArm).bind _ = _
  rw [found]
  rfl

/-- A code is converted by the first arm with the code for a pattern. -/
theorem get_of_split {n : Int} (split : e.variants = earlier ++ v :: later)
    (matches_ : Numeral.pattern? v.code.text = some n)
    (first : ∀ w ∈ earlier, Numeral.pattern? w.code.text ≠ some n) :
    e.get n = .ok v.path := by
  have found : e.variants.find? (fun w => Numeral.pattern? w.code.text == some n) = some v := by
    rw [List.find?_eq_some_iff_append]
    refine ⟨by simp [matches_], earlier, later, split, fun w mem => ?_⟩
    simp [first w mem]
  have arm : (e.variants.map Variant.codeArm).find?
      (fun a => Numeral.pattern? a.pattern == some n) = some v.codeArm := by
    rw [List.find?_map]
    exact congrArg (Option.map Variant.codeArm) found
  simp only [Enumeration.get, arm]
  rfl

/-- A code that is no arm's pattern is refused. -/
theorem get_of_none {n : Int} (missing : ∀ w ∈ e.variants, Numeral.pattern? w.code.text ≠ some n) :
    e.get n = .error (.unknownCode n e.typeName) := by
  have none_ : (e.variants.map Variant.codeArm).find?
      (fun a => Numeral.pattern? a.pattern == some n) = none := by
    rw [List.find?_map, Option.map_eq_none_iff, List.find?_eq_none]
    intro w mem
    have other := missing w mem
    simpa [Variant.codeArm] using other
  simp only [Enumeration.get, none_]

/-- Some variant is the first with the code, unless none has it. -/
theorem first_or_none (variants : List Variant) (n : Int) :
    (∃ earlier v later, variants = earlier ++ v :: later ∧
      Numeral.pattern? v.code.text = some n ∧
      ∀ w ∈ earlier, Numeral.pattern? w.code.text ≠ some n) ∨
    ∀ w ∈ variants, Numeral.pattern? w.code.text ≠ some n := by
  cases found : variants.find? (fun w => Numeral.pattern? w.code.text == some n) with
  | none =>
    right
    intro w mem same
    exact List.find?_eq_none.mp found w mem (by simp [same])
  | some v =>
    obtain ⟨matches_, earlier, later, split, first⟩ := List.find?_eq_some_iff_append.mp found
    refine .inl ⟨earlier, v, later, split, by simpa using matches_, fun w mem same => ?_⟩
    have other := first w mem
    simp [same] at other

end Arms

/-- The conversion of a code is that of the enumeration. -/
theorem get_ofCoded (ε : Type) [Wire.Enumeration ε] (c : UInt8) :
    (Enumeration.ofCoded ε).get c.toNat =
      (Wire.Enumeration.ofCode ε c).map fun v => "Self::" ++ Wire.Enumeration.label v := by
  have pattern (v : ε) :
      Numeral.pattern? (Constant.unsignedLong (Wire.Enumeration.code v).toUInt64).text =
        some ((Wire.Enumeration.code v).toNat : Int) :=
    Numeral.pattern?_text (by simp [Constant.integer?])
  have same (v : ε) : (some ((Wire.Enumeration.code v).toNat : Int) == some (c.toNat : Int)) =
      (Wire.Enumeration.code v == c) := by
    rw [Bool.eq_iff_iff, beq_iff_eq, beq_iff_eq, Option.some.injEq, Int.ofNat_inj]
    exact UInt8.toNat_inj
  simp only [Enumeration.get, Enumeration.ofCoded, List.map_map, List.find?_map]
  unfold Wire.Enumeration.ofCode
  simp only [Function.comp_def, Variant.codeArm, pattern, same]
  cases (Wire.Enumeration.variants : List ε).find? fun v => Wire.Enumeration.code v == c with
  | none => rfl
  | some v => rfl

/-! ## Both conversions -/

/-- An enum has the variants of its valid values in their order. The constant of each fits
the valid value's own encoding, so it is an integer of the enum's type if that is the type
of the encoding. If all of these encodings are integral, a variant that is the first of its
name is converted to its code, and back to itself exactly if it is the first with the code;
any code is converted to the first variant that has it, and is refused if none has it. -/
theorem codes_of_ofTokens {tokens : List Token} {e : Enumeration}
    (h : Enumeration.ofTokens tokens = .ok e) :
    ∃ first inner last encoding, tokens = first :: (inner ++ [last]) ∧
      first.sourceEncoding = .ok encoding ∧ e.primitive = encoding.primitive ∧
      List.Forall₂ Declares inner e.variants ∧
      (∀ t ∈ inner, ∃ own c, t.encoding = some own ∧ own.constant = some c ∧
        c.fits own.primitive = true ∧
        (own.primitive = e.primitive → ∃ n, c.integer? = some n ∧ e.primitive.Holds n)) ∧
      ((∀ t ∈ inner, ∀ own, t.encoding = some own → own.primitive.isIntegral = true) →
        (∀ earlier v later, e.variants = earlier ++ v :: later →
          (∀ w ∈ earlier, w.typeName ≠ v.typeName) →
          ∃ n, v.code.integer? = some n ∧ e.value? v.path = some n ∧
            (e.get n = .ok v.path ↔ ∀ w ∈ earlier, w.code.integer? ≠ some n)) ∧
        (∀ earlier v later n, e.variants = earlier ++ v :: later → v.code.integer? = some n →
          (∀ w ∈ earlier, w.code.integer? ≠ some n) → e.get n = .ok v.path) ∧
        ∀ n, (∀ v ∈ e.variants, v.code.integer? ≠ some n) →
          e.get n = .error (.unknownCode n e.typeName)) := by
  obtain ⟨first, inner, last, encoding, shape, encoded, whole, type, -, each⟩ :=
    declares_of_ofTokens h
  refine ⟨first, inner, last, encoding, shape, encoded, type, each, ?_, ?_⟩
  · intro t mem
    obtain ⟨v, -, -, own, known, constant, written⟩ := mem_of_forall₂ each.flip mem
    have fits := accepts_constantLiteral_iff.mp ⟨v.literal, written⟩
    refine ⟨own, v.code, known, constant, fits, fun same => ?_⟩
    rw [same] at fits
    exact (Constant.fits_integral_iff (type ▸ whole)).mp fits
  · intro integral
    have pattern (v) (mem : v ∈ e.variants) :
        Numeral.pattern? v.code.text = v.code.integer? := by
      obtain ⟨t, inside, declares⟩ := mem_of_forall₂ each mem
      exact pattern?_of_declares declares (integral t inside)
    have get_first (earlier : List Variant) (v : Variant) (later : List Variant) (n : Int)
        (split : e.variants = earlier ++ v :: later)
        (code : v.code.integer? = some n) (none_ : ∀ w ∈ earlier, w.code.integer? ≠ some n) :
        e.get n = .ok v.path := by
      have mem : v ∈ e.variants := by simp [split]
      refine get_of_split split ((pattern v mem).trans code) fun w before => ?_
      rw [pattern w (by simp [split, before])]
      exact none_ w before
    refine ⟨?_, get_first, ?_⟩
    · intro earlier v later split named
      obtain ⟨t, inside, declares⟩ := mem_of_forall₂ each (b := v) (by simp [split])
      obtain ⟨n, code, denotes⟩ := denotes_of_declares declares (integral t inside)
      refine ⟨n, code, (value?_of_split split named).trans denotes, fun back => ?_,
        get_first earlier v later n split code⟩
      rcases first_or_none earlier n with ⟨front, u, behind, rfl, found, none_⟩ | none_
      · -- A variant before it has the code, and its name is another.
        have regrouped : e.variants = front ++ u :: (behind ++ v :: later) := by simp [split]
        rw [get_of_split regrouped found none_] at back
        exact absurd (path_injective (Except.ok.inj back)) (named u (by simp))
      · intro w before
        rw [← pattern w (by simp [split, before])]
        exact none_ w before
    · intro n missing
      refine get_of_none fun w mem => ?_
      rw [pattern w mem]
      exact missing w mem

/-- An enum of characters with three valid values, of which the third repeats the code of
the first. -/
theorem codes_of_ofTokens_models :
    let value (name : String) (code : Int64) : Token :=
      { signal := .validValue, name,
        encoding := some { primitive := .char, constant := some (.long code) } }
    ∃ e, Enumeration.ofTokens
        [{ signal := .beginEnum, name := "model", encoding := some { primitive := .char } },
          value "A" 65, value "B" 66, value "C" 65, { signal := .endEnum, name := "model" }] =
        .ok e ∧
      e.get 66 = .ok "Self::B" ∧ e.value? "Self::C" = some 65 ∧ e.get 65 ≠ .ok "Self::C" ∧
      e.get 67 = .error (.unknownCode 67 "Model") := by
  intro value
  let e : Enumeration := ⟨"Model", .char, [⟨"A", .long 65, "(65 as u8)"⟩,
    ⟨"B", .long 66, "(66 as u8)"⟩, ⟨"C", .long 65, "(65 as u8)"⟩]⟩
  have found : Enumeration.ofTokens
      [{ signal := .beginEnum, name := "model", encoding := some { primitive := .char } },
        value "A" 65, value "B" 66, value "C" 65, { signal := .endEnum, name := "model" }] =
      .ok e := by
    decide +kernel
  obtain ⟨first, inner, last, _, shape, -, -, -, -, codes⟩ := codes_of_ofTokens found
  have inside : inner = [value "A" 65, value "B" 66, value "C" 65] := by
    have dropped := congrArg (fun l => l.tail.dropLast) shape
    simpa using dropped.symm
  have integral : ∀ t ∈ inner, ∀ own, t.encoding = some own →
      own.primitive.isIntegral = true := by
    rw [inside]
    intro t mem own known
    simp only [List.mem_cons, List.not_mem_nil, or_false] at mem
    rcases mem with rfl | rfl | rfl
    all_goals
      obtain rfl := Option.some.inj known
      rfl
  obtain ⟨back, first_, refused⟩ := codes integral
  let a : Variant := ⟨"A", .long 65, "(65 as u8)"⟩
  let b : Variant := ⟨"B", .long 66, "(66 as u8)"⟩
  let c : Variant := ⟨"C", .long 65, "(65 as u8)"⟩
  obtain ⟨n, code, converted, again⟩ := back [a, b] c [] rfl (by decide)
  obtain rfl : 65 = n := Option.some.inj code
  refine ⟨e, found, first_ [a] b [c] 66 rfl rfl (by decide), converted, fun same => ?_,
    refused 67 (by decide)⟩
  exact again.mp same a List.mem_cons_self rfl

/-- An enum of characters is read although a code, given with an encoding of its own, is no
character; and so is one of which two variants have the same code, so that the second is
not converted back. -/
theorem codes_unchecked :
    let opening : Token :=
      { signal := .beginEnum, name := "model", encoding := some { primitive := .char } }
    let closing : Token := { signal := .endEnum, name := "model" }
    let value (name : String) (primitive : Primitive) (code : Int64) : Token :=
      { signal := .validValue, name,
        encoding := some { primitive, constant := some (.long code) } }
    (∃ e, Enumeration.ofTokens [opening, value "A" .char 65, value "B" .uint16 300, closing] =
        .ok e ∧ e.primitive = .char ∧
      ∃ v ∈ e.variants, v.code.integer? = some 300 ∧ ¬ e.primitive.Holds 300) ∧
    ∃ e, Enumeration.ofTokens [opening, value "A" .char 65, value "B" .char 65, closing] = .ok e ∧
      ∃ v ∈ e.variants, ∃ n, e.value? v.path = some n ∧ e.get n ≠ .ok v.path := by
  intro opening closing value
  refine ⟨⟨⟨"Model", .char, [⟨"A", .long 65, "(65 as u8)"⟩, ⟨"B", .long 300, "(300 as u16)"⟩]⟩,
    by decide +kernel, rfl, _, List.mem_cons_of_mem _ List.mem_cons_self, rfl, ?_⟩,
    ⟨"Model", .char, [⟨"A", .long 65, "(65 as u8)"⟩, ⟨"B", .long 65, "(65 as u8)"⟩]⟩,
    by decide +kernel, _, List.mem_cons_of_mem _ List.mem_cons_self, 65, by decide +kernel,
    by decide +kernel⟩
  rw [Primitive.holds_iff .char (rfl : Primitive.char.range? = some (0, 0xff))]
  omega

end Flyweight.Source
