import Flyweight.Proofs.Source.Grammar
import Flyweight.Source.Groups

/- Which token lists source can be generated from.

   The walkers over fields, variable-length data and groups each read a part of the list
   and go on behind it. For each there is a lemma that says what it asks of the first part
   and what it leaves to the next step; the grammar is then found by induction, on the
   length of the list in the one direction and on the derivation in the other. -/

namespace Flyweight

/-- The computation has a result. -/
def Accepts (x : Except ε α) : Prop := ∃ a, x = .ok a

theorem accepts_ok (a : α) : Accepts (.ok a : Except ε α) := ⟨a, rfl⟩

theorem accepts_pure (a : α) : Accepts (pure a : Except ε α) := ⟨a, rfl⟩

theorem not_accepts_error (e : ε) : ¬ Accepts (.error e : Except ε α) :=
  fun ⟨_, h⟩ => nomatch h

theorem not_accepts_throw (e : ε) : ¬ Accepts (throw e : Except ε α) :=
  fun ⟨_, h⟩ => nomatch h

/-- A sequence has a result when its first part has one with which the rest has one. -/
theorem accepts_bind_iff {x : Except ε α} {f : α → Except ε β} :
    Accepts (x >>= f) ↔ ∃ a, x = .ok a ∧ Accepts (f a) := by
  cases x with
  | error e => exact ⟨fun ⟨_, h⟩ => (nomatch h), fun ⟨_, h, _⟩ => nomatch h⟩
  | ok a =>
    constructor
    · intro h
      exact ⟨a, rfl, h⟩
    · intro given
      obtain ⟨b, h, accepted⟩ := given
      obtain rfl := Except.ok.inj h
      exact accepted

/-- The result of a sequence is that of its rest. -/
theorem bind_ok_iff {x : Except ε α} {f : α → Except ε β} {b : β} :
    x >>= f = .ok b ↔ ∃ a, x = .ok a ∧ f a = .ok b := by
  cases x with
  | error e => exact ⟨fun h => (nomatch h), fun ⟨_, h, _⟩ => nomatch h⟩
  | ok a =>
    constructor
    · intro h
      exact ⟨a, rfl, h⟩
    · intro given
      obtain ⟨a', h, rest⟩ := given
      obtain rfl := Except.ok.inj h
      exact rest

theorem map_ok_iff {x : Except ε α} {f : α → β} {b : β} :
    x.map f = .ok b ↔ ∃ a, x = .ok a ∧ f a = b := by
  cases x with
  | error e => exact ⟨fun h => (nomatch h), fun ⟨_, h, _⟩ => nomatch h⟩
  | ok a => simp [Except.map]

/-- A result that is known by something computed from it. -/
theorem ok_of_map_toOption {x : Except ε α} {f : α → β} {b : β} (h : x.toOption.map f = some b) :
    ∃ a, x = .ok a ∧ f a = b := by
  cases x with
  | error e => cases h
  | ok a => exact ⟨a, rfl, Option.some.inj h⟩

theorem accepts_map_iff {x : Except ε α} {f : α → β} : Accepts (x.map f) ↔ Accepts x := by
  cases x with
  | error e => exact ⟨fun ⟨_, h⟩ => (nomatch h), fun ⟨_, h⟩ => nomatch h⟩
  | ok a => exact ⟨fun _ => ⟨a, rfl⟩, fun _ => ⟨f a, rfl⟩⟩

theorem mapError_ok_iff {x : Except ε α} {f : ε → ε'} {a : α} :
    x.mapError f = .ok a ↔ x = .ok a := by
  cases x with
  | error e => exact ⟨fun h => (nomatch h), fun h => nomatch h⟩
  | ok b =>
    constructor
    all_goals exact fun h => congrArg Except.ok (Except.ok.inj h)

namespace Source

open Grammar

/-! ## Encodings -/

theorem sourceEncoding_ok_iff {t : Token} (carries : t.signal.carriesEncoding = true)
    {e : Encoding} : t.sourceEncoding = .ok e ↔ t.encoding = some e := by
  rw [Token.sourceEncoding, mapError_ok_iff, Token.requireEncoding, if_pos carries]
  cases t.encoding with
  | none => exact ⟨fun h => (nomatch h), fun h => nomatch h⟩
  | some e' =>
    constructor
    · intro h
      exact congrArg some (Except.ok.inj h)
    · intro h
      exact congrArg Except.ok (Option.some.inj h)

/-- A constant has a literal in the primitive types that it fits. -/
theorem accepts_constantLiteral_iff {name : String} {p : Primitive} {c : Constant} :
    Accepts (c.literal name p) ↔ c.fits p = true := by
  unfold Constant.literal
  split
  · rename_i fits
    exact ⟨fun _ => fits, fun _ => accepts_ok _⟩
  · rename_i misfit
    exact ⟨fun h => absurd h (not_accepts_error _), fun fits => absurd fits misfit⟩

theorem accepts_literal_iff {t : Token} {e : Encoding} (encoded : t.sourceEncoding = .ok e) :
    Accepts t.literal ↔ ∃ c, e.constant = some c ∧ c.fits e.primitive = true := by
  rw [Token.literal, accepts_bind_iff]
  constructor
  · intro given
    obtain ⟨e', encoded', accepted⟩ := given
    obtain rfl := Except.ok.inj (encoded.symm.trans encoded')
    cases constant : e.constant with
    | none =>
      rw [constant] at accepted
      exact absurd accepted (not_accepts_error _)
    | some c =>
      rw [constant] at accepted
      exact ⟨c, rfl, accepts_constantLiteral_iff.mp accepted⟩
  · intro given
    obtain ⟨c, constant, fits⟩ := given
    refine ⟨e, encoded, ?_⟩
    rw [constant]
    exact accepts_constantLiteral_iff.mpr fits

/-! ## Type elements -/

/-- What a type element asks of its first token. -/
def Typed (first : Token) : Prop :=
  (first.signal = .encoding ∧ ∃ e, first.encoding = some e ∧
    (e.presence = .constant → ∃ c, e.constant = some c ∧ c.fits e.primitive = true)) ∨
  (first.signal = .beginEnum ∧ first.encoding.isSome = true) ∨
  first.signal = .beginSet ∨ first.signal = .beginComposite

/-- A type element is an element whose first token is as asked. -/
theorem typeElement_iff {tokens : List Token} :
    TypeElement tokens ↔
      ∃ first more, tokens = first :: more ∧ IsElement first more ∧ Typed first := by
  constructor
  · intro h
    cases h with
    | @encoding t e signal encoded fixed =>
      exact ⟨t, [], rfl, .single (by rw [signal]; rfl), .inl ⟨signal, e, encoded, fixed⟩⟩
    | enumeration signal encoded span =>
      exact ⟨_, _, rfl, .span span, .inr (.inl ⟨signal, encoded⟩)⟩
    | nested signal span => exact ⟨_, _, rfl, .span span, .inr (.inr signal)⟩
  · intro given
    obtain ⟨first, more, rfl, element, typed⟩ := given
    -- Whether the first token opens a span decides how far the element goes.
    rcases typed with ⟨signal, e, encoded, fixed⟩ | ⟨signal, encoded⟩ | signal
    · cases element with
      | single _ => exact .encoding signal encoded fixed
      | span span =>
        have closing := span.closing
        rw [signal] at closing
        exact nomatch closing
    · cases element with
      | single opens =>
        rw [signal] at opens
        exact nomatch opens
      | span span => exact .enumeration signal encoded span
    · cases element with
      | single opens => rcases signal with signal | signal <;> rw [signal] at opens <;> exact nomatch opens
      | span span => exact .nested signal span

theorem accepts_ofEncoding_iff {name base : String} {t : Token} (signal : t.signal = .encoding) :
    Accepts (Member.ofEncoding name t base) ↔ ∃ e, t.encoding = some e ∧
      (e.presence = .constant → ∃ c, e.constant = some c ∧ c.fits e.primitive = true) := by
  have carries : t.signal.carriesEncoding = true := by
    rw [signal]
    rfl
  rw [Member.ofEncoding, accepts_bind_iff]
  refine exists_congr fun e => ?_
  rw [sourceEncoding_ok_iff carries]
  refine and_congr_right fun encoded => ?_
  have known := (sourceEncoding_ok_iff carries).mpr encoded
  by_cases fixed : e.presence = .constant
  · rw [if_pos fixed, accepts_bind_iff]
    constructor
    · intro given _
      obtain ⟨text, literal, _⟩ := given
      exact (accepts_literal_iff known).mp ⟨text, literal⟩
    · intro fits
      obtain ⟨text, literal⟩ := (accepts_literal_iff known).mpr (fits fixed)
      exact ⟨text, literal, accepts_ok _⟩
  · rw [if_neg fixed]
    refine ⟨fun _ constant => absurd constant fixed, fun _ => ?_⟩
    -- However long the array is, there are members for it.
    split
    all_goals exact accepts_ok _

theorem accepts_ofEnum_iff {name base : String} {first : Token} (signal : first.signal = .beginEnum) :
    Accepts (Member.ofEnum name first base) ↔ first.encoding.isSome = true := by
  have carries : first.signal.carriesEncoding = true := by
    rw [signal]
    rfl
  rw [Member.ofEnum, accepts_bind_iff, Option.isSome_iff_exists]
  refine exists_congr fun e => ?_
  rw [sourceEncoding_ok_iff carries]
  exact ⟨fun h => h.1, fun h => ⟨h, accepts_ok _⟩⟩

theorem accepts_ofElement_iff {name base context : String} {first : Token} :
    Accepts (Member.ofElement name first base context) ↔ Typed first := by
  unfold Member.ofElement Typed
  split
  · rename_i signal
    rw [accepts_ofEncoding_iff signal]
    simp only [signal, true_and, reduceCtorEq, false_and, or_false]
  · rename_i signal
    rw [accepts_map_iff, accepts_ofEnum_iff signal]
    simp only [signal, true_and, reduceCtorEq, false_and, or_false, false_or]
  · rename_i signal
    exact ⟨fun _ => .inr (.inr (.inl signal)), fun _ => accepts_ok _⟩
  · rename_i signal
    exact ⟨fun _ => .inr (.inr (.inr signal)), fun _ => accepts_ok _⟩
  · rename_i encoding enumeration set composite
    refine ⟨fun h => absurd h (not_accepts_error _), ?_⟩
    intro given
    rcases given with ⟨signal, _⟩ | ⟨signal, _⟩ | signal | signal
    · exact absurd signal encoding
    · exact absurd signal enumeration
    · exact absurd signal set
    · exact absurd signal composite

/-! ## Fields -/

/-- A field token, the element behind it, and the fields behind that. -/
theorem accepts_ofFieldsFrom_cons {context : String} {index : Nat} {field first : Token}
    {rest : List Token} :
    Accepts (Member.ofFieldsFrom context index (field :: first :: rest)) ↔
      field.signal = .beginField ∧ ∃ more tail, rest = more ++ tail ∧ IsElement first more ∧
        Typed first ∧ Accepts (Member.ofFieldsFrom context (index + more.length + 2) tail) := by
  rw [Member.ofFieldsFrom]
  by_cases signal : field.signal = .beginField
  · rw [if_pos signal]
    simp only [signal, true_and, accepts_bind_iff, mapError_ok_iff, Span.elementLengthAfter_ok_iff]
    constructor
    · intro given
      obtain ⟨count, ⟨more, tail, rfl, element, rfl⟩, members, typed, others, accepted, _⟩ := given
      rw [List.drop_left] at accepted
      exact ⟨more, tail, rfl, element, accepts_ofElement_iff.mp ⟨members, typed⟩, others, accepted⟩
    · intro given
      obtain ⟨more, tail, rfl, element, typed, others, accepted⟩ := given
      obtain ⟨members, found⟩ := accepts_ofElement_iff.mpr typed
      refine ⟨more.length, ⟨more, tail, rfl, element, rfl⟩, members, found, others, ?_, accepts_ok _⟩
      rwa [List.drop_left]
  · rw [if_neg signal]
    exact ⟨fun h => absurd h (not_accepts_error _), fun h => absurd h.1 signal⟩

theorem accepts_ofFieldsFrom {context : String} {index : Nat} {tokens : List Token}
    (h : Many Field tokens) : Accepts (Member.ofFieldsFrom context index tokens) := by
  induction h generalizing index with
  | nil =>
    rw [Member.ofFieldsFrom]
    exact accepts_ok _
  | cons first _ ih =>
    cases first with
    | mk signal type _ =>
      obtain ⟨first, more, rfl, element, typed⟩ := typeElement_iff.mp type
      exact accepts_ofFieldsFrom_cons.mpr ⟨signal, more, _, rfl, element, typed, ih⟩

/-- Where no group and no variable-length data starts, what is accepted are fields. -/
theorem fields_of_accepts {context : String} {index : Nat} {tokens : List Token}
    (flat : ∀ t ∈ tokens, t.signal ≠ .beginGroup ∧ t.signal ≠ .beginVarData)
    (h : Accepts (Member.ofFieldsFrom context index tokens)) : Many Field tokens := by
  induction size : tokens.length using Nat.strongRecOn generalizing index tokens with
  | ind length ih =>
    match tokens with
    | [] => exact .nil
    | [field] =>
      rw [Member.ofFieldsFrom] at h
      split at h
      · exact absurd h (not_accepts_error _)
      · exact absurd h (not_accepts_error _)
    | field :: first :: rest =>
      obtain ⟨signal, more, tail, rfl, element, typed, accepted⟩ := accepts_ofFieldsFrom_cons.mp h
      -- The walker goes on behind the element, so the induction is on the length.
      have shorter : tail.length < length := by
        simp only [List.length_cons, List.length_append] at size
        omega
      have others := ih _ shorter
        (fun t mem => flat t (by simp [mem])) accepted rfl
      have front : Field (field :: first :: more) :=
        .mk signal (typeElement_iff.mpr ⟨first, more, rfl, element, typed⟩)
          fun t mem => flat t (by
            rw [← List.cons_append, ← List.cons_append]
            exact List.mem_append_left tail (List.mem_cons_of_mem field mem))
      exact .cons front others

/-! ## Headers -/

/-- A list is put between two tokens in one way. -/
theorem enclosed_inj {first first' last last' : Token} {inner inner' : List Token}
    (h : first :: (inner ++ [last]) = first' :: (inner' ++ [last'])) :
    first = first' ∧ inner = inner' ∧ last = last' := by
  obtain ⟨same, tail⟩ := List.cons.inj h
  obtain ⟨front, back⟩ := List.append_inj' tail rfl
  exact ⟨same, front, List.singleton_inj.mp back⟩

theorem interior_ok_iff {tokens inner : List Token} :
    interior tokens = .ok inner ↔
      ∃ first last, tokens = first :: (inner ++ [last]) ∧ IsSpan first inner last := by
  rw [interior, mapError_ok_iff, Span.interior_ok_iff]

/-- A span is split into a header, which is the span of a composite, and the rest. -/
theorem headedSpan_ok_iff {context : String} {tokens : List Token} {h : HeadedSpan} :
    HeadedSpan.ofTokens context tokens = .ok h ↔
      ∃ first close last,
        tokens = first :: (h.header :: (h.headerBody ++ close :: h.rest) ++ [last]) ∧
          IsSpan first (h.header :: (h.headerBody ++ close :: h.rest)) last ∧
          h.header.signal = .beginComposite ∧ IsSpan h.header h.headerBody close := by
  constructor
  · intro split_
    unfold HeadedSpan.ofTokens at split_
    split at split_
    · cases split_
    · rename_i inner inside
      obtain ⟨first, last, rfl, span⟩ := interior_ok_iff.mp inside
      cases inner with
      | nil => cases split_
      | cons header rest =>
        simp only [HeadedSpan.ofInterior] at split_
        split at split_
        · rename_i signal
          split at split_
          · cases split_
          · rename_i count counted
            obtain ⟨body, close, tail, rfl, composite, rfl⟩ := Span.lengthAfter_ok_iff.mp counted
            obtain rfl := Except.ok.inj split_
            simp only [Nat.add_sub_cancel, List.take_left, Span.drop_span]
            exact ⟨first, close, last, rfl, span, signal, composite⟩
        · cases split_
  · intro given
    obtain ⟨first, close, last, rfl, span, signal, composite⟩ := given
    have inside : interior
        (first :: (h.header :: (h.headerBody ++ close :: h.rest) ++ [last])) =
          .ok (h.header :: (h.headerBody ++ close :: h.rest)) :=
      interior_ok_iff.mpr ⟨first, last, rfl, span⟩
    have counted : Span.lengthAfter 0 h.header (h.headerBody ++ close :: h.rest) =
        .ok (h.headerBody.length + 1) :=
      Span.lengthAfter_ok_iff.mpr ⟨_, close, _, rfl, composite, rfl⟩
    rw [HeadedSpan.ofTokens, inside]
    simp only [HeadedSpan.ofInterior, if_pos signal, counted, Nat.add_sub_cancel, List.take_left,
      Span.drop_span]

theorem member_ok_iff {h : HeadedSpan} {context name : String} {t : Token} :
    h.member context name = .ok t ↔
      (h.headerBody.find? fun t => t.signal == .encoding && t.name == name) = some t := by
  unfold HeadedSpan.member
  split
  · rename_i t' found
    rw [found]
    exact ⟨fun same => congrArg some (Except.ok.inj same),
      fun same => congrArg Except.ok (Option.some.inj same)⟩
  · rename_i missing
    rw [missing]
    exact ⟨fun same => (nomatch same), fun same => nomatch same⟩

/-- The members of a header are encoding tokens, so an encoding can be asked of them. -/
theorem encoded_of_member {h : HeadedSpan} {context name : String} {t : Token}
    (found : h.member context name = .ok t) {e : Encoding} :
    t.sourceEncoding = .ok e ↔ t.encoding = some e := by
  refine sourceEncoding_ok_iff ?_
  have named := List.find?_some (member_ok_iff.mp found)
  rw [Bool.and_eq_true, beq_iff_eq] at named
  rw [named.1]
  rfl

theorem accepts_integralType_iff {t : Token} {usage : String} :
    Accepts (integralType t usage) ↔ ∃ e, t.sourceEncoding = .ok e ∧ Integral e := by
  rw [integralType, accepts_bind_iff]
  refine exists_congr fun e => and_congr_right fun _ => ?_
  split
  · rename_i integral
    exact ⟨fun _ => integral, fun _ => accepts_ok _⟩
  · rename_i other
    exact ⟨fun h => absurd h (not_accepts_throw _), fun integral => absurd integral other⟩

/-- What the grammar asks of a header is what its members are looked up for. -/
theorem hasMember_iff {h : HeadedSpan} (context : String) {name : String} {required : Encoding → Prop} :
    HasMember name required h.headerBody ↔
      ∃ t e, h.member context name = .ok t ∧ t.sourceEncoding = .ok e ∧ required e := by
  constructor
  · intro given
    obtain ⟨t, e, found, encoded, holds⟩ := given
    have there : h.member context name = .ok t := member_ok_iff.mpr found
    exact ⟨t, e, there, (encoded_of_member there).mpr encoded, holds⟩
  · intro given
    obtain ⟨t, e, there, encoded, holds⟩ := given
    exact ⟨t, e, member_ok_iff.mp there, (encoded_of_member there).mp encoded, holds⟩

/-! ## Variable-length data -/

theorem accepts_ofVarDataSpan_iff {owner : Owner} {name : String} {tokens : List Token} :
    Accepts (Member.ofVarDataSpan owner name tokens) ↔
      ∃ h, HeadedSpan.ofTokens s!"var data '{name}'" tokens = .ok h ∧ h.rest = [] ∧
        LengthAndData h.headerBody := by
  rw [Member.ofVarDataSpan, accepts_bind_iff]
  refine exists_congr fun h => and_congr_right fun _ => ?_
  cases rest : h.rest with
  | cons t others => exact ⟨fun ⟨_, refused⟩ => (nomatch refused), fun ⟨empty, _⟩ => nomatch empty⟩
  | nil =>
    have integral := @hasMember_iff h s!"var data '{name}'" "length" Integral
    have oneByte := @hasMember_iff h s!"var data '{name}'" "varData" OneByte
    rw [LengthAndData, integral, oneByte]
    -- The payload is looked at before the length, but which comes first changes no outcome.
    constructor
    · intro accepted
      obtain ⟨length, found, accepted⟩ := accepts_bind_iff.mp accepted
      obtain ⟨data, found', accepted⟩ := accepts_bind_iff.mp accepted
      obtain ⟨payload, encoded, accepted⟩ := accepts_bind_iff.mp accepted
      by_cases one : payload.primitive.size = 1
      · rw [if_neg (not_not_intro one)] at accepted
        obtain ⟨e, typed, _⟩ := accepts_bind_iff.mp accepted
        obtain ⟨e, encoded', holds⟩ := accepts_integralType_iff.mp ⟨e, typed⟩
        exact ⟨rfl, ⟨length, e, found, encoded', holds⟩, data, payload, found', encoded, one⟩
      · rw [if_pos one] at accepted
        exact absurd accepted fun ⟨_, refused⟩ => nomatch refused
    · intro given
      obtain ⟨_, ⟨length, e, found, encoded', holds⟩, data, payload, found', encoded, one⟩ := given
      obtain ⟨e, typed⟩ := accepts_integralType_iff.mpr ⟨e, encoded', holds⟩
      refine accepts_bind_iff.mpr ⟨length, found, accepts_bind_iff.mpr ⟨data, found', ?_⟩⟩
      refine accepts_bind_iff.mpr ⟨payload, encoded, ?_⟩
      have size : payload.primitive.size = 1 := one
      rw [if_neg (not_not_intro size)]
      exact accepts_bind_iff.mpr ⟨e, typed, accepts_pure _⟩

/-- What accessors for variable-length data are found for is derived. -/
theorem varData_of_accepts {owner : Owner} {name : String} {first : Token} {more : List Token}
    (opens : first.signal = .beginVarData)
    (h : Accepts (Member.ofVarDataSpan owner name (first :: more))) : VarData (first :: more) := by
  obtain ⟨headed, split_, alone, members⟩ := accepts_ofVarDataSpan_iff.mp h
  obtain ⟨first', close, last, shape, span, signal, composite⟩ := headedSpan_ok_iff.mp split_
  rw [alone] at shape span
  obtain ⟨rfl, rfl⟩ := List.cons.inj shape
  have closing := span.closing
  rw [opens] at closing
  exact .mk opens (.mk signal composite members) (Option.some.inj closing).symm

theorem accepts_ofVarDataSpan {owner : Owner} {name : String} {tokens : List Token}
    (h : VarData tokens) : Accepts (Member.ofVarDataSpan owner name tokens) := by
  cases h with
  | @mk first last header opens headed closes =>
    have span : IsSpan first header last := ⟨by rw [opens, closes]; rfl, headed.wellNested⟩
    cases headed with
    | @mk header close inner signal composite members =>
      refine accepts_ofVarDataSpan_iff.mpr ⟨⟨header, inner, []⟩, ?_, rfl, members⟩
      exact headedSpan_ok_iff.mpr ⟨first, close, last, rfl, span, signal, composite⟩

/-- A span of variable-length data, and the data behind it. -/
theorem accepts_ofVarDataFrom_cons {owner : Owner} {index : Nat} {first : Token}
    {rest : List Token} :
    Accepts (Member.ofVarDataFrom owner index (first :: rest)) ↔
      first.signal = .beginVarData ∧ ∃ inner last tail, rest = inner ++ last :: tail ∧
        IsSpan first inner last ∧
        Accepts (Member.ofVarDataSpan owner first.name (first :: (inner ++ [last]))) ∧
        Accepts (Member.ofVarDataFrom owner (index + (inner.length + 1) + 1) tail) := by
  rw [Member.ofVarDataFrom]
  by_cases signal : first.signal = .beginVarData
  · rw [if_pos signal]
    simp only [signal, true_and, accepts_bind_iff, mapError_ok_iff, Span.lengthAfter_ok_iff]
    constructor
    · intro given
      obtain ⟨count, ⟨inner, last, tail, rfl, span, rfl⟩, member, found, others, accepted, _⟩ := given
      rw [Span.take_span] at found
      rw [Span.drop_span] at accepted
      exact ⟨inner, last, tail, rfl, span, ⟨member, found⟩, others, accepted⟩
    · intro given
      obtain ⟨inner, last, tail, rfl, span, ⟨member, found⟩, others, accepted⟩ := given
      refine ⟨_, ⟨inner, last, tail, rfl, span, rfl⟩, member, ?_, others, ?_, accepts_pure _⟩
      · rwa [Span.take_span]
      · rwa [Span.drop_span]
  · rw [if_neg signal]
    exact ⟨fun h => absurd h (not_accepts_error _), fun h => absurd h.1 signal⟩

theorem accepts_ofVarDataFrom {owner : Owner} {index : Nat} {tokens : List Token}
    (h : Many VarData tokens) : Accepts (Member.ofVarDataFrom owner index tokens) := by
  induction h generalizing index with
  | nil =>
    rw [Member.ofVarDataFrom]
    exact accepts_ok _
  | @cons front rest data _ ih =>
    have read := @accepts_ofVarDataSpan owner
    obtain ⟨first, inner, last, rfl, opens, span⟩ := data.isSpan
    refine accepts_ofVarDataFrom_cons.mpr ⟨opens, inner, last, rest, ?_, span, read data, ih⟩
    exact List.append_assoc inner [last] rest

theorem varData_of_acceptsFrom {owner : Owner} {index : Nat} {tokens : List Token}
    (h : Accepts (Member.ofVarDataFrom owner index tokens)) : Many VarData tokens := by
  induction size : tokens.length using Nat.strongRecOn generalizing index tokens with
  | ind length ih =>
    cases tokens with
    | nil => exact .nil
    | cons first rest =>
      obtain ⟨opens, inner, last, tail, rfl, span, read, accepted⟩ :=
        accepts_ofVarDataFrom_cons.mp h
      have shorter : tail.length < length := by
        simp only [List.length_cons, List.length_append] at size
        omega
      have shape : first :: (inner ++ last :: tail) = first :: (inner ++ [last]) ++ tail := by
        rw [List.cons_append, List.append_assoc, List.singleton_append]
      rw [shape]
      exact .cons (varData_of_accepts opens read) (ih _ shorter accepted rfl)

/-! ## Groups and bodies -/

/-- Members are found for every section of the body. -/
def AcceptsBody (owner : Owner) (context : String) (tokens : List Token) : Prop :=
  ∃ b, Body.ofTokens tokens = .ok b ∧ Accepts (Member.ofFields context b.fields) ∧
    Accepts (GroupCode.ofTokens owner b.groups) ∧ Accepts (Member.ofVarData owner b.varData)

theorem groupSpan_ok_iff {first : Token} {rest : List Token} {g : GroupSpan} :
    GroupSpan.ofTokens first rest = .ok g ↔
      ∃ h, HeadedSpan.ofTokens (GroupSpan.context first.name) (first :: rest) = .ok h ∧
        h.member (GroupSpan.context first.name) "blockLength" = .ok g.blockLength ∧
        h.member (GroupSpan.context first.name) "numInGroup" = .ok g.count ∧
        Body.ofTokens h.rest = .ok g.body ∧
        g = ⟨first.name, first.size.toNat, h.header, g.blockLength, g.count, g.body⟩ := by
  unfold GroupSpan.ofTokens
  constructor
  · intro read
    split at read
    · exact nomatch read
    · rename_i h split_
      split at read
      · exact nomatch read
      · rename_i blockLength found
        split at read
        · exact nomatch read
        · rename_i count found'
          split at read
          · exact nomatch read
          · rename_i body cut
            obtain rfl := Except.ok.inj read
            exact ⟨h, split_, found, found', cut, rfl⟩
  · intro given
    obtain ⟨h, split_, found, found', cut, shape⟩ := given
    simp only [split_, found, found', cut]
    exact congrArg Except.ok shape.symm

/-- One step of the reader of groups: a span, for which the owner has one accessor, with the
cursor of the span and those of the groups inside; and the rest. -/
theorem ofTokensFrom_cons_ok {owner : Owner} {index : Nat} {first : Token} {rest : List Token}
    {code : GroupCode} (h : GroupCode.ofTokensFrom owner index (first :: rest) = .ok code) :
    ∃ inner last tail g fields nested varData cursor others, rest = inner ++ last :: tail ∧
      first.signal = .beginGroup ∧ IsSpan first inner last ∧
      GroupSpan.ofTokens first (inner ++ [last]) = .ok g ∧
      Member.ofFields (GroupSpan.context first.name) g.body.fields = .ok fields ∧
      GroupCode.ofTokens ⟨.group, owner.groupType first.name⟩ g.body.groups = .ok nested ∧
      Member.ofVarData ⟨.group, owner.groupType first.name⟩ g.body.varData = .ok varData ∧
      GroupCursor.ofSpan (owner.groupType first.name) g (fields ++ nested.members ++ varData) =
        .ok cursor ∧
      GroupCode.ofTokensFrom owner (index + (inner.length + 1) + 1) tail = .ok others ∧
      code = ⟨.group first.name owner (owner.groupType first.name) :: others.members,
        cursor :: nested.cursors ++ others.cursors⟩ := by
  rw [GroupCode.ofTokensFrom] at h
  split at h
  · rename_i signal
    split at h
    · cases h
    · rename_i count counted
      split at h
      · cases h
      · rename_i g read
        obtain ⟨fields, hf, h⟩ := bind_ok_iff.mp h
        obtain ⟨nested, hg, h⟩ := bind_ok_iff.mp h
        obtain ⟨varData, hd, h⟩ := bind_ok_iff.mp h
        obtain ⟨cursor, hc, h⟩ := bind_ok_iff.mp h
        obtain ⟨others, behind, h⟩ := bind_ok_iff.mp h
        obtain rfl := Except.ok.inj h
        obtain ⟨inner, last, tail, rfl, span, rfl⟩ := Span.lengthAfter_ok_iff.mp counted
        rw [Span.drop_span] at behind
        rw [Span.take_span] at read
        exact ⟨inner, last, tail, g, fields, nested, varData, cursor, others, rfl, signal, span,
          read, hf, hg, hd, hc, behind, rfl⟩
  · cases h

/-- The cursor of a group needs the two members of its header to be integers. -/
theorem accepts_cursor_iff {typeName : String} {g : GroupSpan} {members : List Member} :
    Accepts (GroupCursor.ofSpan typeName g members) ↔
      (∃ e, g.blockLength.sourceEncoding = .ok e ∧ Integral e) ∧
        ∃ e, g.count.sourceEncoding = .ok e ∧ Integral e := by
  rw [GroupCursor.ofSpan, accepts_bind_iff]
  constructor
  · intro given
    obtain ⟨block, found, accepted⟩ := given
    obtain ⟨count, found', _⟩ := accepts_bind_iff.mp accepted
    exact ⟨accepts_integralType_iff.mp ⟨block, found⟩, accepts_integralType_iff.mp ⟨count, found'⟩⟩
  · intro given
    obtain ⟨integral, integral'⟩ := given
    obtain ⟨block, found⟩ := accepts_integralType_iff.mpr integral
    obtain ⟨count, found'⟩ := accepts_integralType_iff.mpr integral'
    exact ⟨block, found, accepts_bind_iff.mpr ⟨count, found', accepts_pure _⟩⟩

/-- A group: its header, and its body; and the groups behind it. -/
theorem accepts_ofTokensFrom_cons {owner : Owner} {index : Nat} {first : Token}
    {rest : List Token} :
    Accepts (GroupCode.ofTokensFrom owner index (first :: rest)) ↔
      first.signal = .beginGroup ∧ ∃ header members close inside last tail,
        rest = header :: (members ++ close :: inside) ++ last :: tail ∧
        IsSpan first (header :: (members ++ close :: inside)) last ∧
        header.signal = .beginComposite ∧ IsSpan header members close ∧ Dimension members ∧
        AcceptsBody ⟨.group, owner.groupType first.name⟩ (GroupSpan.context first.name) inside ∧
        Accepts (GroupCode.ofTokensFrom owner
          (index + ((header :: (members ++ close :: inside)).length + 1) + 1) tail) := by
  rw [GroupCode.ofTokensFrom]
  by_cases signal : first.signal = .beginGroup
  · rw [if_pos signal]
    constructor
    · intro accepted
      split at accepted
      · exact absurd accepted (not_accepts_error _)
      · rename_i count counted
        obtain ⟨inner, last, tail, rfl, span, rfl⟩ := Span.lengthAfter_ok_iff.mp counted
        split at accepted
        · exact absurd accepted (not_accepts_error _)
        · rename_i g read
          rw [Span.take_span] at read
          simp only [Span.drop_span] at accepted
          obtain ⟨fields, hf, accepted⟩ := accepts_bind_iff.mp accepted
          obtain ⟨nested, hg, accepted⟩ := accepts_bind_iff.mp accepted
          obtain ⟨varData, hd, accepted⟩ := accepts_bind_iff.mp accepted
          obtain ⟨cursor, hc, accepted⟩ := accepts_bind_iff.mp accepted
          obtain ⟨others, ho, _⟩ := accepts_bind_iff.mp accepted
          obtain ⟨h, split_, found, found', cut, _⟩ := groupSpan_ok_iff.mp read
          obtain ⟨_, close, _, shape, _, composite, headed⟩ := headedSpan_ok_iff.mp split_
          -- The span that was cut off is the one that the header was found in.
          obtain ⟨-, rfl, -⟩ := enclosed_inj shape
          obtain ⟨⟨e, encoded, integral⟩, e', encoded', integral'⟩ :=
            accepts_cursor_iff.mp ⟨cursor, hc⟩
          have dimension : Dimension h.headerBody :=
            ⟨(hasMember_iff _).mpr ⟨_, e, found, encoded, integral⟩,
              (hasMember_iff _).mpr ⟨_, e', found', encoded', integral'⟩⟩
          exact ⟨signal, h.header, h.headerBody, close, h.rest, last, tail, rfl, span, composite,
            headed, dimension, ⟨g.body, cut, ⟨fields, hf⟩, ⟨nested, hg⟩, ⟨varData, hd⟩⟩, others, ho⟩
    · intro given
      obtain ⟨_, header, members, close, inside, last, tail, rfl, span, composite, headed,
        ⟨hasLength, hasCount⟩, ⟨body, cut, ⟨fields, hf⟩, ⟨nested, hg⟩, ⟨varData, hd⟩⟩, others, ho⟩ := given
      let inner := header :: (members ++ close :: inside)
      have counted : Span.lengthAfter index first (inner ++ last :: tail) = .ok (inner.length + 1) :=
        Span.lengthAfter_ok_iff.mpr ⟨inner, last, tail, rfl, span, rfl⟩
      have split_ : HeadedSpan.ofTokens (GroupSpan.context first.name)
          (first :: (inner ++ [last])) = .ok ⟨header, members, inside⟩ :=
        headedSpan_ok_iff.mpr ⟨first, close, last, rfl, span, composite, headed⟩
      obtain ⟨blockLength, e, found, encoded, integral⟩ :=
        (@hasMember_iff ⟨header, members, inside⟩ (GroupSpan.context first.name) _ _).mp hasLength
      obtain ⟨number, e', found', encoded', integral'⟩ :=
        (@hasMember_iff ⟨header, members, inside⟩ (GroupSpan.context first.name) _ _).mp hasCount
      have read : GroupSpan.ofTokens first (inner ++ [last]) =
          .ok ⟨first.name, first.size.toNat, header, blockLength, number, body⟩ :=
        groupSpan_ok_iff.mpr ⟨_, split_, found, found', cut, rfl⟩
      -- The walker counts and reads again what is known; any other outcome is ruled out.
      split
      · rename_i e failed
        cases counted.symm.trans failed
      · rename_i count counted'
        obtain rfl : inner.length + 1 = count := Except.ok.inj (counted.symm.trans counted')
        rw [← Span.take_span inner tail last] at read
        split
        · rename_i e failed
          cases read.symm.trans failed
        · rename_i g read'
          obtain rfl := Except.ok.inj (read.symm.trans read')
          have moved : Accepts (GroupCursor.ofSpan (owner.groupType first.name)
              ⟨first.name, first.size.toNat, header, blockLength, number, body⟩
              (fields ++ nested.members ++ varData)) :=
            accepts_cursor_iff.mpr ⟨⟨e, encoded, integral⟩, e', encoded', integral'⟩
          obtain ⟨cursor, hc⟩ := moved
          refine accepts_bind_iff.mpr ⟨fields, hf, accepts_bind_iff.mpr ⟨nested, hg, ?_⟩⟩
          refine accepts_bind_iff.mpr ⟨varData, hd, accepts_bind_iff.mpr ⟨cursor, hc, ?_⟩⟩
          refine accepts_bind_iff.mpr ⟨others, ?_, accepts_pure _⟩
          rw [Span.drop_span]
          exact ho
  · rw [if_neg signal]
    exact ⟨fun h => absurd h (not_accepts_error _), fun h => absurd h.1 signal⟩

/-- What a walker accepts where the grammar derives `symbol`. -/
def Accepted : Symbol → List Token → Prop
  | .body, tokens => ∀ owner context, AcceptsBody owner context tokens
  | .groups, tokens => ∀ owner index, Accepts (GroupCode.ofTokensFrom owner index tokens)

/-- What is derived is accepted. -/
theorem accepted_of_derives {symbol : Symbol} {tokens : List Token} (h : Derives symbol tokens) :
    Accepted symbol tokens := by
  -- Derived is whatever the owner; the owner changes where a group is entered.
  induction h with
  | body hf hg hd ih =>
    intro owner context
    exact ⟨_, ofTokens_sections hf hg hd, accepts_ofFieldsFrom hf, ih owner 0,
      accepts_ofVarDataFrom hd⟩
  | nil =>
    intro owner index
    rw [GroupCode.ofTokensFrom]
    exact accepts_ok _
  | @cons first last header body rest opens headed inside closes _ ihInside ihOthers =>
    intro owner index
    cases headed with
    | @mk composite close members signal span holds =>
      have whole : IsSpan first (composite :: (members ++ close :: body)) last := by
        refine ⟨by rw [opens, closes]; rfl, ?_⟩
        have nested := span.wellNested.append inside.wellNested
        rwa [List.cons_append, List.append_assoc, List.singleton_append] at nested
      have shape : composite :: (members ++ [close]) ++ body ++ last :: rest =
          composite :: (members ++ close :: body) ++ last :: rest := by
        simp only [List.cons_append, List.append_assoc, List.nil_append]
      rw [shape]
      exact accepts_ofTokensFrom_cons.mpr ⟨opens, composite, members, close, body, last, rest, rfl,
        whole, signal, span, holds, ihInside _ _, ihOthers _ _⟩

/-- A body with members for every section is derived, if its groups are. -/
theorem body_of_accepts {owner : Owner} {context : String} {tokens : List Token}
    (h : AcceptsBody owner context tokens)
    (groups : ∀ b, Body.ofTokens tokens = .ok b →
      Accepts (GroupCode.ofTokens owner b.groups) → Derives .groups b.groups) :
    Derives .body tokens := by
  obtain ⟨b, cut, hf, hg, hd⟩ := h
  rw [← Body.append_of_ofTokens cut]
  exact .body (fields_of_accepts (fields_of_ofTokens cut) hf) (groups b cut hg)
    (varData_of_acceptsFrom hd)

/-- Groups that are accepted are derived. -/
theorem groups_of_accepts {owner : Owner} {index : Nat} {tokens : List Token}
    (h : Accepts (GroupCode.ofTokensFrom owner index tokens)) : Derives .groups tokens := by
  induction size : tokens.length using Nat.strongRecOn generalizing owner index tokens with
  | ind length ih =>
    cases tokens with
    | nil => exact .nil
    | cons first rest =>
      obtain ⟨opens, header, members, close, inside, last, tail, rfl, span, signal, headed, holds,
        body, others⟩ := accepts_ofTokensFrom_cons.mp h
      simp only [List.length_cons, List.length_append] at size
      have derived : Derives .body inside := by
        refine body_of_accepts body ?_
        intro b cut accepted
        -- The groups of the body are part of it, and so shorter than the span.
        have parts := congrArg List.length (Body.append_of_ofTokens cut)
        simp only [List.length_append] at parts
        exact ih _ (by omega) accepted rfl
      have closing := span.closing
      rw [opens] at closing
      have shape : header :: (members ++ close :: inside) ++ last :: tail =
          header :: (members ++ [close]) ++ inside ++ last :: tail := by
        simp only [List.cons_append, List.append_assoc, List.nil_append]
      rw [shape]
      exact .cons opens (.mk signal headed holds) derived (Option.some.inj closing).symm
        (ih _ (by omega) others rfl)

/-! ## Messages -/

/-- A message is read from one span: its members from the three sections of the body, and its
cursors from the groups. -/
theorem message_ok_iff {tokens : List Token} {m : MessageFlyweight} :
    MessageFlyweight.ofTokens tokens = .ok m ↔
      ∃ first inner last body fields groups varData, tokens = first :: (inner ++ [last]) ∧
        first.signal = .beginMessage ∧ IsSpan first inner last ∧ Body.ofTokens inner = .ok body ∧
        Member.ofFields s!"message '{first.name}'" body.fields = .ok fields ∧
        GroupCode.ofTokens ⟨.message, Identifier.typeName first.name⟩ body.groups = .ok groups ∧
        Member.ofVarData ⟨.message, Identifier.typeName first.name⟩ body.varData = .ok varData ∧
        m = ⟨Identifier.typeName first.name, first.size.toNat, first.id.toInt,
          fields ++ groups.members ++ varData, groups.cursors⟩ := by
  rw [MessageFlyweight.ofTokens, bind_ok_iff]
  constructor
  · intro given
    obtain ⟨first, opened, read⟩ := given
    by_cases signal : first.signal = .beginMessage
    · rw [if_neg (not_not_intro signal)] at read
      obtain ⟨inner, inside, read⟩ := bind_ok_iff.mp read
      obtain ⟨body, cut, read⟩ := bind_ok_iff.mp read
      obtain ⟨fields, hf, read⟩ := bind_ok_iff.mp read
      obtain ⟨groups, hg, read⟩ := bind_ok_iff.mp read
      obtain ⟨varData, hd, made⟩ := bind_ok_iff.mp read
      obtain rfl := Except.ok.inj made
      obtain ⟨first', last, rfl, span⟩ := interior_ok_iff.mp inside
      obtain rfl : first' = first := Except.ok.inj opened
      exact ⟨first', inner, last, body, fields, groups, varData, rfl, signal, span,
        mapError_ok_iff.mp cut, hf, hg, hd, rfl⟩
    · rw [if_pos signal] at read
      exact nomatch read
  · intro given
    obtain ⟨first, inner, last, body, fields, groups, varData, rfl, signal, span, cut, hf, hg, hd,
      rfl⟩ := given
    refine ⟨first, rfl, ?_⟩
    rw [if_neg (not_not_intro signal)]
    have inside : interior (first :: (inner ++ [last])) = .ok inner :=
      interior_ok_iff.mpr ⟨first, last, rfl, span⟩
    refine bind_ok_iff.mpr ⟨inner, inside, ?_⟩
    refine bind_ok_iff.mpr ⟨body, mapError_ok_iff.mpr cut, ?_⟩
    refine bind_ok_iff.mpr ⟨fields, hf, bind_ok_iff.mpr ⟨groups, hg, ?_⟩⟩
    exact bind_ok_iff.mpr ⟨varData, hd, rfl⟩

/-- A message list is one span, and members are found for its body. -/
theorem accepts_ofTokens_iff {tokens : List Token} :
    Accepts (MessageFlyweight.ofTokens tokens) ↔
      ∃ first inner last, tokens = first :: (inner ++ [last]) ∧ first.signal = .beginMessage ∧
        IsSpan first inner last ∧
        AcceptsBody ⟨.message, Identifier.typeName first.name⟩ s!"message '{first.name}'"
          inner := by
  constructor
  · intro given
    obtain ⟨m, read⟩ := given
    obtain ⟨first, inner, last, body, fields, groups, varData, rfl, signal, span, cut, hf, hg, hd,
      -⟩ := message_ok_iff.mp read
    exact ⟨first, inner, last, rfl, signal, span, body, cut, ⟨fields, hf⟩, ⟨groups, hg⟩,
      varData, hd⟩
  · intro given
    obtain ⟨first, inner, last, rfl, signal, span, body, cut, ⟨fields, hf⟩, ⟨groups, hg⟩,
      varData, hd⟩ := given
    exact ⟨_, message_ok_iff.mpr ⟨first, inner, last, body, fields, groups, varData, rfl, signal,
      span, cut, hf, hg, hd, rfl⟩⟩

/-- Source is generated from a token list exactly when the grammar derives it as a
message. -/
theorem ofTokens_ok_iff (tokens : List Token) :
    (∃ m, MessageFlyweight.ofTokens tokens = .ok m) ↔ MessageList tokens := by
  refine accepts_ofTokens_iff.trans ?_
  constructor
  · intro given
    obtain ⟨first, inner, last, rfl, opens, span, body⟩ := given
    -- A message token is closed by one token only.
    have closing := span.closing
    rw [opens] at closing
    exact .mk opens (body_of_accepts body fun _ _ accepted => groups_of_accepts accepted)
      (Option.some.inj closing).symm
  · intro h
    cases h with
    | @mk first last body opens inside closes =>
      have span : IsSpan first body last := ⟨by rw [opens, closes]; rfl, inside.wellNested⟩
      exact ⟨first, body, last, rfl, opens, span, accepted_of_derives inside _ _⟩

end Source

end Flyweight
