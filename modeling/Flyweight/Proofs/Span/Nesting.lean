import Flyweight.Body

/- Spans as brackets that match.

   `WellNested` says of a list that its opening and closing tokens pair up, by the way
   such lists are put together. The count that finds the end of a span with a stack
   of open spans finds exactly the token that closes a well-nested list
   (`lengthAfter_ok_iff`), and a list is one span exactly when it is an opening token, a
   well-nested list and the closing token (`interior_ok_iff`). -/

namespace Flyweight

/-- Opening and closing tokens pair up, each pair around a list that is nested itself. -/
inductive WellNested : List Token → Prop where
  | nil : WellNested []
  | plain {t : Token} {rest : List Token} (opens : t.signal.closing = none)
    (closes : t.signal.isEnd = false) (nested : WellNested rest) : WellNested (t :: rest)
  | span {first last : Token} {inner rest : List Token}
    (closing : first.signal.closing = some last.signal) (nested : WellNested inner)
    (after : WellNested rest) : WellNested (first :: (inner ++ last :: rest))

theorem WellNested.append {front back : List Token} (hf : WellNested front)
    (hb : WellNested back) : WellNested (front ++ back) := by
  induction hf with
  | nil => exact hb
  | plain opens closes _ ih => exact .plain opens closes ih
  | @span first last inner rest closing nested _ _ ih =>
    rw [List.cons_append, List.append_assoc]
    exact .span closing nested ih

/-- A single token that opens and closes nothing. -/
theorem WellNested.single {t : Token} (opens : t.signal.closing = none)
    (closes : t.signal.isEnd = false) : WellNested [t] :=
  .plain opens closes .nil

/-- The list is one span: an opening token, a well-nested list and the closing token. -/
structure IsSpan (first : Token) (inner : List Token) (last : Token) : Prop where
  closing : first.signal.closing = some last.signal
  nested : WellNested inner

/-- What belongs to the element that a token starts, behind that token: nothing, or the
rest of a span. -/
inductive IsElement (first : Token) : List Token → Prop where
  | single (opens : first.signal.closing = none) : IsElement first []
  | span {inner : List Token} {last : Token} (span : IsSpan first inner last) :
    IsElement first (inner ++ [last])

theorem IsSpan.wellNested {first last : Token} {inner : List Token} (h : IsSpan first inner last) :
    WellNested (first :: (inner ++ [last])) :=
  .span h.closing h.nested .nil

theorem IsElement.wellNested {first : Token} {more : List Token} (h : IsElement first more)
    (closes : first.signal.isEnd = false) :
    WellNested (first :: more) := by
  cases h with
  | single opens => exact .single opens closes
  | span span => exact span.wellNested

namespace Span

/-- A closing token of an open span opens nothing. -/
theorem closing_of_closes {first last : Token} (h : first.signal.closing = some last.signal) :
    last.signal.closing = none ∧ last.signal.isEnd = true := by
  have closes := Signal.isEnd_of_closing h
  have opens := Signal.isBegin_of_isEnd closes
  exact ⟨Option.not_isSome_iff_eq_none.mp (by rw [← Signal.isBegin, opens]; decide), closes⟩

theorem map_add_eq_ok {x : Except SpanError Nat} {m n : Nat} :
    x.map (· + m) = .ok n ↔ ∃ k, x = .ok k ∧ k + m = n := by
  cases x with
  | error e => exact ⟨fun h => (nomatch h), fun ⟨_, h, _⟩ => nomatch h⟩
  | ok k =>
    constructor
    · intro h
      exact ⟨k, rfl, Except.ok.inj h⟩
    · intro given
      obtain ⟨k', h, rfl⟩ := given
      obtain rfl := Except.ok.inj h
      rfl

theorem map_eq_error {x : Except SpanError Nat} {f : Nat → Nat} {e : SpanError} :
    x.map f = .error e ↔ x = .error e := by
  cases x with
  | error e' => rfl
  | ok k => exact ⟨fun h => (nomatch h), fun h => (nomatch h)⟩

section Count
variable {unclosed : SpanError} {innermost : Signal} {outer : List Signal} {index : Nat}

theorem countToEnd_plain {t : Token} {rest : List Token} (opens : t.signal.closing = none)
    (closes : t.signal.isEnd = false) :
    countToEnd unclosed innermost outer index (t :: rest) =
      (countToEnd unclosed innermost outer (index + 1) rest).map (· + 1) := by
  rw [countToEnd.eq_def]
  simp only [opens, closes, Bool.false_eq_true, if_false]

theorem countToEnd_opening {t : Token} {close : Signal} {rest : List Token}
    (opens : t.signal.closing = some close) :
    countToEnd unclosed innermost outer index (t :: rest) =
      (countToEnd unclosed close (innermost :: outer) (index + 1) rest).map (· + 1) := by
  rw [countToEnd.eq_def]
  simp only [opens]

/-- The token that closes the outermost open span ends the count. -/
theorem countToEnd_last {t : Token} {rest : List Token} (opens : t.signal.closing = none)
    (closes : t.signal.isEnd = true) :
    countToEnd unclosed t.signal [] index (t :: rest) = .ok 1 := by
  rw [countToEnd.eq_def]
  simp only [opens, closes, if_true]

theorem countToEnd_closing {t : Token} {next : Signal} {rest : List Token}
    (opens : t.signal.closing = none) (closes : t.signal.isEnd = true) :
    countToEnd unclosed t.signal (next :: outer) index (t :: rest) =
      (countToEnd unclosed next outer (index + 1) rest).map (· + 1) := by
  rw [countToEnd.eq_def]
  simp only [opens, closes, if_true]

/-- The count passes over a well-nested list, with the same spans open behind it. -/
theorem countToEnd_wellNested {tokens : List Token} (h : WellNested tokens) {rest : List Token}
    {n : Nat} (counted : ∀ index, countToEnd unclosed innermost outer index rest = .ok n) :
    countToEnd unclosed innermost outer index (tokens ++ rest) = .ok (tokens.length + n) := by
  -- The open spans vary: inside a span, the one around it is among them.
  induction h generalizing innermost outer index rest n with
  | nil => rw [List.nil_append, counted, List.length_nil, Nat.zero_add]
  | plain opens closes _ ih =>
    rw [List.cons_append, countToEnd_plain opens closes, ih counted, List.length_cons,
      Nat.succ_add]
    rfl
  | @span first last inner after closing _ _ ihInner ihAfter =>
    obtain ⟨opens, closes⟩ := closing_of_closes closing
    have behind (index : Nat) : countToEnd unclosed last.signal (innermost :: outer) index
        (last :: (after ++ rest)) = .ok (after.length + n + 1) := by
      rw [countToEnd_closing opens closes, ihAfter counted]
      rfl
    rw [List.cons_append, List.append_assoc, List.cons_append, countToEnd_opening closing,
      ihInner behind]
    refine congrArg Except.ok ?_
    simp only [List.length_cons, List.length_append]
    omega

/-- What is counted is a well-nested list and the token that closes the innermost open
span; the count goes on behind it while other spans are open. -/
theorem nested_of_countToEnd {tokens : List Token} {n : Nat}
    (h : countToEnd unclosed innermost outer index tokens = .ok n) :
    ∃ inner last rest, tokens = inner ++ last :: rest ∧ WellNested inner ∧
      last.signal = innermost ∧
      match outer with
      | [] => n = inner.length + 1
      | next :: outer => ∃ after m, countToEnd unclosed next outer after rest = .ok m ∧
          n = inner.length + 1 + m := by
  -- Behind an inner span the count goes on with a list that is no tail by one token, so
  -- the induction is on the length.
  induction size : tokens.length using Nat.strongRecOn
    generalizing innermost outer index tokens n with
  | ind length ih =>
    cases tokens with
    | nil => exact nomatch h
    | cons t rest =>
      have shorter : rest.length < length := by
        rw [← size]
        exact Nat.lt_succ_self _
      cases opens : t.signal.closing with
      | some close =>
        -- The list goes on behind the span that is opened here, which ends somewhere in it.
        rw [countToEnd_opening opens] at h
        obtain ⟨m, counted, rfl⟩ := map_add_eq_ok.mp h
        obtain ⟨inner, last, behind, rfl, nested, closes, index', k, counted', rfl⟩ :=
          ih _ shorter counted rfl
        have closer : behind.length < length := by
          rw [List.length_append, List.length_cons] at shorter
          omega
        obtain ⟨inner', last', rest', rfl, nested', closes', goes⟩ := ih _ closer counted' rfl
        refine ⟨t :: (inner ++ last :: inner'), last', rest', ?_, ?_, closes', ?_⟩
        · simp only [List.cons_append, List.append_assoc]
        · exact .span (by rw [opens, closes]) nested nested'
        · cases outer with
          | nil =>
            simp only [List.length_cons, List.length_append] at goes ⊢
            omega
          | cons next others =>
            obtain ⟨after, k', counted'', rfl⟩ := goes
            refine ⟨after, k', counted'', ?_⟩
            simp only [List.length_cons, List.length_append]
            omega
      | none =>
        cases closes : t.signal.isEnd with
        | false =>
          rw [countToEnd_plain opens closes] at h
          obtain ⟨m, counted, rfl⟩ := map_add_eq_ok.mp h
          obtain ⟨inner, last, rest', rfl, nested, closes', goes⟩ := ih _ shorter counted rfl
          refine ⟨t :: inner, last, rest', rfl, .plain opens closes nested, closes', ?_⟩
          cases outer with
          | nil => exact congrArg Nat.succ goes
          | cons next others =>
            obtain ⟨after, k, counted', rfl⟩ := goes
            refine ⟨after, k, counted', ?_⟩
            rw [List.length_cons]
            omega
        | true =>
          by_cases same : t.signal = innermost
          · subst same
            refine ⟨[], t, rest, rfl, .nil, rfl, ?_⟩
            cases outer with
            | nil =>
              rw [countToEnd_last opens closes] at h
              exact (Except.ok.inj h).symm
            | cons next others =>
              rw [countToEnd_closing opens closes] at h
              obtain ⟨m, counted, rfl⟩ := map_add_eq_ok.mp h
              exact ⟨index + 1, m, counted, Nat.add_comm m 1⟩
          · rw [countToEnd.eq_def] at h
            simp only [opens, closes, if_true, if_neg same] at h
            exact nomatch h

end Count

/-- The tokens that belong to the span that a token opens are a well-nested list and the
closing token. -/
theorem lengthAfter_ok_iff {index n : Nat} {first : Token} {rest : List Token} :
    lengthAfter index first rest = .ok n ↔
      ∃ inner last tail, rest = inner ++ last :: tail ∧ IsSpan first inner last ∧
        n = inner.length + 1 := by
  constructor
  · intro h
    unfold lengthAfter at h
    split at h
    · rename_i close opens
      obtain ⟨inner, last, tail, shape, nested, closes, size⟩ := nested_of_countToEnd h
      exact ⟨inner, last, tail, shape, ⟨by rw [opens, closes], nested⟩, size⟩
    · exact nomatch h
  · intro given
    obtain ⟨inner, last, tail, rfl, ⟨closing, nested⟩, rfl⟩ := given
    obtain ⟨opens, closes⟩ := closing_of_closes closing
    simp only [lengthAfter, closing]
    exact countToEnd_wellNested nested fun _ => countToEnd_last opens closes

theorem take_span (inner tail : List Token) (last : Token) :
    (inner ++ last :: tail).take (inner.length + 1) = inner ++ [last] := by
  rw [List.append_cons]
  exact List.take_left' (by rw [List.length_append, List.length_singleton])

theorem drop_span (inner tail : List Token) (last : Token) :
    (inner ++ last :: tail).drop (inner.length + 1) = tail := by
  rw [List.append_cons]
  exact List.drop_left' (by rw [List.length_append, List.length_singleton])

/-- The tokens that belong to an element, counted. -/
theorem elementLengthAfter_ok_iff {index n : Nat} {first : Token} {rest : List Token} :
    elementLengthAfter index first rest = .ok n ↔
      ∃ more tail, rest = more ++ tail ∧ IsElement first more ∧ n = more.length := by
  unfold elementLengthAfter
  by_cases opens : first.signal.isBegin = true
  · rw [if_pos opens, lengthAfter_ok_iff]
    constructor
    · intro given
      obtain ⟨inner, last, tail, rfl, span, rfl⟩ := given
      refine ⟨inner ++ [last], tail, ?_, .span span, ?_⟩
      · rw [List.append_assoc, List.singleton_append]
      · rw [List.length_append, List.length_singleton]
    · intro given
      obtain ⟨more, tail, rfl, element, rfl⟩ := given
      cases element with
      | single closed => rw [Signal.isBegin, closed] at opens; exact nomatch opens
      | @span inner last span =>
        refine ⟨inner, last, tail, ?_, span, ?_⟩
        · rw [List.append_assoc, List.singleton_append]
        · rw [List.length_append, List.length_singleton]
  · rw [if_neg opens]
    constructor
    · intro h
      obtain rfl := Except.ok.inj h
      exact ⟨[], rest, rfl, .single (by simpa [Signal.isBegin] using opens), rfl⟩
    · intro given
      obtain ⟨more, tail, rfl, element, rfl⟩ := given
      cases element with
      | single closed => rfl
      | span span => exact absurd (by rw [Signal.isBegin, span.closing]; rfl) opens

/-- A list is one span when it is an opening token, a well-nested list and the closing
token. -/
theorem interior_ok_iff {tokens inner : List Token} :
    interior tokens = .ok inner ↔
      ∃ first last, tokens = first :: (inner ++ [last]) ∧ IsSpan first inner last := by
  constructor
  · intro h
    cases tokens with
    | nil => cases h
    | cons first rest =>
      cases counted : lengthAfter 0 first rest with
      | error e =>
        simp only [interior, counted, bind, Except.bind] at h
        cases h
      | ok n =>
        obtain ⟨body, last, tail, rfl, span, rfl⟩ := lengthAfter_ok_iff.mp counted
        simp only [interior, counted, bind, Except.bind, Nat.add_sub_cancel] at h
        by_cases whole : body.length + 1 = (body ++ last :: tail).length
        · rw [if_pos whole, List.take_left] at h
          obtain rfl := Except.ok.inj h
          obtain rfl : tail = [] := by
            rw [List.length_append, List.length_cons] at whole
            exact List.eq_nil_of_length_eq_zero (by omega)
          exact ⟨first, last, rfl, span⟩
        · rw [if_neg whole] at h
          cases h
  · intro given
    obtain ⟨first, last, rfl, span⟩ := given
    have counted : lengthAfter 0 first (inner ++ [last]) = .ok (inner.length + 1) :=
      lengthAfter_ok_iff.mpr ⟨inner, last, [], rfl, span, rfl⟩
    have whole : inner.length + 1 = (inner ++ [last]).length := by
      rw [List.length_append, List.length_singleton]
    simp only [interior, counted, bind, Except.bind, Nat.add_sub_cancel]
    rw [if_pos whole, List.take_left]

end Span

end Flyweight
