import Flyweight.Proofs.Span.Nesting

/- The two checks of brackets agree.

   `Span.checkNesting` keeps one stack over a whole list; `Span.findEnd` starts anew at an
   opening token and stops where its span ends. While a span is open, the two see the same
   stack above the spans that were open before it (`checkFrom_opened`). So the check of a
   list goes from element to element (`checkFrom_cons`), a list passes it exactly when it is
   well nested, and what the check reports, other than a closing token where nothing is
   open, is what the search from an opening token reports. -/

namespace Flyweight.Span

/-! ## One stack -/

/-- While the outermost of the open spans is open, the check does what the count to its end
does, and behind that end it goes on with nothing open. -/
theorem checkFrom_opened {unclosed mark : SpanError} {innermost outermost : Signal}
    {others : List (Signal × SpanError)}
    (bottom : ((innermost, mark) :: others).getLast? = some (outermost, unclosed)) (index : Nat)
    (tokens : List Token) :
    checkFrom ((innermost, mark) :: others) index tokens =
      match countToEnd unclosed innermost (others.map Prod.fst) index tokens with
      | .ok n => checkFrom [] (index + n) (tokens.drop n)
      | .error e => .error e := by
  induction tokens generalizing innermost mark others index with
  | nil => simp only [checkFrom, bottom, countToEnd]
  | cons t rest ih =>
    -- Both go on with the same stack, behind one more token.
    have onward {top : Signal} {sign : SpanError} {below : List (Signal × SpanError)}
        (bottom : ((top, sign) :: below).getLast? = some (outermost, unclosed)) :
        checkFrom ((top, sign) :: below) (index + 1) rest =
          match (countToEnd unclosed top (below.map Prod.fst) (index + 1) rest).map (· + 1) with
          | .ok n => checkFrom [] (index + n) ((t :: rest).drop n)
          | .error e => .error e := by
      rw [ih bottom]
      cases countToEnd unclosed top (below.map Prod.fst) (index + 1) rest with
      | error e => rfl
      | ok n =>
        show checkFrom [] (index + 1 + n) (rest.drop n) =
          checkFrom [] (index + (n + 1)) (rest.drop n)
        rw [Nat.add_right_comm, Nat.add_assoc]
    cases opens : t.signal.closing with
    | some close =>
      have deeper : ((close, SpanError.unbalanced t.signal t.name index) ::
          (innermost, mark) :: others).getLast? = some (outermost, unclosed) := by
        rw [List.getLast?_cons_cons, bottom]
      rw [countToEnd_opening opens]
      simp only [checkFrom, opens, onward deeper, List.map_cons]
    | none =>
      cases closes : t.signal.isEnd with
      | false =>
        rw [countToEnd_plain opens closes, ← onward bottom]
        simp only [checkFrom, opens, closes, Bool.false_eq_true, if_false]
      | true =>
        by_cases same : innermost = t.signal
        · subst same
          cases others with
          | nil =>
            rw [List.map_nil, countToEnd_last opens closes]
            simp only [checkFrom, opens, closes, if_true]
            rfl
          | cons next below =>
            rw [List.getLast?_cons_cons] at bottom
            rw [List.map_cons, countToEnd_closing opens closes, ← onward bottom]
            simp only [checkFrom, opens, closes, if_true]
        · rw [countToEnd.eq_def]
          simp only [checkFrom, opens, closes, if_true, if_neg same, if_neg (Ne.symm same)]

/-- With nothing open, the check goes from one element to the next. -/
theorem checkFrom_cons {index : Nat} {first : Token} {rest : List Token}
    (closes : first.signal.isEnd = false) :
    checkFrom [] index (first :: rest) =
      match elementLengthAfter index first rest with
      | .ok n => checkFrom [] (index + n + 1) (rest.drop n)
      | .error e => .error e := by
  cases opens : first.signal.closing with
  | none =>
    have plain : first.signal.isBegin = false := by rw [Signal.isBegin, opens]; rfl
    simp [checkFrom, opens, closes, elementLengthAfter, plain]
  | some close =>
    have begins : first.signal.isBegin = true := by rw [Signal.isBegin, opens]; rfl
    simp only [checkFrom, opens, elementLengthAfter, begins, if_true, lengthAfter]
    have bottom : [(close, SpanError.unbalanced first.signal first.name index)].getLast? =
        some (close, .unbalanced first.signal first.name index) := rfl
    rw [checkFrom_opened bottom, List.map_nil]
    simp only [Nat.add_right_comm]

theorem checkFrom_closing {index : Nat} {first : Token} {rest : List Token}
    (closes : first.signal.isEnd = true) :
    checkFrom [] index (first :: rest) =
      .error (.unexpectedEnd first.signal first.name index) := by
  have opens : first.signal.closing = none := by
    have := Signal.isBegin_of_isEnd closes
    simpa [Signal.isBegin] using this
  simp only [checkFrom, opens, closes, if_true]

/-- A list passes the check exactly when its brackets match. -/
theorem checkFrom_ok_iff {index : Nat} {tokens : List Token} :
    checkFrom [] index tokens = .ok () ↔ WellNested tokens := by
  constructor
  · intro h
    induction size : tokens.length using Nat.strongRecOn generalizing index tokens with
    | ind length ih =>
      cases tokens with
      | nil => exact .nil
      | cons first rest =>
        cases closes : first.signal.isEnd with
        | true => simp [checkFrom_closing closes] at h
        | false =>
          rw [checkFrom_cons closes] at h
          cases counted : elementLengthAfter index first rest with
          | error e => simp [counted] at h
          | ok n =>
            simp only [counted] at h
            obtain ⟨more, tail, rfl, element, rfl⟩ := elementLengthAfter_ok_iff.mp counted
            rw [List.drop_left] at h
            have nested : WellNested tail := by
              refine ih tail.length ?_ h rfl
              simp only [← size, List.length_cons, List.length_append]
              omega
            cases element with
            | single opens => exact .plain opens closes nested
            | @span inner last span =>
              rw [List.append_assoc, List.singleton_append]
              exact .span span.closing span.nested nested
  · intro h
    induction h generalizing index with
    | nil => rfl
    | plain opens closes _ ih =>
      simp only [checkFrom, opens, closes, Bool.false_eq_true, if_false]
      exact ih
    | @span first last inner rest closing nested _ _ ih =>
      have begins : first.signal.isBegin = true := by rw [Signal.isBegin, closing]; rfl
      have counted : elementLengthAfter index first (inner ++ last :: rest) =
          .ok (inner.length + 1) := by
        rw [elementLengthAfter, if_pos begins]
        exact lengthAfter_ok_iff.mpr ⟨inner, last, rest, rfl, ⟨closing, nested⟩, rfl⟩
      have closes : first.signal.isEnd = false := by
        cases h : first.signal.isEnd with
        | false => rfl
        | true => simp [Signal.isBegin_of_isEnd h] at begins
      rw [checkFrom_cons closes, counted]
      simp only [drop_span]
      exact ih

/-! ## Walking from element to element -/

/-- Element by element, the list is walked from a position to its end; no element is a
closing token. -/
inductive Walks (tokens : List Token) : Nat → Prop where
  | done : Walks tokens tokens.length
  | step {start last : Nat} {first : Token} (found : tokens[start]? = some first)
    (element : first.signal.isEnd = false) (ends : elementEnd tokens start = .ok last)
    (onward : Walks tokens (last + 1)) : Walks tokens start

theorem drop_of_getElem? {tokens : List Token} {start : Nat} {first : Token}
    (found : tokens[start]? = some first) : tokens.drop start = first :: tokens.drop (start + 1) := by
  obtain ⟨inside, rfl⟩ := List.getElem?_eq_some_iff.mp found
  exact List.drop_eq_getElem_cons inside

theorem elementEnd_eq {tokens : List Token} {start : Nat} {first : Token}
    (found : tokens[start]? = some first) :
    elementEnd tokens start =
      (elementLengthAfter start first (tokens.drop (start + 1))).map (start + ·) := by
  simp only [elementEnd, drop_of_getElem? found]

theorem findEnd_eq {tokens : List Token} {start : Nat} {first : Token}
    (found : tokens[start]? = some first) :
    findEnd tokens start = (lengthAfter start first (tokens.drop (start + 1))).map (start + ·) := by
  simp only [findEnd, drop_of_getElem? found]

theorem walks_iff {tokens : List Token} {start : Nat} (inside : start ≤ tokens.length) :
    Walks tokens start ↔ checkFrom [] start (tokens.drop start) = .ok () := by
  constructor
  · intro h
    clear inside
    induction h with
    | done => rw [List.drop_length]; rfl
    | @step start last first found element ends _ ih =>
      rw [elementEnd_eq found] at ends
      rw [drop_of_getElem? found, checkFrom_cons element]
      cases counted : elementLengthAfter start first (tokens.drop (start + 1)) with
      | error e => rw [counted] at ends; cases ends
      | ok n =>
        rw [counted] at ends
        obtain rfl := Except.ok.inj ends
        simp only [List.drop_drop, Nat.add_right_comm start 1 n]
        exact ih
  · intro h
    -- The walk ends because every element takes at least one token.
    induction left : tokens.length - start using Nat.strongRecOn generalizing start with
    | ind left' ih =>
      by_cases last : start = tokens.length
      · rw [last]; exact .done
      · have some_ : start < tokens.length := by omega
        have found : tokens[start]? = some tokens[start] := List.getElem?_eq_getElem some_
        rw [drop_of_getElem? found] at h
        cases closes : tokens[start].signal.isEnd with
        | true => rw [checkFrom_closing closes] at h; cases h
        | false =>
          rw [checkFrom_cons closes] at h
          cases counted : elementLengthAfter start tokens[start] (tokens.drop (start + 1)) with
          | error e => simp [counted] at h
          | ok n =>
            have short : n ≤ (tokens.drop (start + 1)).length := by
              obtain ⟨more, tail, shape, -, rfl⟩ := elementLengthAfter_ok_iff.mp counted
              simp [shape]
            rw [List.length_drop] at short
            simp only [counted, List.drop_drop] at h
            rw [Nat.add_right_comm] at h
            have ends : elementEnd tokens start = .ok (start + n) := by
              rw [elementEnd_eq found, counted]
              rfl
            refine .step found closes ends ?_
            rw [Nat.add_right_comm]
            exact ih _ (by omega) (by omega) h rfl

/-! ## The spans of a list that passes -/

/-- Every opening token of a well-nested list opens a span that ends in the list. -/
theorem span_of_wellNested {tokens : List Token} (h : WellNested tokens) {front rest : List Token}
    {first : Token} (shape : tokens = front ++ first :: rest)
    (opens : first.signal.isBegin = true) :
    ∃ inner last tail, rest = inner ++ last :: tail ∧ IsSpan first inner last := by
  induction h generalizing front first rest with
  | nil => simp at shape
  | @plain t others closed _ _ ih =>
    cases front with
    | nil =>
      obtain ⟨rfl, -⟩ := List.cons.inj shape
      rw [Signal.isBegin, closed] at opens
      cases opens
    | cons _ front => exact ih (List.cons.inj shape).2 opens
  | @span head tail inner others closing nested _ ihInner ihOthers =>
    cases front with
    | nil =>
      obtain ⟨rfl, rfl⟩ := List.cons.inj shape
      exact ⟨inner, tail, others, rfl, closing, nested⟩
    | cons _ front =>
      -- The token stands inside the span, or it closes the span, or it stands behind it.
      rcases List.append_eq_append_iff.mp (List.cons.inj shape).2 with
        ⟨between, rfl, split⟩ | ⟨between, rfl, split⟩
      · cases between with
        | nil =>
          obtain ⟨rfl, -⟩ := List.cons.inj split
          have closes := Signal.isEnd_of_closing closing
          simp [Signal.isBegin_of_isEnd closes] at opens
        | cons _ between => exact ihOthers (List.cons.inj split).2 opens
      · cases between with
        | nil =>
          obtain ⟨rfl, -⟩ := List.cons.inj split
          have closes := Signal.isEnd_of_closing closing
          simp [Signal.isBegin_of_isEnd closes] at opens
        | cons _ between =>
          obtain ⟨rfl, rfl⟩ := List.cons.inj split
          obtain ⟨body, last, more, rfl, span⟩ := ihInner rfl opens
          exact ⟨body, last, more ++ tail :: others, by simp, span⟩

/-- What the search finds is the closing token of a span of the list. -/
theorem findEnd_ok_iff {tokens : List Token} {start last : Nat} :
    findEnd tokens start = .ok last ↔
      ∃ first inner close tail, tokens.drop start = first :: (inner ++ close :: tail) ∧
        IsSpan first inner close ∧ last = start + inner.length + 1 := by
  constructor
  · intro h
    unfold findEnd at h
    split at h
    · cases h
    · rename_i first rest shape
      cases counted : lengthAfter start first rest with
      | error e => rw [counted] at h; cases h
      | ok n =>
        obtain ⟨inner, close, tail, rfl, span, rfl⟩ := lengthAfter_ok_iff.mp counted
        rw [counted] at h
        exact ⟨first, inner, close, tail, shape, span, (Except.ok.inj h).symm⟩
  · intro given
    obtain ⟨first, inner, close, tail, shape, span, rfl⟩ := given
    simp only [findEnd, shape, lengthAfter_ok_iff.mpr ⟨inner, close, tail, rfl, span, rfl⟩]
    rfl

/-- In a list whose brackets match, the search finds an end for every opening token. -/
theorem findEnd_of_wellNested {tokens : List Token} (h : WellNested tokens) {start : Nat}
    {first : Token} (found : tokens[start]? = some first) (opens : first.signal.isBegin = true) :
    ∃ last, findEnd tokens start = .ok last := by
  have rest := drop_of_getElem? found
  have cut : tokens = tokens.take start ++ first :: tokens.drop (start + 1) := by
    rw [← rest, List.take_append_drop]
  obtain ⟨inner, close, tail, shape, span⟩ := span_of_wellNested h cut opens
  exact ⟨_, findEnd_ok_iff.mpr ⟨first, inner, close, tail, by rw [rest, shape], span, rfl⟩⟩

/-- Of two spans, the one that starts later stands behind the other or inside it. -/
theorem behind_or_inside {tokens : List Token} {a b c d : Nat} (later : a < b)
    (ha : findEnd tokens a = .ok c) (hb : findEnd tokens b = .ok d) : c < b ∨ d < c := by
  obtain ⟨first, inner, close, tail, shape, span, rfl⟩ := findEnd_ok_iff.mp ha
  obtain ⟨first', inner', close', tail', shape', span', rfl⟩ := findEnd_ok_iff.mp hb
  by_cases behind : a + inner.length + 1 < b
  · exact .inl behind
  · right
    obtain ⟨k, rfl⟩ : ∃ k, b = a + 1 + k := ⟨b - (a + 1), by omega⟩
    have short : k ≤ inner.length := by omega
    have rest : (inner ++ close :: tail).drop k = first' :: (inner' ++ close' :: tail') := by
      rw [← shape', ← List.drop_drop, ← List.drop_drop, shape]
      rfl
    rw [List.drop_append_of_le_length short] at rest
    have opens : first'.signal.isBegin = true := by rw [Signal.isBegin, span'.closing]; rfl
    cases within : inner.drop k with
    | nil =>
      rw [within] at rest
      obtain ⟨rfl, -⟩ := List.cons.inj rest
      have closes := Signal.isEnd_of_closing span.closing
      simp [Signal.isBegin_of_isEnd closes] at opens
    | cons head more =>
      rw [within] at rest
      obtain ⟨rfl, remaining⟩ := List.cons.inj rest
      -- Inside, the later span ends too, and both ends are found by the same count.
      have cut : inner = inner.take k ++ head :: more := by rw [← within, List.take_append_drop]
      obtain ⟨body, last, behind', rfl, span''⟩ := span_of_wellNested span.nested cut opens
      have once : (inner'.length + 1 : Nat) = body.length + 1 := by
        have count : lengthAfter 0 head (inner' ++ close' :: tail') = .ok (inner'.length + 1) :=
          lengthAfter_ok_iff.mpr ⟨inner', close', tail', rfl, span', rfl⟩
        have count' : lengthAfter 0 head (body ++ last :: (behind' ++ close :: tail)) =
            .ok (body.length + 1) :=
          lengthAfter_ok_iff.mpr ⟨body, last, behind' ++ close :: tail, rfl, span'', rfl⟩
        have regrouped : inner' ++ close' :: tail' = body ++ last :: (behind' ++ close :: tail) := by
          rw [← remaining]
          simp
        rw [regrouped, count'] at count
        exact (Except.ok.inj count).symm
      have size := congrArg List.length within
      simp only [List.length_drop, List.length_cons, List.length_append] at size
      omega

/-! ## What is reported -/

/-- What is checked with nothing open fails behind whole elements: at a closing token, or in the
span that an opening token opens. -/
theorem checkFrom_error {index : Nat} {tokens : List Token} {e : SpanError}
    (h : checkFrom [] index tokens = .error e) :
    ∃ front t rest, tokens = front ++ t :: rest ∧ WellNested front ∧
      (t.signal.isEnd = true ∧ e = .unexpectedEnd t.signal t.name (index + front.length) ∨
        t.signal.isBegin = true ∧ lengthAfter (index + front.length) t rest = .error e) := by
  induction size : tokens.length using Nat.strongRecOn generalizing index tokens with
  | ind length ih =>
    cases tokens with
    | nil => cases h
    | cons first rest =>
      cases closes : first.signal.isEnd with
      | true =>
        rw [checkFrom_closing closes] at h
        obtain rfl := Except.error.inj h
        exact ⟨[], first, rest, rfl, .nil, .inl ⟨closes, rfl⟩⟩
      | false =>
        rw [checkFrom_cons closes] at h
        cases counted : elementLengthAfter index first rest with
        | error e' =>
          simp only [counted] at h
          obtain rfl := Except.error.inj h
          rw [elementLengthAfter] at counted
          by_cases opens : first.signal.isBegin = true
          · rw [if_pos opens] at counted
            exact ⟨[], first, rest, rfl, .nil, .inr ⟨opens, counted⟩⟩
          · rw [if_neg opens] at counted
            cases counted
        | ok n =>
          -- The element is passed; what fails stands behind it.
          obtain ⟨more, tail, rfl, element, rfl⟩ := elementLengthAfter_ok_iff.mp counted
          simp only [counted, List.drop_left] at h
          have shorter : tail.length < length := by
            simp only [← size, List.length_cons, List.length_append]
            omega
          obtain ⟨front, t, rest, rfl, nested, why⟩ := ih tail.length shorter h rfl
          have place : index + more.length + 1 + front.length =
              index + (first :: more ++ front).length := by
            simp only [List.length_cons, List.length_append]
            omega
          rw [place] at why
          refine ⟨first :: more ++ front, t, rest, ?_, (element.wellNested closes).append nested, why⟩
          simp only [List.cons_append, List.append_assoc]

/-- An error other than that of a closing token with nothing open is found again by the
search from the opening token of the element at fault. -/
theorem findEnd_of_checkFrom {tokens : List Token} {start : Nat} {e : SpanError}
    (h : checkFrom [] start (tokens.drop start) = .error e)
    (kind : ∀ signal name index, e ≠ .unexpectedEnd signal name index) :
    ∃ b first, tokens[b]? = some first ∧ first.signal.isBegin = true ∧
      findEnd tokens b = .error e := by
  obtain ⟨front, first, rest, cut, -, ⟨-, rfl⟩ | ⟨opens, failed⟩⟩ := checkFrom_error h
  · exact absurd rfl (kind _ _ _)
  · have behind : tokens.drop (start + front.length) = first :: rest := by
      rw [← List.drop_drop, cut, List.drop_left]
    refine ⟨start + front.length, first, ?_, opens, ?_⟩
    · rw [← List.head?_drop, behind, List.head?_cons]
    · simp only [findEnd, behind, failed]
      rfl

/-- The search with a plain stack of the closing tokens that are expected, which the first
token finds empty. -/
def search (unclosed : SpanError) (expected : List Signal) (index : Nat) :
    List Token → Except SpanError Nat
  | [] => .error unclosed
  | t :: rest =>
    match t.signal.closing with
    | some close => search unclosed (close :: expected) (index + 1) rest
    | none =>
      if t.signal.isEnd then
        match expected with
        | [] => .error (.unexpectedEnd t.signal t.name index)
        | want :: outer =>
          if want = t.signal then
            if outer.isEmpty then .ok index else search unclosed outer (index + 1) rest
          else .error (.mismatchedEnd want t.signal t.name index)
      else search unclosed expected (index + 1) rest

/-- Behind an opening token the stack is never found empty. -/
theorem search_eq_countToEnd (unclosed : SpanError) (innermost : Signal) (outer : List Signal)
    (index : Nat) (tokens : List Token) :
    search unclosed (innermost :: outer) (index + 1) tokens =
      (countToEnd unclosed innermost outer (index + 1) tokens).map (index + ·) := by
  induction tokens generalizing innermost outer index with
  | nil => rfl
  | cons t rest ih =>
    have onward (top : Signal) (below : List Signal) :
        search unclosed (top :: below) (index + 1 + 1) rest =
          ((countToEnd unclosed top below (index + 1 + 1) rest).map (· + 1)).map (index + ·) := by
      rw [ih]
      cases countToEnd unclosed top below (index + 1 + 1) rest with
      | error e => rfl
      | ok n =>
        show Except.ok (index + 1 + n) = Except.ok (index + (n + 1))
        rw [Nat.add_right_comm, Nat.add_assoc]
    cases opens : t.signal.closing with
    | some close =>
      rw [countToEnd_opening opens, ← onward]
      simp only [search, opens]
    | none =>
      cases closes : t.signal.isEnd with
      | false =>
        rw [countToEnd_plain opens closes, ← onward]
        simp only [search, opens, closes, Bool.false_eq_true, if_false]
      | true =>
        by_cases same : innermost = t.signal
        · subst same
          cases outer with
          | nil =>
            rw [countToEnd_last opens closes]
            simp [search, opens, closes]
            rfl
          | cons next others =>
            rw [countToEnd_closing opens closes, ← onward]
            simp [search, opens, closes]
        · rw [countToEnd.eq_def]
          simp only [search, opens, closes, if_true, if_neg same, if_neg (Ne.symm same)]
          rfl

/-- The search that starts with an empty stack finds what the count finds. -/
theorem findEnd_eq_search {tokens : List Token} {start : Nat} {first : Token}
    (found : tokens[start]? = some first) (opens : first.signal.isBegin = true) :
    findEnd tokens start =
      search (.unbalanced first.signal first.name start) [] start (tokens.drop start) := by
  obtain ⟨close, closing⟩ := Option.isSome_iff_exists.mp opens
  rw [findEnd_eq found, drop_of_getElem? found]
  simp only [lengthAfter, closing, search, search_eq_countToEnd]

/-- As long as a span is open, no closing token closes nothing. -/
theorem search_ne_unexpectedEnd {unclosed : SpanError}
    (kind : ∀ signal name index, unclosed ≠ .unexpectedEnd signal name index) (innermost : Signal)
    (outer : List Signal) (index : Nat) (tokens : List Token) (signal : Signal) (name : String)
    (place : Nat) :
    search unclosed (innermost :: outer) index tokens ≠
      .error (.unexpectedEnd signal name place) := by
  induction tokens generalizing innermost outer index with
  | nil =>
    intro h
    exact kind _ _ _ (Except.error.inj h)
  | cons t rest ih =>
    intro h
    cases opens : t.signal.closing with
    | some close =>
      simp only [search, opens] at h
      exact ih _ _ _ h
    | none =>
      cases closes : t.signal.isEnd with
      | false =>
        simp only [search, opens, closes, Bool.false_eq_true, if_false] at h
        exact ih _ _ _ h
      | true =>
        simp only [search, opens, closes, if_true] at h
        by_cases same : innermost = t.signal
        · rw [if_pos same] at h
          cases outer with
          | nil => simp at h
          | cons next below => exact ih next below _ h
        · simp [if_neg same] at h

theorem findEnd_ne_unexpectedEnd (tokens : List Token) (start : Nat) (signal : Signal)
    (name : String) (index : Nat) :
    findEnd tokens start ≠ .error (.unexpectedEnd signal name index) := by
  cases found : tokens[start]? with
  | none =>
    simp [findEnd, List.drop_eq_nil_of_le (List.getElem?_eq_none_iff.mp found)]
  | some first =>
    cases closing : first.signal.closing with
    | none =>
      rw [findEnd_eq found, lengthAfter, closing]
      intro h
      cases h
    | some close =>
      have opens : first.signal.isBegin = true := by rw [Signal.isBegin, closing]; rfl
      rw [findEnd_eq_search found opens, drop_of_getElem? found]
      simp only [search, closing]
      exact search_ne_unexpectedEnd (by simp) _ _ _ _ _ _ _

/-! ## Agreement -/

/-- The check of a list and the search for the ends of its spans agree: the list passes
exactly when it is walked from element to element; then every opening token opens a span
and two spans are apart or one is inside the other; and an error that is not that of a
closing token with nothing open, which the search never has, is found by the search too. -/
theorem checkNesting_agrees (tokens : List Token) :
    (checkNesting tokens = .ok () ↔ Walks tokens 0) ∧
    (checkNesting tokens = .ok () →
      (∀ b first, tokens[b]? = some first → first.signal.isBegin = true →
        ∃ last, findEnd tokens b = .ok last) ∧
      ∀ a b c d, a ≠ b → findEnd tokens a = .ok c → findEnd tokens b = .ok d →
        (c < b ∨ d < a) ∨ (a < b ∧ d < c ∨ b < a ∧ c < d)) ∧
    (∀ e, checkNesting tokens = .error e →
      (∀ signal name index, e ≠ .unexpectedEnd signal name index) →
      ∃ b first, tokens[b]? = some first ∧ first.signal.isBegin = true ∧
        findEnd tokens b = .error e) ∧
    ∀ b signal name index, findEnd tokens b ≠ .error (.unexpectedEnd signal name index) := by
  refine ⟨(walks_iff (Nat.zero_le _)).symm, ?_, ?_, findEnd_ne_unexpectedEnd tokens⟩
  · intro passes
    have nested := checkFrom_ok_iff.mp passes
    refine ⟨?_, ?_⟩
    · intro b first found opens
      have rest := drop_of_getElem? found
      have cut : tokens = tokens.take b ++ first :: tokens.drop (b + 1) := by
        rw [← rest, List.take_append_drop]
      obtain ⟨inner, close, tail, shape, span⟩ := span_of_wellNested nested cut opens
      exact ⟨_, findEnd_ok_iff.mpr ⟨first, inner, close, tail, by rw [rest, shape], span, rfl⟩⟩
    · intro a b c d apart ha hb
      rcases Nat.lt_or_gt_of_ne apart with later | later
      · have := behind_or_inside later ha hb
        omega
      · have := behind_or_inside later hb ha
        omega
  · intro e failed kind
    have whole : checkFrom [] 0 (tokens.drop 0) = .error e := failed
    exact findEnd_of_checkFrom whole kind

/-- A group that ends like variable-length data, a message that does not end, and a message
in order. -/
theorem checkNesting_agrees_small :
    let message : Token := { signal := .beginMessage, name := "m" }
    let group : Token := { signal := .beginGroup, name := "g" }
    let endData : Token := { signal := .endVarData, name := "d" }
    let endGroup : Token := { signal := .endGroup, name := "g" }
    let endMessage : Token := { signal := .endMessage, name := "m" }
    (∃ b first, [message, group, endData, endMessage][b]? = some first ∧
      first.signal.isBegin = true ∧ findEnd [message, group, endData, endMessage] b =
        .error (.mismatchedEnd .endGroup .endVarData "d" 2)) ∧
    (∃ b first, [message, group, endGroup][b]? = some first ∧ first.signal.isBegin = true ∧
      findEnd [message, group, endGroup] b = .error (.unbalanced .beginMessage "m" 0)) ∧
    ∃ last, findEnd [message, group, endGroup, endMessage] 1 = .ok last ∧ (3 < 1 ∨ last < 0 ∨
      0 < 1 ∧ last < 3) := by
  intro message group endData endGroup endMessage
  have mismatched := (checkNesting_agrees [message, group, endData, endMessage]).2.2.1
    (.mismatchedEnd .endGroup .endVarData "d" 2) rfl (by simp)
  have unclosed := (checkNesting_agrees [message, group, endGroup]).2.2.1
    (.unbalanced .beginMessage "m" 0) rfl (by simp)
  obtain ⟨closed, apart⟩ :=
    (checkNesting_agrees [message, group, endGroup, endMessage]).2.1 rfl
  obtain ⟨last, found⟩ := closed 1 group rfl rfl
  have inside := apart 0 1 3 last (by decide) rfl found
  exact ⟨mismatched, unclosed, last, found, by omega⟩

end Flyweight.Span
