import Flyweight.Proofs.Span.Agreement

/- The search for the end of a span is exact and local.

   What a list leaves open is a stack of closing roles (`openAfter`): a well-nested list
   leaves the stack as it was, and a closing token that is not the one on top leaves no
   stack at all. The search from an opening token keeps this stack, so that

   1. it finds the end of a span exactly where the tokens from its start on are a span,
      and no token outside that span has any influence;
   2. where there is no such span, what it reports is the first closing token that is not
      the one on top, or, if no closing token is wrong, the opening token it started from.

   Spans and wrong closing tokens are stated by the way the list is put together
   (`SpanAt`, `MismatchAt`), with no stack. -/

namespace Flyweight.Span

/-! ## The spans that a list leaves open -/

/-- The closing roles of the spans that are open behind a list, innermost first, where
`opened` are those open before it. There are none if a closing token of the list is not
that of the innermost open span. -/
def openAfter (opened : List Signal) : List Token → Option (List Signal)
  | [] => some opened
  | t :: rest =>
    match t.signal.closing with
    | some close => openAfter (close :: opened) rest
    | none =>
      if t.signal.isEnd then
        match opened with
        | [] => none
        | innermost :: outer => if t.signal = innermost then openAfter outer rest else none
      else openAfter opened rest

theorem openAfter_opening {opened : List Signal} {t : Token} {close : Signal} {rest : List Token}
    (opens : t.signal.closing = some close) :
    openAfter opened (t :: rest) = openAfter (close :: opened) rest := by
  simp only [openAfter, opens]

theorem openAfter_plain {opened : List Signal} {t : Token} {rest : List Token}
    (opens : t.signal.closing = none) (closes : t.signal.isEnd = false) :
    openAfter opened (t :: rest) = openAfter opened rest := by
  simp [openAfter, opens, closes]

/-- A closing token closes the innermost open span or is wrong. -/
theorem openAfter_closing {innermost : Signal} {outer : List Signal} {t : Token}
    {rest : List Token} (closes : t.signal.isEnd = true) :
    openAfter (innermost :: outer) (t :: rest) =
      if t.signal = innermost then openAfter outer rest else none := by
  have opens : t.signal.closing = none := by
    simpa [Signal.isBegin] using Signal.isBegin_of_isEnd closes
  simp only [openAfter, opens, closes, if_true]

/-- A list is read from the stack that the list before it leaves. -/
theorem openAfter_append (opened : List Signal) (front back : List Token) :
    openAfter opened (front ++ back) =
      (openAfter opened front).bind fun between => openAfter between back := by
  induction front generalizing opened with
  | nil => rfl
  | cons t rest ih =>
    rw [List.cons_append]
    cases opens : t.signal.closing with
    | some close => rw [openAfter_opening opens, openAfter_opening opens, ih]
    | none =>
      cases closes : t.signal.isEnd with
      | false => rw [openAfter_plain opens closes, openAfter_plain opens closes, ih]
      | true =>
        cases opened with
        | nil => simp [openAfter, opens, closes]
        | cons innermost outer =>
          rw [openAfter_closing closes, openAfter_closing closes]
          split
          · exact ih outer
          · rfl

/-- A well-nested list leaves open what was open before it. -/
theorem openAfter_wellNested {tokens : List Token} (h : WellNested tokens)
    (opened : List Signal) : openAfter opened tokens = some opened := by
  induction h generalizing opened with
  | nil => rfl
  | plain opens closes _ ih => rw [openAfter_plain opens closes, ih]
  | @span first last inner rest closing _ _ ihInner ihRest =>
    have closes := (closing_of_closes closing).2
    rw [openAfter_opening closing, openAfter_append, ihInner, Option.bind_some,
      openAfter_closing closes, if_pos rfl, ihRest]

/-- How a list that leaves spans open is put together: each of them starts behind the one
around it, and what else stands between their opening tokens is well nested. -/
inductive Pending : List Signal → List Token → Prop where
  | closed {tokens : List Token} (nested : WellNested tokens) : Pending [] tokens
  | within {outer : List Signal} {before inner : List Token} {first : Token} {close : Signal}
    (around : Pending outer before) (opens : first.signal.closing = some close)
    (nested : WellNested inner) : Pending (close :: outer) (before ++ first :: inner)

theorem Pending.append {opened : List Signal} {front back : List Token}
    (h : Pending opened front) (nested : WellNested back) : Pending opened (front ++ back) := by
  cases h with
  | closed inside => exact .closed (inside.append nested)
  | @within outer before inner first close around opens inside =>
    rw [List.append_assoc, List.cons_append]
    exact .within around opens (inside.append nested)

/-- One more token is read, behind which there is a stack again. -/
theorem Pending.step {before opened : List Signal} {front : List Token} {t : Token}
    (h : Pending before front) (reads : openAfter before [t] = some opened) :
    Pending opened (front ++ [t]) := by
  cases opens : t.signal.closing with
  | some close =>
    rw [openAfter_opening opens] at reads
    obtain rfl : close :: before = opened := Option.some.inj reads
    exact .within h opens .nil
  | none =>
    cases closes : t.signal.isEnd with
    | false =>
      rw [openAfter_plain opens closes] at reads
      obtain rfl : before = opened := Option.some.inj reads
      exact h.append (.single opens closes)
    | true =>
      cases h with
      | closed nested => simp [openAfter, opens, closes] at reads
      | @within outer around inner first close pending closing nested =>
        rw [openAfter_closing closes] at reads
        split at reads
        · rename_i same
          obtain rfl : outer = opened := Option.some.inj reads
          -- The innermost open span is closed, and is part of what the next one holds.
          rw [List.append_assoc, List.cons_append]
          apply pending.append
          exact .span (by rw [closing, same]) nested .nil
        · cases reads

theorem Pending.read {before opened : List Signal} {front back : List Token}
    (h : Pending before front) (reads : openAfter before back = some opened) :
    Pending opened (front ++ back) := by
  induction back generalizing before front with
  | nil =>
    obtain rfl : before = opened := Option.some.inj reads
    rwa [List.append_nil]
  | cons t rest ih =>
    rw [List.append_cons]
    rw [← List.singleton_append, openAfter_append] at reads
    obtain ⟨between, first, others⟩ := Option.bind_eq_some_iff.mp reads
    exact ih (h.step first) others

/-- The innermost of the spans that a list leaves open. -/
theorem innermost_of_openAfter {tokens : List Token} {awaited : Signal} {outer : List Signal}
    (h : openAfter [] tokens = some (awaited :: outer)) :
    ∃ before first inner, tokens = before ++ first :: inner ∧
      first.signal.closing = some awaited ∧ WellNested inner := by
  have pending : Pending (awaited :: outer) ([] ++ tokens) := (Pending.closed .nil).read h
  rw [List.nil_append] at pending
  cases pending with
  | within _ opens nested => exact ⟨_, _, _, rfl, opens, nested⟩

/-! ## Positions -/

/-- The tokens from `start` to `last` are a span. -/
def SpanAt (tokens : List Token) (start last : Nat) : Prop :=
  ∃ before first inner close after, tokens = before ++ first :: (inner ++ close :: after) ∧
    IsSpan first inner close ∧ before.length = start ∧ start + inner.length + 1 = last

/-- The token at `place` closes a span, but not the innermost of those that were opened
from `start` on and are open there, which waits for `awaited`. -/
def MismatchAt (tokens : List Token) (start place : Nat) (awaited : Signal) (t : Token) : Prop :=
  ∃ before first inner after, tokens = before ++ first :: (inner ++ t :: after) ∧
    start ≤ before.length ∧ before.length + 1 + inner.length = place ∧
    first.signal.closing = some awaited ∧ WellNested inner ∧ t.signal.isEnd = true ∧
    t.signal ≠ awaited

theorem findEnd_ok_iff_spanAt {tokens : List Token} {start last : Nat} :
    findEnd tokens start = .ok last ↔ SpanAt tokens start last := by
  rw [findEnd_ok_iff]
  constructor
  · intro given
    obtain ⟨first, inner, close, after, shape, span, rfl⟩ := given
    have inside : start < tokens.length := by
      have size := congrArg List.length shape
      simp only [List.length_drop, List.length_cons] at size
      omega
    refine ⟨tokens.take start, first, inner, close, after, ?_, span, ?_, rfl⟩
    · rw [← shape, List.take_append_drop]
    · rw [List.length_take]
      omega
  · intro given
    obtain ⟨before, first, inner, close, after, rfl, span, rfl, rfl⟩ := given
    exact ⟨first, inner, close, after, List.drop_left, span, rfl⟩

/-- A wrong token closes spans and stands at its place. -/
theorem MismatchAt.isEnd {tokens : List Token} {start place : Nat} {awaited : Signal} {t : Token}
    (h : MismatchAt tokens start place awaited t) :
    tokens[place]? = some t ∧ t.signal.isEnd = true := by
  obtain ⟨before, first, inner, after, rfl, -, rfl, -, -, closes, -⟩ := h
  refine ⟨?_, closes⟩
  rw [List.getElem?_append_right (by omega)]
  have behind : before.length + 1 + inner.length - before.length = inner.length + 1 := by omega
  rw [behind, List.getElem?_cons_succ, List.getElem?_append_right (Nat.le_refl _), Nat.sub_self,
    List.getElem?_cons_zero]

/-- Where a closing token is wrong there is no stack any more. -/
theorem openAfter_mismatch {first t : Token} {awaited : Signal} {inner : List Token}
    (opens : first.signal.closing = some awaited) (nested : WellNested inner)
    (closes : t.signal.isEnd = true) (other : t.signal ≠ awaited) (opened : List Signal)
    (before after : List Token) :
    openAfter opened (before ++ first :: (inner ++ t :: after)) = none := by
  rw [openAfter_append]
  cases openAfter opened before with
  | none => rfl
  | some outer =>
    rw [Option.bind_some, openAfter_opening opens, openAfter_append,
      openAfter_wellNested nested, Option.bind_some, openAfter_closing closes, if_neg other]

/-- A closing token that is not the one on top of the stack is wrong. -/
theorem mismatchAt_of_openAfter {tokens front more : List Token} {start : Nat} {t : Token}
    {awaited : Signal} {below : List Signal} (read : tokens.drop start = front ++ t :: more)
    (leaves : openAfter [] front = some (awaited :: below)) (closes : t.signal.isEnd = true)
    (other : t.signal ≠ awaited) : MismatchAt tokens start (start + front.length) awaited t := by
  obtain ⟨before, first, inner, rfl, opens, nested⟩ := innermost_of_openAfter leaves
  have skipped : (tokens.take start).length = start := by
    have size := congrArg List.length read
    simp only [List.length_append, List.length_cons, List.length_drop] at size
    rw [List.length_take]
    omega
  refine ⟨tokens.take start ++ before, first, inner, more, ?_, ?_, ?_, opens, nested, closes, other⟩
  · calc tokens = tokens.take start ++ tokens.drop start := (List.take_append_drop _ _).symm
      _ = tokens.take start ++ before ++ first :: (inner ++ t :: more) := by
        rw [read]
        simp only [List.append_assoc, List.cons_append]
  · rw [List.length_append]
    omega
  · simp only [List.length_append, List.length_cons, skipped]
    omega

/-- What is read with a stack behind it has no wrong closing token in it. -/
theorem le_of_mismatchAt {tokens front back : List Token} {opened : List Signal}
    {start place : Nat} {awaited : Signal} {t : Token} (read : tokens.drop start = front ++ back)
    (leaves : openAfter [] front = some opened)
    (mismatch : MismatchAt tokens start place awaited t) : start + front.length ≤ place := by
  obtain ⟨ahead, first, inner, after, rfl, late, rfl, opens, nested, closes, other⟩ := mismatch
  rw [List.drop_append_of_le_length late] at read
  -- Otherwise the wrong token is one of those that were read.
  refine Nat.le_of_not_lt fun early => ?_
  have whole : ahead.drop start ++ first :: (inner ++ [t]) <+: front ++ back := by
    rw [← read]
    exact ⟨after, by simp⟩
  have reach : ahead.drop start ++ first :: (inner ++ [t]) <+: front := by
    apply List.prefix_of_prefix_length_le whole (List.prefix_append front back)
    simp only [List.length_append, List.length_cons, List.length_nil, List.length_drop]
    omega
  obtain ⟨more, rfl⟩ := reach
  have stuck := openAfter_mismatch opens nested closes other [] (ahead.drop start) more
  simp only [List.append_assoc, List.cons_append, List.nil_append] at leaves
  rw [stuck] at leaves
  cases leaves

/-! ## What is reported -/

/-- Why a count that starts with a stack fails: spans are still open at the end of the tokens,
or a closing token is wrong behind what is read. -/
inductive Stuck (unclosed : SpanError) (opened : List Signal) (index : Nat) (tokens : List Token) :
    SpanError → Prop where
  | ended {left : List Signal} (leaves : openAfter opened tokens = some left) :
    Stuck unclosed opened index tokens unclosed
  | crossed {seen rest : List Token} {t : Token} {awaited : Signal} {below : List Signal}
    (split : tokens = seen ++ t :: rest) (leaves : openAfter opened seen = some (awaited :: below))
    (closes : t.signal.isEnd = true) (other : t.signal ≠ awaited) :
    Stuck unclosed opened index tokens
      (.mismatchedEnd awaited t.signal t.name (index + seen.length))

/-- What fails behind a token fails with that token read. -/
theorem Stuck.cons {unclosed e : SpanError} {opened under : List Signal} {index : Nat} {t : Token}
    {rest : List Token} (reads : ∀ more, openAfter opened (t :: more) = openAfter under more)
    (h : Stuck unclosed under (index + 1) rest e) : Stuck unclosed opened index (t :: rest) e := by
  cases h with
  | ended leaves => exact .ended ((reads rest).trans leaves)
  | @crossed seen after u awaited below split leaves closes other =>
    have place : index + 1 + seen.length = index + (t :: seen).length := by
      rw [List.length_cons]
      omega
    rw [place]
    exact .crossed (by rw [split, List.cons_append]) ((reads seen).trans leaves) closes other

/-- The count fails at the first wrong closing token, or at the end of the tokens with
spans still open. -/
theorem countToEnd_error {unclosed e : SpanError} {innermost : Signal} {outer : List Signal}
    {index : Nat} {tokens : List Token}
    (h : countToEnd unclosed innermost outer index tokens = .error e) :
    Stuck unclosed (innermost :: outer) index tokens e := by
  induction tokens generalizing innermost outer index with
  | nil =>
    obtain rfl := Except.error.inj h
    exact .ended rfl
  | cons t rest ih =>
    cases opens : t.signal.closing with
    | some close =>
      rw [countToEnd_opening opens] at h
      exact .cons (fun _ => openAfter_opening opens) (ih (map_eq_error.mp h))
    | none =>
      cases closes : t.signal.isEnd with
      | false =>
        rw [countToEnd_plain opens closes] at h
        exact .cons (fun _ => openAfter_plain opens closes) (ih (map_eq_error.mp h))
      | true =>
        by_cases same : t.signal = innermost
        · subst same
          cases outer with
          | nil =>
            rw [countToEnd_last opens closes] at h
            cases h
          | cons next below =>
            rw [countToEnd_closing opens closes] at h
            exact .cons (fun _ => by rw [openAfter_closing closes, if_pos rfl])
              (ih (map_eq_error.mp h))
        · rw [countToEnd.eq_def] at h
          simp only [opens, closes, if_true, if_neg same] at h
          obtain rfl := Except.error.inj h
          exact .crossed (List.nil_append _).symm rfl closes same

/-- A wrong closing token behind what is read with a stack is the next one, and the span
that it does not close is on top of the stack. -/
theorem eq_of_mismatchAt {tokens front more : List Token} {start : Nat} {top awaited : Signal}
    {below : List Signal} {next t : Token} (read : tokens.drop start = front ++ next :: more)
    (leaves : openAfter [] front = some (top :: below))
    (mismatch : MismatchAt tokens start (start + front.length) awaited t) :
    awaited = top ∧ t = next := by
  obtain ⟨ahead, first, inner, after, rfl, late, place, opens, nested, closes, other⟩ := mismatch
  rw [List.drop_append_of_le_length late] at read
  have size : (ahead.drop start ++ first :: inner).length = front.length := by
    simp only [List.length_append, List.length_cons, List.length_drop]
    omega
  have regrouped : (ahead.drop start ++ first :: inner) ++ t :: after = front ++ next :: more := by
    rw [← read]
    simp
  obtain ⟨rfl, behind⟩ := List.append_inj regrouped size
  refine ⟨?_, (List.cons.inj behind).1⟩
  rw [openAfter_append] at leaves
  obtain ⟨outer, -, leaves⟩ := Option.bind_eq_some_iff.mp leaves
  rw [openAfter_opening opens, openAfter_wellNested nested] at leaves
  exact (List.cons.inj (Option.some.inj leaves)).1

/-- What the search from an opening token reports when it fails: the first wrong closing
token, if there is one, and the opening token otherwise. -/
theorem findEnd_error {tokens : List Token} {start : Nat} {first : Token} {e : SpanError}
    (found : tokens[start]? = some first) (opens : first.signal.isBegin = true)
    (h : findEnd tokens start = .error e) :
    (e = .unbalanced first.signal first.name start ∧
        ∀ place awaited t, ¬ MismatchAt tokens start place awaited t) ∨
      ∃ place awaited t, e = .mismatchedEnd awaited t.signal t.name place ∧
        MismatchAt tokens start place awaited t ∧
        ∀ place' awaited' t', MismatchAt tokens start place' awaited' t' →
          place ≤ place' ∧ (place = place' → awaited' = awaited ∧ t' = t) := by
  obtain ⟨close, closing⟩ := Option.isSome_iff_exists.mp opens
  have rest := drop_of_getElem? found
  have failed : countToEnd (.unbalanced first.signal first.name start) close [] (start + 1)
      (tokens.drop (start + 1)) = .error e := by
    rw [findEnd_eq found, lengthAfter, closing] at h
    exact map_eq_error.mp h
  cases countToEnd_error failed with
  | ended leaves =>
    refine .inl ⟨rfl, fun place awaited t mismatch => ?_⟩
    -- The whole list was read, so a wrong closing token would stand behind its end.
    have read : tokens.drop start = first :: tokens.drop (start + 1) ++ [] := by
      rw [rest, List.append_nil]
    have late := le_of_mismatchAt read (by rw [openAfter_opening closing, leaves]) mismatch
    obtain ⟨ahead, f, inner, after, shape, -, rfl, -⟩ := mismatch
    have size := congrArg List.length shape
    have inside := (List.getElem?_eq_some_iff.mp found).1
    simp only [List.length_append, List.length_cons, List.length_drop] at size late
    omega
  | @crossed seen more t awaited below split leaves closes other =>
    have read : tokens.drop start = first :: seen ++ t :: more := by
      rw [rest, split, List.cons_append]
    have stack : openAfter [] (first :: seen) = some (awaited :: below) := by
      rw [openAfter_opening closing, leaves]
    have at_ : start + (first :: seen).length = start + 1 + seen.length := by
      rw [List.length_cons]
      omega
    refine .inr ⟨start + 1 + seen.length, awaited, t, rfl, ?_, ?_⟩
    · rw [← at_]
      exact mismatchAt_of_openAfter read stack closes other
    · intro place' awaited' t' mismatch
      have late := le_of_mismatchAt read stack mismatch
      rw [at_] at late
      refine ⟨late, ?_⟩
      rintro rfl
      rw [← at_] at mismatch
      exact eq_of_mismatchAt read stack mismatch

/-! ## Locality -/

/-- The answer depends on the tokens of the span alone: where the same tokens stand, the
same end is found. -/
theorem findEnd_of_same_span {tokens others : List Token} {start start' last : Nat}
    (h : findEnd tokens start = .ok last)
    (same : (others.drop start').take (last + 1 - start) =
      (tokens.drop start).take (last + 1 - start)) :
    findEnd others start' = .ok (start' + (last - start)) := by
  obtain ⟨first, inner, close, after, shape, span, rfl⟩ := findEnd_ok_iff.mp h
  have size : start + inner.length + 1 + 1 - start = (inner.length + 1) + 1 := by omega
  rw [size, shape, List.take_succ_cons, take_span] at same
  refine findEnd_ok_iff.mpr
    ⟨first, inner, close, (others.drop start').drop ((inner.length + 1) + 1), ?_, span, by omega⟩
  calc others.drop start'
      = (others.drop start').take ((inner.length + 1) + 1) ++
          (others.drop start').drop ((inner.length + 1) + 1) := (List.take_append_drop _ _).symm
    _ = first :: (inner ++ close :: (others.drop start').drop ((inner.length + 1) + 1)) := by
      rw [same]
      simp only [List.cons_append, List.append_assoc, List.nil_append]

/-- The end of a span lies in the list, behind its start. -/
theorem findEnd_bounds {tokens : List Token} {start last : Nat}
    (h : findEnd tokens start = .ok last) : start < last ∧ last < tokens.length := by
  obtain ⟨first, inner, close, after, shape, -, rfl⟩ := findEnd_ok_iff.mp h
  have size := congrArg List.length shape
  simp only [List.length_drop, List.length_cons, List.length_append] at size
  omega

/-- What stands behind a span may be anything. -/
theorem findEnd_behind {tokens : List Token} {start last : Nat}
    (h : findEnd tokens start = .ok last) (behind : List Token) :
    findEnd (tokens.take (last + 1) ++ behind) start = .ok last := by
  obtain ⟨before, inside⟩ := findEnd_bounds h
  have kept : (tokens.take (last + 1)).length = last + 1 := by
    rw [List.length_take]
    omega
  have same : ((tokens.take (last + 1) ++ behind).drop start).take (last + 1 - start) =
      (tokens.drop start).take (last + 1 - start) := by
    rw [List.drop_append_of_le_length (by omega), List.drop_take,
      List.take_append_of_le_length (by simp only [List.length_take, List.length_drop]; omega),
      List.take_take, Nat.min_self]
  rw [findEnd_of_same_span h same]
  exact congrArg Except.ok (by omega)

/-- What stands before a span moves it. -/
theorem findEnd_ahead {tokens : List Token} {start last : Nat}
    (h : findEnd tokens start = .ok last) (front : List Token) :
    findEnd (front ++ tokens) (front.length + start) = .ok (front.length + last) := by
  obtain ⟨before, -⟩ := findEnd_bounds h
  rw [findEnd_of_same_span h (by rw [List.drop_append, List.drop_eq_nil_of_le (by omega)]; simp)]
  exact congrArg Except.ok (by omega)

/-! ## Exactness -/

/-- The search finds the end of a span exactly where the tokens from its start on are one,
and there is one end at most. The answer depends on the tokens of the span alone, whatever
stands behind it or before it. An opening token that starts no span is reported itself,
unless a closing token behind it is wrong: then it is the first of these. -/
theorem findEnd_exact (tokens : List Token) (start : Nat) :
    (∀ last, findEnd tokens start = .ok last ↔ SpanAt tokens start last) ∧
    (∀ last last', SpanAt tokens start last → SpanAt tokens start last' → last = last') ∧
    (∀ last, findEnd tokens start = .ok last →
      (∀ others start', (others.drop start').take (last + 1 - start) =
          (tokens.drop start).take (last + 1 - start) →
        findEnd others start' = .ok (start' + (last - start))) ∧
      (∀ behind, findEnd (tokens.take (last + 1) ++ behind) start = .ok last) ∧
      ∀ front, findEnd (front ++ tokens) (front.length + start) = .ok (front.length + last)) ∧
    ∀ first, tokens[start]? = some first → first.signal.isBegin = true →
      (∀ last, ¬ SpanAt tokens start last) →
      (∀ place awaited t, MismatchAt tokens start place awaited t →
        (∀ place' awaited' t', MismatchAt tokens start place' awaited' t' → place ≤ place') →
        findEnd tokens start = .error (.mismatchedEnd awaited t.signal t.name place)) ∧
      ((∀ place awaited t, ¬ MismatchAt tokens start place awaited t) →
        findEnd tokens start = .error (.unbalanced first.signal first.name start)) := by
  refine ⟨fun last => findEnd_ok_iff_spanAt, ?_, ?_, ?_⟩
  · intro last last' here there
    have found := findEnd_ok_iff_spanAt.mpr here
    rw [findEnd_ok_iff_spanAt.mpr there] at found
    exact (Except.ok.inj found).symm
  · intro last found
    exact ⟨fun others start' same => findEnd_of_same_span found same, findEnd_behind found,
      findEnd_ahead found⟩
  · intro first found opens none_
    cases result : findEnd tokens start with
    | ok last => exact absurd (findEnd_ok_iff_spanAt.mp result) (none_ last)
    | error e =>
      rcases findEnd_error found opens result with ⟨rfl, right⟩ |
        ⟨place, awaited, t, rfl, wrong, foremost⟩
      · refine ⟨fun place awaited t mismatch _ => ?_, fun _ => rfl⟩
        exact absurd mismatch (right place awaited t)
      · refine ⟨fun place' awaited' t' mismatch least => ?_, fun right => ?_⟩
        · obtain ⟨early, alike⟩ := foremost place' awaited' t' mismatch
          have same : place = place' := Nat.le_antisymm early (least place awaited t wrong)
          obtain ⟨rfl, rfl⟩ := alike same
          rw [same]
        · exact absurd wrong (right place awaited t)

/-- A group around a composite, with a token behind it; a group in which a composite is not
closed; and a group that does not end. -/
theorem findEnd_exact_small :
    let group : Token := { signal := .beginGroup, name := "g" }
    let composite : Token := { signal := .beginComposite, name := "c" }
    let plain : Token := { signal := .encoding, name := "e" }
    let endComposite : Token := { signal := .endComposite, name := "c" }
    let endGroup : Token := { signal := .endGroup, name := "g" }
    SpanAt [group, composite, plain, endComposite, endGroup, plain] 0 4 ∧
    findEnd [plain, group, composite, plain, endComposite, endGroup, endGroup] 1 = .ok 5 ∧
    findEnd [group, composite, endGroup, endComposite] 0 =
      .error (.mismatchedEnd .endComposite .endGroup "g" 2) ∧
    findEnd [group, plain] 0 = .error (.unbalanced .beginGroup "g" 0) := by
  intro group composite plain endComposite endGroup
  have found : findEnd [group, composite, plain, endComposite, endGroup, plain] 0 = .ok 4 := rfl
  have whole := findEnd_exact [group, composite, plain, endComposite, endGroup, plain] 0
  have crossed := findEnd_exact [group, composite, endGroup, endComposite] 0
  have unclosed := findEnd_exact [group, plain] 0
  refine ⟨(whole.1 4).mp found, ?_, ?_, ?_⟩
  · exact (whole.2.2.1 4 found).1 _ 1 rfl
  · refine (crossed.2.2.2 group rfl rfl ?_).1 2 .endComposite endGroup ?_ ?_
    · intro last span
      exact nomatch (crossed.1 last).mpr span
    · exact ⟨[group], composite, [], [endComposite], rfl, by decide, rfl, rfl, .nil, rfl, by decide⟩
    · intro place' awaited' t' mismatch
      obtain ⟨there, closes⟩ := mismatch.isEnd
      match place' with
      | 0 =>
        obtain rfl := Option.some.inj there
        cases closes
      | 1 =>
        obtain rfl := Option.some.inj there
        cases closes
      | _ + 2 => omega
  · refine (unclosed.2.2.2 group rfl rfl ?_).2 ?_
    · intro last span
      exact nomatch (unclosed.1 last).mpr span
    · intro place awaited t mismatch
      obtain ⟨there, closes⟩ := mismatch.isEnd
      match place with
      | 0 =>
        obtain rfl := Option.some.inj there
        cases closes
      | 1 =>
        obtain rfl := Option.some.inj there
        cases closes
      | _ + 2 => cases there

end Flyweight.Span
