import Flyweight.Proofs.Span.Exactness

/- What the check of a list reports, and where.

   A prefix is beyond repair when no continuation makes it well nested. That is so exactly
   when it leaves no stack (`extendable_iff`). The check

   1. passes well-nested lists and nothing else;
   2. stops at the last token of the shortest prefix beyond repair, if there is one. That
      token closes a span; the span it fails to close is the innermost of those left open
      before it;
   3. reports otherwise the outermost of the spans that the list leaves open.

   Spans left open are stated by the ends that are missing (`LeftOpen`), with no stack. -/

namespace Flyweight.Span

/-- With some continuation the list is well nested. -/
def Extendable (front : List Token) : Prop := ∃ more, WellNested (front ++ more)

/-- The token at `place` opens a span that has no end in the list. -/
structure LeftOpen (tokens : List Token) (place : Nat) (first : Token) : Prop where
  found : tokens[place]? = some first
  opens : first.signal.isBegin = true
  unclosed : ∀ last, ¬ SpanAt tokens place last

/-- The shortest prefix beyond repair ends with the token `t` at `place`. -/
structure BreaksAt (tokens : List Token) (place : Nat) (t : Token) : Prop where
  found : tokens[place]? = some t
  broken : ¬ Extendable (tokens.take (place + 1))
  sound : ∀ k ≤ place, Extendable (tokens.take k)

/-! ## Lists that have a continuation -/

theorem Extendable.prefix {front back : List Token} (h : Extendable (front ++ back)) :
    Extendable front := by
  obtain ⟨more, nested⟩ := h
  refine ⟨back ++ more, ?_⟩
  rwa [← List.append_assoc]

theorem Extendable.take {front : List Token} (h : Extendable front) (k : Nat) :
    Extendable (front.take k) := by
  apply Extendable.prefix
  rwa [List.take_append_drop]

/-- The spans left open can be closed, innermost first. -/
theorem Pending.extendable {opened : List Signal} {front : List Token} (h : Pending opened front) :
    Extendable front := by
  -- Any well-nested list that follows is part of what the innermost open span holds.
  have closed : ∀ behind, WellNested behind → Extendable (front ++ behind) := by
    induction h with
    | closed nested =>
      intro behind follows
      refine ⟨[], ?_⟩
      rw [List.append_nil]
      exact nested.append follows
    | @within outer before inner first close _ opens nested ih =>
      intro behind follows
      let last : Token := { signal := close, name := "" }
      have span : WellNested (first :: (inner ++ behind ++ [last])) := by
        apply IsSpan.wellNested
        exact ⟨opens, nested.append follows⟩
      obtain ⟨more, whole⟩ := ih _ span
      refine ⟨last :: more, ?_⟩
      simpa using whole
  have whole := closed [] .nil
  rwa [List.append_nil] at whole

/-- A list has a continuation exactly when it leaves a stack. -/
theorem extendable_iff {front : List Token} :
    Extendable front ↔ ∃ opened, openAfter [] front = some opened := by
  constructor
  · intro h
    obtain ⟨more, nested⟩ := h
    have whole := openAfter_wellNested nested []
    rw [openAfter_append] at whole
    obtain ⟨opened, leaves, -⟩ := Option.bind_eq_some_iff.mp whole
    exact ⟨opened, leaves⟩
  · intro h
    obtain ⟨opened, leaves⟩ := h
    have pending : Pending opened ([] ++ front) := (Pending.closed .nil).read leaves
    exact pending.extendable

/-- Behind a token that closes nothing there is no stack. -/
theorem openAfter_stray {t : Token} {rest : List Token} (closes : t.signal.isEnd = true) :
    openAfter [] (t :: rest) = none := by
  have opens : t.signal.closing = none := by
    simpa [Signal.isBegin] using Signal.isBegin_of_isEnd closes
  simp [openAfter, opens, closes]

/-! ## Spans left open -/

theorem not_leftOpen_of_wellNested {tokens : List Token} (h : WellNested tokens) (place : Nat)
    (first : Token) : ¬ LeftOpen tokens place first := by
  intro given
  obtain ⟨last, found⟩ := findEnd_of_wellNested h given.found given.opens
  exact given.unclosed last (findEnd_ok_iff_spanAt.mp found)

/-- Behind what is well nested, spans are left open behind it only. -/
theorem LeftOpen.behind {front rest : List Token} {place : Nat} {first : Token}
    (h : LeftOpen (front ++ rest) place first) (nested : WellNested front) :
    front.length ≤ place := by
  apply Nat.le_of_not_lt
  intro early
  have there : front[place]? = some first := by
    rw [← List.getElem?_append_left early]
    exact h.found
  obtain ⟨last, found⟩ := findEnd_of_wellNested nested there h.opens
  have inside := (findEnd_bounds found).2
  have still := findEnd_behind found (front.drop (last + 1) ++ rest)
  rw [← List.append_assoc, List.take_append_drop] at still
  exact h.unclosed last (findEnd_ok_iff_spanAt.mp still)

/-- In what is well nested behind an opening token, every span ends. -/
theorem LeftOpen.ahead {before inner : List Token} {first : Token} {place : Nat} {other : Token}
    (h : LeftOpen (before ++ first :: inner) place other) (nested : WellNested inner) :
    place ≤ before.length := by
  apply Nat.le_of_not_lt
  intro late
  obtain ⟨k, rfl⟩ : ∃ k, place = (before ++ [first]).length + k := by
    refine ⟨place - (before ++ [first]).length, ?_⟩
    rw [List.length_append, List.length_singleton]
    omega
  have there : inner[k]? = some other := by
    have found := h.found
    rw [List.append_cons, List.getElem?_append_right (Nat.le_add_right _ _),
      Nat.add_sub_cancel_left] at found
    exact found
  obtain ⟨last, found⟩ := findEnd_of_wellNested nested there h.opens
  have moved := findEnd_ahead found (before ++ [first])
  rw [← List.append_cons] at moved
  exact h.unclosed _ (findEnd_ok_iff_spanAt.mp moved)

/-- An opening token with nothing but a well-nested list behind it is left open. -/
theorem leftOpen_last {before inner : List Token} {first : Token} {awaited : Signal}
    (opens : first.signal.closing = some awaited) (nested : WellNested inner) :
    LeftOpen (before ++ first :: inner) before.length first := by
  have begins : first.signal.isBegin = true := by rw [Signal.isBegin, opens]; rfl
  refine ⟨?_, begins, ?_⟩
  · rw [List.getElem?_append_right (Nat.le_refl _), Nat.sub_self, List.getElem?_cons_zero]
  · intro last ends
    obtain ⟨first', body, close, tail, shape, span, -⟩ :=
      findEnd_ok_iff.mp (findEnd_ok_iff_spanAt.mpr ends)
    rw [List.drop_left] at shape
    obtain ⟨rfl, rfl⟩ := List.cons.inj shape
    -- The closing token would close nothing in the list behind the opening token.
    have leaves := openAfter_wellNested nested []
    rw [openAfter_append, openAfter_wellNested span.nested, Option.bind_some,
      openAfter_stray (closing_of_closes span.closing).2] at leaves
    cases leaves

/-- A token whose search fails is left open. -/
theorem leftOpen_of_error {front rest : List Token} {first : Token} {e : SpanError}
    (opens : first.signal.isBegin = true)
    (failed : lengthAfter front.length first rest = .error e) :
    LeftOpen (front ++ first :: rest) front.length first := by
  refine ⟨?_, opens, ?_⟩
  · rw [List.getElem?_append_right (Nat.le_refl _), Nat.sub_self, List.getElem?_cons_zero]
  · intro last ends
    have found := findEnd_ok_iff_spanAt.mpr ends
    simp only [findEnd, List.drop_left, failed] at found
    cases found

/-! ## The cases of a report -/

/-- Why a list fails the check: a token closes nothing, it closes another span than the
innermost one that is open, or the tokens run out behind the opening token of the outermost
span that is open. -/
inductive Diagnosis (tokens : List Token) : SpanError → Prop where
  | stray {front rest : List Token} {t : Token} (split : tokens = front ++ t :: rest)
    (nested : WellNested front) (closes : t.signal.isEnd = true) :
    Diagnosis tokens (.unexpectedEnd t.signal t.name front.length)
  | crossed {front rest : List Token} {t : Token} {awaited : Signal} {below : List Signal}
    (split : tokens = front ++ t :: rest) (leaves : openAfter [] front = some (awaited :: below))
    (closes : t.signal.isEnd = true) (other : t.signal ≠ awaited) :
    Diagnosis tokens (.mismatchedEnd awaited t.signal t.name front.length)
  | unclosed {front rest : List Token} {first : Token} {left : List Signal}
    (split : tokens = front ++ first :: rest) (nested : WellNested front)
    (leaves : openAfter [] tokens = some left)
    (remains : LeftOpen tokens front.length first) :
    Diagnosis tokens (.unbalanced first.signal first.name front.length)

theorem diagnosis_of_error {tokens : List Token} {e : SpanError}
    (h : checkNesting tokens = .error e) : Diagnosis tokens e := by
  obtain ⟨front, first, rest, rfl, nested, ⟨closes, rfl⟩ | ⟨opens, failed⟩⟩ := checkFrom_error h
  · rw [Nat.zero_add]
    exact .stray rfl nested closes
  · rw [Nat.zero_add] at failed
    have remains := leftOpen_of_error opens failed
    obtain ⟨close, closing⟩ := Option.isSome_iff_exists.mp opens
    -- Nothing is open before the opening token, so its own stack is the whole one.
    have reads (more : List Token) :
        openAfter [] (front ++ first :: more) = openAfter [close] more := by
      rw [openAfter_append, openAfter_wellNested nested, Option.bind_some,
        openAfter_opening closing]
    simp only [lengthAfter, closing] at failed
    cases countToEnd_error failed with
    | ended leaves =>
      have whole := (reads rest).trans leaves
      exact .unclosed rfl nested whole remains
    | @crossed seen behind t awaited below split leaves closes other =>
      have place : front.length + 1 + seen.length = (front ++ first :: seen).length := by
        simp only [List.length_append, List.length_cons]
        omega
      have whole : front ++ first :: rest = front ++ first :: seen ++ t :: behind := by
        rw [split]
        simp only [List.cons_append, List.append_assoc]
      have stack := (reads seen).trans leaves
      rw [place]
      exact .crossed whole stack closes other

/-- A list is beyond repair from the token on behind which there is no stack. -/
theorem breaksAt_of_openAfter {front rest : List Token} {t : Token} {opened : List Signal}
    (leaves : openAfter [] front = some opened) (stuck : openAfter opened [t] = none) :
    BreaksAt (front ++ t :: rest) front.length t := by
  constructor
  · rw [List.getElem?_append_right (Nat.le_refl _), Nat.sub_self, List.getElem?_cons_zero]
  · intro given
    have upTo : (front ++ t :: rest).take (front.length + 1) = front ++ [t] := by
      rw [List.append_cons]
      exact List.take_left' (by rw [List.length_append, List.length_singleton])
    rw [upTo] at given
    obtain ⟨between, behind⟩ := extendable_iff.mp given
    rw [openAfter_append, leaves, Option.bind_some, stuck] at behind
    cases behind
  · intro k within
    rw [List.take_append_of_le_length within]
    exact (extendable_iff.mpr ⟨opened, leaves⟩).take k

/-! ## The report -/

/-- The check passes exactly the well-nested lists. If some prefix of the list is beyond
repair, the report is at the last token of the shortest one: this token closes nothing when
no span is left open before it, and otherwise it is not the end of the innermost span left
open. If none is, the report names the first of the opening tokens left open. -/
theorem checkNesting_exact (tokens : List Token) :
    (checkNesting tokens = .ok () ↔ WellNested tokens) ∧
    ((∃ k, ¬ Extendable (tokens.take k)) →
      ∃ place t, BreaksAt tokens place t ∧
        ((∀ start first, ¬ LeftOpen (tokens.take place) start first) ∧
            checkNesting tokens = .error (.unexpectedEnd t.signal t.name place) ∨
          ∃ start first awaited, LeftOpen (tokens.take place) start first ∧
            (∀ start' first', LeftOpen (tokens.take place) start' first' → start' ≤ start) ∧
            first.signal.closing = some awaited ∧
            checkNesting tokens = .error (.mismatchedEnd awaited t.signal t.name place))) ∧
    (¬ WellNested tokens → (∀ k, Extendable (tokens.take k)) →
      ∃ start first, LeftOpen tokens start first ∧
        (∀ start' first', LeftOpen tokens start' first' → start ≤ start') ∧
        checkNesting tokens = .error (.unbalanced first.signal first.name start)) := by
  refine ⟨checkFrom_ok_iff, ?_⟩
  cases result : checkNesting tokens with
  | ok =>
    have nested : WellNested tokens := checkFrom_ok_iff.mp result
    constructor
    · intro given
      obtain ⟨k, broken⟩ := given
      have whole : Extendable tokens := ⟨[], by rwa [List.append_nil]⟩
      exact absurd (whole.take k) broken
    · intro wrong
      exact absurd nested wrong
  | error e =>
    cases diagnosis_of_error result with
    | @stray front rest t split nested closes =>
      subst split
      have breaks : BreaksAt (front ++ t :: rest) front.length t :=
        breaksAt_of_openAfter (openAfter_wellNested nested []) (openAfter_stray closes)
      constructor
      · intro _
        refine ⟨front.length, t, breaks, .inl ⟨?_, rfl⟩⟩
        rw [List.take_left]
        exact not_leftOpen_of_wellNested nested
      · intro _ sound
        exact absurd (sound _) breaks.broken
    | @crossed front rest t awaited below split leaves closes other =>
      subst split
      have stuck : openAfter (awaited :: below) [t] = none := by
        rw [openAfter_closing closes, if_neg other]
      have breaks : BreaksAt (front ++ t :: rest) front.length t :=
        breaksAt_of_openAfter leaves stuck
      constructor
      · intro _
        obtain ⟨before, first, inner, rfl, opens, nested⟩ := innermost_of_openAfter leaves
        refine ⟨_, t, breaks, .inr ⟨before.length, first, awaited, ?_, ?_, opens, rfl⟩⟩
        · rw [List.take_left]
          exact leftOpen_last opens nested
        · rw [List.take_left]
          intro start other open_
          exact open_.ahead nested
      · intro _ sound
        exact absurd (sound _) breaks.broken
    | @unclosed front rest first left split nested leaves remains =>
      constructor
      · intro given
        obtain ⟨k, broken⟩ := given
        have whole : Extendable tokens := extendable_iff.mpr ⟨left, leaves⟩
        exact absurd (whole.take k) broken
      · intro _ _
        refine ⟨front.length, first, remains, ?_, rfl⟩
        subst split
        intro start other open_
        exact open_.behind nested

/-- A group and its end with one closing token too many; a group that ends like a
composite; and two groups one in the other, of which neither ends. -/
theorem checkNesting_exact_small :
    let group : Token := { signal := .beginGroup, name := "g" }
    let inner : Token := { signal := .beginGroup, name := "h" }
    let plain : Token := { signal := .encoding, name := "e" }
    let endGroup : Token := { signal := .endGroup, name := "g" }
    let endComposite : Token := { signal := .endComposite, name := "c" }
    WellNested [group, plain, endGroup] ∧
    (∃ place t, BreaksAt [group, endGroup, endGroup] place t ∧
      checkNesting [group, endGroup, endGroup] =
        .error (.unexpectedEnd t.signal t.name place)) ∧
    (∃ place t awaited, BreaksAt [plain, group, endComposite] place t ∧
      checkNesting [plain, group, endComposite] =
        .error (.mismatchedEnd awaited t.signal t.name place)) ∧
    ∃ start first, LeftOpen [plain, group, inner] start first ∧
      checkNesting [plain, group, inner] =
        .error (.unbalanced first.signal first.name start) := by
  intro group inner plain endGroup endComposite
  have passes : checkNesting [group, plain, endGroup] = .ok () := rfl
  have stray := checkNesting_exact [group, endGroup, endGroup]
  have crossed := checkNesting_exact [plain, group, endComposite]
  have unclosed := checkNesting_exact [plain, group, inner]
  refine ⟨(checkNesting_exact _).1.mp passes, ?_, ?_, ?_⟩
  · have broken : ¬ Extendable [group, endGroup, endGroup] := by
      rw [extendable_iff]
      intro given
      exact nomatch given
    obtain ⟨place, t, breaks, ⟨-, report⟩ | ⟨_, _, _, -, -, -, report⟩⟩ :=
      stray.2.1 ⟨3, broken⟩
    · exact ⟨place, t, breaks, report⟩
    · cases report
  · have broken : ¬ Extendable [plain, group, endComposite] := by
      rw [extendable_iff]
      intro given
      exact nomatch given
    obtain ⟨place, t, breaks, ⟨-, report⟩ | ⟨_, _, awaited, -, -, -, report⟩⟩ :=
      crossed.2.1 ⟨3, broken⟩
    · cases report
    · exact ⟨place, t, awaited, breaks, report⟩
  · have open_ : ¬ WellNested [plain, group, inner] := by
      intro nested
      exact nomatch unclosed.1.mpr nested
    have sound (k : Nat) : Extendable ([plain, group, inner].take k) := by
      apply Extendable.take
      exact extendable_iff.mpr ⟨_, rfl⟩
    obtain ⟨start, first, remains, -, report⟩ := unclosed.2.2 open_ sound
    exact ⟨start, first, remains, report⟩

end Flyweight.Span
