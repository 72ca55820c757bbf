import Flyweight.Proofs.Source.Grammar
import Flyweight.Proofs.Span.Agreement

/- The cut of a body into its three sections.

   Behind the fields the cut goes from group to group with the search for the end of a span
   (`takeGroups_group`, `takeGroups_stop`). So it fails exactly where one of the groups that
   it comes to is not closed (`ofTokens_error_iff`), which no nested list has, and otherwise

   1. the sections are the body, in order;
   2. no field is, or has in it, the start of a group or of variable-length data;
   3. the groups are whole spans, and what follows them is no group;
   4. a body put together from sections of this kind is cut into the same sections. -/

namespace Flyweight.Body

open Grammar (IsGroup StartsWith)

/-- The positions that a walk over consecutive groups comes to: where it starts, and behind
each group that is closed. -/
inductive Reaches (tokens : List Token) (start : Nat) : Nat → Prop where
  | start : Reaches tokens start start
  | behind {place last : Nat} {t : Token} (before : Reaches tokens start place)
    (found : tokens[place]? = some t) (opens : t.signal = .beginGroup)
    (closed : Span.findEnd tokens place = .ok last) : Reaches tokens start (last + 1)

/-! ## One group at a time -/

/-- A walk ends in front of a token that starts no group. -/
theorem takeGroups_stop {tokens : List Token} {place : Nat}
    (next : ∀ t, tokens[place]? = some t → t.signal ≠ .beginGroup) :
    takeGroups place (tokens.drop place) = .ok ([], tokens.drop place) := by
  cases found : tokens[place]? with
  | none =>
    rw [List.drop_eq_nil_of_le (List.getElem?_eq_none_iff.mp found)]
    simp only [takeGroups]
  | some t =>
    rw [Span.drop_of_getElem? found]
    simp only [takeGroups, if_neg (next t found)]

/-- A walk fails at a group that is not closed, and goes on behind one that is. -/
theorem takeGroups_group {tokens : List Token} {place : Nat} {t : Token}
    (found : tokens[place]? = some t) (opens : t.signal = .beginGroup) :
    takeGroups place (tokens.drop place) =
      match Span.findEnd tokens place with
      | .error e => .error e
      | .ok last =>
        match takeGroups (last + 1) (tokens.drop (last + 1)) with
        | .error e => .error e
        | .ok (groups, others) =>
          .ok ((tokens.drop place).take (last + 1 - place) ++ groups, others) := by
  rw [Span.findEnd_eq found, Span.drop_of_getElem? found, takeGroups, if_pos opens]
  cases counted : Span.lengthAfter place t (tokens.drop (place + 1)) with
  | error e => rfl
  | ok count =>
    have behind : (tokens.drop (place + 1)).drop count = tokens.drop (place + count + 1) := by
      rw [List.drop_drop, Nat.add_right_comm]
    have size : place + count + 1 - place = count + 1 := by omega
    cases others : takeGroups (place + count + 1) (tokens.drop (place + count + 1)) with
    | error e => simp only [Except.map, behind, others]
    | ok split => simp only [Except.map, behind, size, others, List.take_succ_cons]

theorem takeGroups_unclosed {tokens : List Token} {place : Nat} {t : Token} {e : SpanError}
    (found : tokens[place]? = some t) (opens : t.signal = .beginGroup)
    (failed : Span.findEnd tokens place = .error e) :
    takeGroups place (tokens.drop place) = .error e := by
  rw [takeGroups_group found opens, failed]

theorem takeGroups_closed {tokens : List Token} {place last : Nat} {t : Token}
    (found : tokens[place]? = some t) (opens : t.signal = .beginGroup)
    (closed : Span.findEnd tokens place = .ok last) {e : SpanError} :
    takeGroups place (tokens.drop place) = .error e ↔
      takeGroups (last + 1) (tokens.drop (last + 1)) = .error e := by
  rw [takeGroups_group found opens, closed]
  cases walked : takeGroups (last + 1) (tokens.drop (last + 1)) with
  | error e' => simp only [walked]
  | ok cut => simp [walked]

/-! ## The whole walk -/

/-- A walk fails as it does from any position that it comes to. -/
theorem takeGroups_of_reaches {tokens : List Token} {start place : Nat} {e : SpanError}
    (reached : Reaches tokens start place)
    (failed : takeGroups place (tokens.drop place) = .error e) :
    takeGroups start (tokens.drop start) = .error e := by
  induction reached with
  | start => exact failed
  | behind _ found opens closed ih => exact ih ((takeGroups_closed found opens closed).mpr failed)

/-- A walk that fails comes to a group that is not closed. -/
theorem unclosed_of_takeGroups {tokens : List Token} {start place : Nat} {e : SpanError}
    (reached : Reaches tokens start place)
    (failed : takeGroups place (tokens.drop place) = .error e) :
    ∃ place' t, Reaches tokens start place' ∧ tokens[place']? = some t ∧
      t.signal = .beginGroup ∧ Span.findEnd tokens place' = .error e := by
  induction left : tokens.length - place using Nat.strongRecOn generalizing place with
  | ind _ ih =>
    by_cases group : ∃ t, tokens[place]? = some t ∧ t.signal = .beginGroup
    · obtain ⟨t, found, opens⟩ := group
      cases closed : Span.findEnd tokens place with
      | error e' =>
        rw [takeGroups_unclosed found opens closed] at failed
        obtain rfl := Except.error.inj failed
        exact ⟨place, t, reached, found, opens, closed⟩
      | ok last =>
        have onward := (takeGroups_closed found opens closed).mp failed
        have inside := (List.getElem?_eq_some_iff.mp found).1
        obtain ⟨_, inner, _, _, _, _, rfl⟩ := Span.findEnd_ok_iff.mp closed
        exact ih _ (by omega) (.behind reached found opens closed) onward rfl
    · rw [takeGroups_stop (fun t found opens => group ⟨t, found, opens⟩)] at failed
      cases failed

theorem length_takeWhile_fields (tokens : List Token) :
    (tokens.takeWhile fun t => !endsFields t.signal).length =
      tokens.findIdx fun t => endsFields t.signal := by
  induction tokens with
  | nil => rfl
  | cons t rest ih =>
    cases ends : endsFields t.signal with
    | true => rw [List.takeWhile_cons_of_neg (by simp [ends]), List.findIdx_cons, ends]; rfl
    | false =>
      rw [List.takeWhile_cons_of_pos (by simp [ends]), List.length_cons, ih, List.findIdx_cons,
        ends]
      rfl

/-- The cut fails exactly where a group that it comes to is not closed, with the error of
the search for its end. -/
theorem ofTokens_error_iff {tokens : List Token} {e : SpanError} :
    ofTokens tokens = .error e ↔
      ∃ place t, Reaches tokens (tokens.findIdx fun t => endsFields t.signal) place ∧
        tokens[place]? = some t ∧ t.signal = .beginGroup ∧
        Span.findEnd tokens place = .error e := by
  simp only [ofTokens, length_takeWhile_fields]
  constructor
  · intro failed
    split at failed
    · rename_i walked
      obtain rfl := Except.error.inj failed
      exact unclosed_of_takeGroups .start walked
    · cases failed
  · intro given
    obtain ⟨place, t, reached, found, opens, unclosed⟩ := given
    rw [takeGroups_of_reaches reached (takeGroups_unclosed found opens unclosed)]

/-- The cut succeeds exactly if every group that it comes to is closed. -/
theorem succeeds_iff {tokens : List Token} :
    (∃ b, ofTokens tokens = .ok b) ↔
      ∀ place t, Reaches tokens (tokens.findIdx fun t => endsFields t.signal) place →
        tokens[place]? = some t → t.signal = .beginGroup →
        ∃ last, Span.findEnd tokens place = .ok last := by
  constructor
  · intro given place t reached found opens
    obtain ⟨b, cut⟩ := given
    cases closed : Span.findEnd tokens place with
    | ok last => exact ⟨last, rfl⟩
    | error e =>
      rw [ofTokens_error_iff.mpr ⟨place, t, reached, found, opens, closed⟩] at cut
      cases cut
  · intro closed
    cases cut : ofTokens tokens with
    | ok b => exact ⟨b, rfl⟩
    | error e =>
      obtain ⟨place, t, reached, found, opens, failed⟩ := ofTokens_error_iff.mp cut
      obtain ⟨last, ends⟩ := closed place t reached found opens
      rw [ends] at failed
      cases failed

/-! ## What is cut off -/

/-- What a walk cuts off is whole groups, up to a token that starts none. -/
theorem groups_of_takeGroups {tokens groups others : List Token} {place : Nat}
    (h : takeGroups place (tokens.drop place) = .ok (groups, others)) :
    Many IsGroup groups ∧ ∀ t ∈ others.head?, t.signal ≠ .beginGroup := by
  induction left : tokens.length - place using Nat.strongRecOn generalizing place groups with
  | ind _ ih =>
    by_cases group : ∃ t, tokens[place]? = some t ∧ t.signal = .beginGroup
    · obtain ⟨t, found, opens⟩ := group
      rw [takeGroups_group found opens] at h
      split at h
      · cases h
      · rename_i last closed
        split at h
        · cases h
        · rename_i more others' walked
          obtain ⟨rfl, rfl⟩ := Prod.mk.inj (Except.ok.inj h)
          have inside := (List.getElem?_eq_some_iff.mp found).1
          obtain ⟨first, inner, close, tail, shape, span, rfl⟩ := Span.findEnd_ok_iff.mp closed
          obtain ⟨whole, next⟩ := ih _ (by omega) walked rfl
          have same : t = first := by
            rw [Span.drop_of_getElem? found] at shape
            exact (List.cons.inj shape).1
          subst same
          have size : place + inner.length + 1 + 1 - place = (inner.length + 1) + 1 := by omega
          rw [size, shape, List.take_succ_cons, Span.take_span]
          exact ⟨.cons (.mk opens span) whole, next⟩
    · have stops : ∀ t, tokens[place]? = some t → t.signal ≠ .beginGroup :=
        fun t found opens => group ⟨t, found, opens⟩
      rw [takeGroups_stop stops] at h
      obtain ⟨rfl, rfl⟩ := Prod.mk.inj (Except.ok.inj h)
      refine ⟨.nil, fun t mem => stops t ?_⟩
      rwa [List.head?_drop] at mem

/-- The sections of a body: whole groups behind the fields, and no group behind these. -/
theorem groups_of_ofTokens {tokens : List Token} {b : Body} (h : ofTokens tokens = .ok b) :
    Many IsGroup b.groups ∧ ∀ t ∈ b.varData.head?, t.signal ≠ .beginGroup := by
  simp only [ofTokens] at h
  split at h
  · cases h
  · rename_i groups varData walked
    obtain rfl := Except.ok.inj h
    exact groups_of_takeGroups walked

/-! ## The cut -/

/-- A body is cut into its sections exactly if every group is closed that a walk over
consecutive groups comes to from the first start of a group or of variable-length data; a
list that passes the check of its brackets always is. The sections are the body in order:
fields with no such start among them, whole groups, and the rest, which starts with no
group. A body put together from such fields, from whole groups and from a rest that is
empty or starts with variable-length data is cut into just these. -/
theorem ofTokens_exact (tokens : List Token) :
    ((∃ b, ofTokens tokens = .ok b) ↔
      ∀ place t, Reaches tokens (tokens.findIdx fun t => endsFields t.signal) place →
        tokens[place]? = some t → t.signal = .beginGroup →
        ∃ last, Span.findEnd tokens place = .ok last) ∧
    (Span.checkNesting tokens = .ok () → ∃ b, ofTokens tokens = .ok b) ∧
    (∀ b, ofTokens tokens = .ok b →
      b.fields ++ b.groups ++ b.varData = tokens ∧
      (∀ t ∈ b.fields, t.signal ≠ .beginGroup ∧ t.signal ≠ .beginVarData) ∧
      Many IsGroup b.groups ∧
      ∀ t ∈ b.varData.head?, t.signal ≠ .beginGroup) ∧
    ∀ fields groups varData, tokens = fields ++ groups ++ varData →
      (∀ t ∈ fields, t.signal ≠ .beginGroup ∧ t.signal ≠ .beginVarData) →
      Many IsGroup groups → StartsWith .beginVarData varData →
      ofTokens tokens = .ok ⟨fields, groups, varData⟩ := by
  refine ⟨succeeds_iff, fun passes => succeeds_iff.mpr ?_, ?_, ?_⟩
  · intro place t _ found opens
    exact Span.findEnd_of_wellNested (Span.checkFrom_ok_iff.mp passes) found (by rw [opens]; rfl)
  · intro b cut
    obtain ⟨whole, next⟩ := groups_of_ofTokens cut
    exact ⟨append_of_ofTokens cut, Grammar.fields_of_ofTokens cut, whole, next⟩
  · rintro fields groups varData rfl flat whole next
    refine Grammar.ofTokens_append (fun t mem => ?_) whole next
    obtain ⟨group, data⟩ := flat t mem
    exact endsFields_eq_false_iff.mpr ⟨group, data⟩

/-- Variable-length data inside a group stays with the group, nested groups are cut off with
the one around them, and a body whose second group is not closed is not cut. -/
theorem ofTokens_exact_small :
    let field : Token := { signal := .beginField, name := "f" }
    let group : Token := { signal := .beginGroup, name := "g" }
    let endGroup : Token := { signal := .endGroup, name := "g" }
    let data : Token := { signal := .beginVarData, name := "d" }
    let endData : Token := { signal := .endVarData, name := "d" }
    ofTokens [field, group, data, endData, endGroup, group, endGroup, data, endData, group] =
      .ok ⟨[field], [group, data, endData, endGroup, group, endGroup], [data, endData, group]⟩ ∧
    (∃ b, ofTokens [field, group, group, endGroup, endGroup] = .ok b) ∧
    ¬ ∃ b, ofTokens [field, group, endGroup, group, field] = .ok b := by
  intro field group endGroup data endData
  refine ⟨?_, (ofTokens_exact [field, group, group, endGroup, endGroup]).2.1 rfl, ?_⟩
  · have first : Grammar.IsGroup [group, data, endData, endGroup] :=
      .mk rfl ⟨rfl, @WellNested.span data endData [] [] rfl .nil .nil⟩
    have second : Grammar.IsGroup [group, endGroup] :=
      @Grammar.IsGroup.mk group endGroup [] rfl ⟨rfl, .nil⟩
    refine (ofTokens_exact _).2.2.2 [field] ([group, data, endData, endGroup] ++
      ([group, endGroup] ++ [])) [data, endData, group] rfl ?_ (.cons first (.cons second .nil)) rfl
    intro t mem
    obtain rfl := List.mem_singleton.mp mem
    decide
  · intro cut
    have closed := (ofTokens_exact [field, group, endGroup, group, field]).1.mp cut 3 group
      (.behind .start rfl rfl rfl) rfl rfl
    obtain ⟨last, found⟩ := closed
    cases found

end Flyweight.Body
