import Flyweight.Span

/- The three sections of a message or group body.

   A body lists its fields first, then its groups, then its variable-length
   data. The cut between the sections is found by looking at the role of single
   tokens for the fields and at whole spans for the groups. -/

namespace Flyweight

/-- The sections of the body of a message or group. -/
structure Body where
  fields : List Token
  groups : List Token
  varData : List Token
  deriving DecidableEq, Repr

namespace Body

/-- Whether a token of this role ends the section of fields. -/
def endsFields : Signal → Bool
  | .beginGroup | .beginVarData => true
  | _ => false

theorem endsFields_eq_false_iff {signal : Signal} :
    endsFields signal = false ↔ signal ≠ .beginGroup ∧ signal ≠ .beginVarData := by
  cases signal <;> decide

/-- Cuts the group spans off the front of `tokens`; `index` is the position of
the first of them in the body. -/
def takeGroups (index : Nat) (tokens : List Token) : Except SpanError (List Token × List Token) :=
  match tokens with
  | [] => .ok ([], [])
  | first :: rest =>
    if first.signal = .beginGroup then
      match Span.lengthAfter index first rest with
      | .error e => .error e
      | .ok count =>
        match takeGroups (index + count + 1) (rest.drop count) with
        | .error e => .error e
        | .ok (groups, others) => .ok (first :: rest.take count ++ groups, others)
    else .ok ([], first :: rest)
termination_by tokens.length
decreasing_by simp only [List.length_cons, List.length_drop]; omega

/-- Cuts a body into its sections. Positions in errors count from the start of
the body. -/
def ofTokens (tokens : List Token) : Except SpanError Body :=
  let fields := tokens.takeWhile fun t => !endsFields t.signal
  match takeGroups fields.length (tokens.drop fields.length) with
  | .error e => .error e
  | .ok (groups, varData) => .ok ⟨fields, groups, varData⟩

/-- The groups and what follows them are all the tokens. -/
theorem append_of_takeGroups {index : Nat} {tokens groups others : List Token}
    (h : takeGroups index tokens = .ok (groups, others)) : groups ++ others = tokens := by
  induction hn : tokens.length using Nat.strongRecOn generalizing index tokens groups others with
  | ind n ih =>
    cases tokens with
    | nil =>
      simp only [takeGroups, Except.ok.injEq, Prod.mk.injEq] at h
      simp [← h.1, ← h.2]
    | cons first rest =>
      unfold takeGroups at h
      split at h
      · split at h
        · simp at h
        · rename_i count _
          split at h
          · simp at h
          · rename_i tail remaining htail
            simp only [Except.ok.injEq, Prod.mk.injEq] at h
            have shorter : (rest.drop count).length < n := by
              simp only [List.length_cons] at hn
              simp only [List.length_drop]
              omega
            have := ih _ shorter htail rfl
            rw [← h.1, ← h.2, List.append_assoc, this, List.cons_append, List.take_append_drop]
      · simp only [Except.ok.injEq, Prod.mk.injEq] at h
        simp [← h.1, ← h.2]

/-- The sections of a body, in order, are the body. -/
theorem append_of_ofTokens {tokens : List Token} {b : Body} (h : ofTokens tokens = .ok b) :
    b.fields ++ b.groups ++ b.varData = tokens := by
  simp only [ofTokens] at h
  split at h
  · simp at h
  · rename_i groups varData hcut
    simp only [Except.ok.injEq] at h
    subst h
    have := append_of_takeGroups hcut
    simp only [List.append_assoc, this]
    have cut : ∀ l : List Token,
        l.takeWhile (fun t => !endsFields t.signal) ++
          l.drop (l.takeWhile fun t => !endsFields t.signal).length = l := by
      intro l
      induction l with
      | nil => rfl
      | cons t rest ih =>
        by_cases ht : endsFields t.signal <;> simp [ht, ih]
    exact cut tokens

end Body

end Flyweight
