/- Operations on a state, by what they return and what they leave.

   An operation that may fail keeps the state that it has reached when it does; `outcome` is
   the result together with that state, and the lemmas say how the outcome of a composed
   operation follows from those of its parts. -/

namespace Flyweight.Command

section Outcome
variable {σ ε ε' α β : Type}

/-- The result of an operation on a state, and the state that it leaves. -/
def outcome (op : ExceptT ε (StateM σ) α) (s : σ) : Except ε α × σ := op.run.run s

theorem outcome_throw (e : ε) (s : σ) :
    outcome (throw e : ExceptT ε (StateM σ) α) s = (.error e, s) := rfl

theorem outcome_bind (op : ExceptT ε (StateM σ) α) (next : α → ExceptT ε (StateM σ) β) (s : σ) :
    outcome (op >>= next) s =
      match outcome op s with
      | (.ok a, s') => outcome (next a) s'
      | (.error e, s') => (.error e, s') := by
  simp only [outcome, ExceptT.run_bind, StateT.run_bind]
  rcases op.run.run s with ⟨_ | _, _⟩ <;> rfl

theorem outcome_adapt (f : ε → ε') (op : ExceptT ε (StateM σ) α) (s : σ) :
    outcome (ExceptT.adapt f op) s =
      match outcome op s with
      | (.ok a, s') => (.ok a, s')
      | (.error e, s') => (.error (f e), s') := by
  have run : outcome (ExceptT.adapt f op) s =
      ((outcome op s).1.mapError f, (outcome op s).2) := rfl
  rw [run]
  rcases outcome op s with ⟨_ | _, _⟩ <;> rfl

theorem outcome_tryCatch (op : ExceptT ε (StateM σ) α) (handle : ε → ExceptT ε (StateM σ) α)
    (s : σ) :
    outcome (tryCatch op handle) s =
      match outcome op s with
      | (.ok a, s') => (.ok a, s')
      | (.error e, s') => outcome (handle e) s' := by
  have run : outcome (tryCatch op handle) s =
      ((op.run >>= fun r => match r with
        | .ok a => pure (.ok a)
        | .error e => (handle e).run) : StateM σ (Except ε α)).run s := rfl
  rw [run, StateT.run_bind]
  simp only [outcome]
  rcases op.run.run s with ⟨_ | _, _⟩ <;> rfl

theorem outcome_get (s : σ) : outcome (get : ExceptT ε (StateM σ) σ) s = (.ok s, s) := rfl

theorem outcome_set (s s' : σ) : outcome (set s' : ExceptT ε (StateM σ) PUnit) s = (.ok ⟨⟩, s') :=
  rfl

theorem outcome_lift (x : Except ε α) (s : σ) :
    outcome (liftM x : ExceptT ε (StateM σ) α) s = (x, s) := rfl

end Outcome

end Flyweight.Command
