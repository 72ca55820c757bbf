import Flyweight.Wire.Lens

/- Accesses: operations on shared state that can fail.

   What an access did before it failed is kept, so that the absence of such
   leftovers is a statement about an access and not a matter of its type. An access
   to a part of a state becomes one to the whole by way of a `Lens`. -/

namespace Flyweight.Wire

/-- Why an access failed. -/
inductive AccessError where
  /-- an item of a sequence past its end -/
  | indexOutOfRange (index length : Nat)
  /-- a bulk transfer that starts past the end of the field -/
  | offsetOutOfRange (offset length : Nat)
  /-- more items than there is room for -/
  | lengthOutOfRange (length max : Nat)
  /-- a position past the end of the memory -/
  | positionOutOfRange (position limit : Nat)
  /-- bytes past the end of the memory -/
  | bufferOverflow (offset size capacity : Nat)
  /-- a code that no variant of the enumeration has -/
  | unknownCode (code : Int) (enumeration : String)
  deriving DecidableEq, Repr

/-- The wording of the error. -/
def AccessError.message : AccessError → String
  | indexOutOfRange index length => s!"index out of range: index={index}, length={length}"
  | offsetOutOfRange offset length => s!"offset out of range: offset={offset}, length={length}"
  | lengthOutOfRange length max => s!"length out of range: length={length}, max={max}"
  | positionOutOfRange position limit =>
    s!"position out of range: position={position}, limit={limit}"
  | bufferOverflow offset size capacity =>
    s!"access of {size} bytes at offset {offset} exceeds capacity {capacity}"
  | unknownCode code enumeration => s!"unknown value {code} for enum {enumeration}"

/-- An operation on a state that can fail. -/
abbrev Access (σ α : Type) := ExceptT AccessError (StateM σ) α

namespace Access

/-- The outcome of an access and the state that it leaves. -/
def outcome (access : Access σ α) (s : σ) : Except AccessError α × σ := access.run.run s

/-- The access with the given outcomes. -/
def ofOutcome (step : σ → Except AccessError α × σ) : Access σ α := ExceptT.mk (StateT.mk step)

/-- An access to a part, as one to the whole. -/
def focus (part : Lens σ τ) (access : Access τ α) : Access σ α :=
  ofOutcome fun s =>
    match access.outcome (part.get s) with
    | (result, t) => (result, part.put t s)

/-- The access with something kept along with the state; the answer comes with what
became of it. -/
def along (b : β) (access : Access (σ × β) α) : Access σ (α × β) :=
  ofOutcome fun s =>
    match access.outcome (s, b) with
    | (.ok a, s, b) => (.ok (a, b), s)
    | (.error e, s, _) => (.error e, s)

/-- The access, whose failure is an answer like any other. -/
def attempt (access : Access σ α) : Access σ (Except AccessError α) :=
  ofOutcome fun s =>
    match access.outcome s with
    | (result, s) => (.ok result, s)

@[simp]
theorem outcome_ofOutcome (step : σ → Except AccessError α × σ) :
    (ofOutcome step).outcome = step := rfl

@[simp]
theorem outcome_pure (a : α) (s : σ) : outcome (pure a : Access σ α) s = (.ok a, s) := rfl

@[simp]
theorem outcome_throw (e : AccessError) (s : σ) :
    outcome (throw e : Access σ α) s = (.error e, s) := rfl

@[simp]
theorem outcome_get (s : σ) : outcome (get : Access σ σ) s = (.ok s, s) := rfl

@[simp]
theorem outcome_set (t s : σ) : outcome (set t : Access σ PUnit) s = (.ok ⟨⟩, t) := rfl

@[simp]
theorem outcome_modify (f : σ → σ) (s : σ) :
    outcome (modify f : Access σ PUnit) s = (.ok ⟨⟩, f s) := rfl

/-- A sequence stops at its first failure, and keeps what was done until then. -/
@[simp]
theorem outcome_bind (access : Access σ α) (next : α → Access σ β) (s : σ) :
    outcome (access >>= next) s =
      match access.outcome s with
      | (.ok a, t) => (next a).outcome t
      | (.error e, t) => (.error e, t) := by
  simp only [outcome, ExceptT.run_bind, StateT.run_bind]
  cases h : StateT.run access.run s with
  | mk result t => cases result <;> rfl

@[simp]
theorem outcome_map (f : α → β) (access : Access σ α) (s : σ) :
    outcome (f <$> access) s =
      match access.outcome s with
      | (.ok a, t) => (.ok (f a), t)
      | (.error e, t) => (.error e, t) := by
  simp only [outcome, ExceptT.run_map, StateT.run_map]
  cases h : StateT.run access.run s with
  | mk result t => cases result <;> rfl

@[simp]
theorem outcome_focus (part : Lens σ τ) (access : Access τ α) (s : σ) :
    (focus part access).outcome s =
      ((access.outcome (part.get s)).1, part.put (access.outcome (part.get s)).2 s) := rfl

end Access

end Flyweight.Wire
