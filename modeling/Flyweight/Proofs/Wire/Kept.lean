import Flyweight.Proofs.Wire.Use
import Flyweight.Wire.Pool

/- Flyweights that are kept from one access to the next.

   A flyweight keeps another one for each block that is nested in its own, and binds it anew
   whenever a caller goes through it. Between two accesses a kept flyweight may be bound to
   anything: to a block of an earlier message, in another memory, or to nothing.

   No access is affected by that. It does to the pool of memories what the access does that
   finds the nested block anew (`Member.Use.outcome_reach`), and so it always acts on what
   the flyweight around it is bound to now. -/

namespace Flyweight.Wire

/-- A flyweight, which is at the empty path, and those that it keeps: the path to a kept one
are the places of the blocks one goes through. -/
abbrev Kept := List Nat → Handle

namespace Pool
variable {p : Pool} {place other : Option Nat} {w : Memory}

/-- A memory of the same length is put in place of another, also if there is none. -/
theorem memory_put (size : w.length = (p.memory place).length) : (p.put place w).memory place = w := by
  cases place with
  | none => exact (List.eq_nil_of_length_eq_zero size).symm
  | some place =>
    simp only [memory, List.getD_eq_getElem?_getD] at size
    simp only [put, memory, List.getD_eq_getElem?_getD, List.getElem?_set_self']
    cases found : p[place]? with
    | none =>
      rw [found] at size
      exact (List.eq_nil_of_length_eq_zero size).symm
    | some old => rfl

theorem memory_put_other (differ : other ≠ place) : (p.put place w).memory other = p.memory other := by
  cases place with
  | none => rfl
  | some place =>
    cases other with
    | none => rfl
    | some other =>
      have apart : place ≠ other := by
        rintro rfl
        exact differ rfl
      simp only [put, memory, List.getD_eq_getElem?_getD, List.getElem?_set_ne apart]

end Pool

namespace Kept

/-- The flyweight as one over a block. -/
def block : Lens (Pool × Kept) Block where
  get s := Handle.block.get (s.1, s.2 [])
  put b s :=
    let (pool, handle) := Handle.block.put b (s.1, s.2 [])
    (pool, fun path => if path = [] then handle else s.2 path)

/-- The flyweight that is kept for the block at `place`, with those that it keeps itself. -/
def inner (place : Nat) : Lens (Pool × Kept) (Pool × Kept) where
  get s := (s.1, fun path => s.2 (place :: path))
  put t s :=
    (t.1, fun path =>
      match path with
      | [] => s.2 []
      | first :: rest => if first = place then t.2 rest else s.2 path)

/-- Binds the flyweight that is kept for the block at `place` to this block. What it keeps
itself stays as it is. -/
def bindInner (place : Nat) (kept : Kept) : Kept := fun path =>
  if path = [place] then
    { kept [place] with memory := (kept []).memory, offset := (kept []).offset + place }
  else kept path

end Kept

/-- The access that a use stands for, through flyweights that are kept: each is bound anew
before it is used. -/
def Member.Use.reach : Member.Use member τ β → Access ((Pool × Kept) × τ) β
  | @nested _ τ _ place use => do
    modify fun s => ((s.1.1, s.1.2.bindInner place), s.2)
    Access.focus ((Kept.inner place).beside τ) use.reach
  | use => Access.focus (Kept.block.beside _) use.access

/-- The access through flyweights does what is found at the block that they are bound to: the
answer and the slice are the same, the memory of that block becomes what it becomes there, and
the flyweight stays bound to it. -/
def Kept.Follows (found : Except AccessError β × Block × τ)
    (reached : Except AccessError β × (Pool × Kept) × τ) (pool : Pool) (kept : Kept) : Prop :=
  reached.1 = found.1 ∧ reached.2.1.1 = pool.put (kept []).memory found.2.1.memory ∧
    reached.2.1.2 [] = kept [] ∧ reached.2.2 = found.2.2

/-- A use leaves the block where it is. -/
theorem Member.Use.offset_outcome {member : Member} (use : Member.Use member τ β) (b : Block)
    (slice : τ) : (use.access.outcome (b, slice)).2.1.offset = b.offset := by
  rcases use.spec b slice with ⟨e, refused⟩ | ⟨answer, s, succeeded, alike⟩
  · rw [refused]
  · rw [succeeded]
    exact alike.offset

/-- An access to the own block of a flyweight. -/
theorem Kept.follows_block {access : Access (Block × τ) β} {pool : Pool} {kept : Kept} {slice : τ}
    (stays : (access.outcome (Handle.block.get (pool, kept []), slice)).2.1.offset =
      (kept []).offset) :
    Follows (access.outcome (Handle.block.get (pool, kept []), slice))
      ((Access.focus (Kept.block.beside τ) access).outcome ((pool, kept), slice)) pool kept := by
  refine ⟨rfl, rfl, ?_, rfl⟩
  show { kept [] with
    offset := (access.outcome (Handle.block.get (pool, kept []), slice)).2.1.offset } = kept []
  rw [stays]

/-- Whatever the kept flyweights were bound to, an access through them acts on the block that
the flyweight is bound to now. -/
theorem Member.Use.reach_follows {member : Member} (use : Member.Use member τ β) (pool : Pool)
    (kept : Kept) (slice : τ) :
    Kept.Follows (use.access.outcome (Handle.block.get (pool, kept []), slice))
      (use.reach.outcome ((pool, kept), slice)) pool kept := by
  induction use generalizing kept with
  | @nested member _ _ place use ih =>
    -- The kept flyweight is bound anew to a block of the same memory, and what it keeps itself
    -- may still be bound to anything.
    let rebound : Kept := fun path => kept.bindInner place (place :: path)
    have memory : (rebound []).memory = (kept []).memory := by simp [rebound, Kept.bindInner]
    have block : Handle.block.get (pool, rebound []) =
        (Block.nested place).get (Handle.block.get (pool, kept [])) := by
      simp [rebound, Kept.bindInner, Handle.block, Block.nested]
    have follows := ih rebound slice
    rw [block] at follows
    obtain ⟨answer, written, -, filled⟩ := follows
    rw [memory] at written
    exact ⟨answer, written, rfl, filled⟩
  | _ => exact Kept.follows_block (Member.Use.offset_outcome _ _ _)

end Flyweight.Wire
