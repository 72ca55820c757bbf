import Flyweight.Wire.Message

/- Flyweights that share memories.

   A pool holds memories; a handle is a flyweight that is bound to one of them by its
   place. Two handles with the same memory see what the other writes. -/

namespace Flyweight.Wire

/-- The memories that flyweights can be bound to. -/
abbrev Pool := List Memory

namespace Pool

/-- The memory at a place; a flyweight that was never bound has none. -/
def memory (p : Pool) : Option Nat → Memory
  | none => []
  | some place => p.getD place []

/-- The pool with another memory at a place. -/
def put (p : Pool) (place : Option Nat) (memory : Memory) : Pool :=
  match place with
  | none => p
  | some place => p.set place memory

end Pool

/-- A flyweight over a memory of the pool. -/
structure Handle where
  memory : Option Nat := none
  offset : Nat := 0
  position : Nat := 0
  deriving DecidableEq, Repr

namespace Handle

/-- The handle as a flyweight over a message. -/
def message : Lens (Pool × Handle) Message where
  get s := { memory := s.1.memory s.2.memory, offset := s.2.offset, position := s.2.position }
  put m s :=
    (s.1.put s.2.memory m.memory, { s.2 with offset := m.offset, position := m.position })

/-- The handle as a flyweight over a block. -/
def block : Lens (Pool × Handle) Block where
  get s := { memory := s.1.memory s.2.memory, offset := s.2.offset }
  put b s := (s.1.put s.2.memory b.memory, { s.2 with offset := b.offset })

/-- Binds a handle to a message in the memory at a place. -/
def bindMessage (blockLength place offset : Nat) : Access (Pool × Handle) Unit := do
  let (pool, handle) ← get
  let (result, m) := (Message.reset blockLength (pool.memory (some place)) offset).outcome
    (message.get (pool, handle))
  liftM result
  set (pool, Handle.mk (some place) m.offset m.position)

/-- Binds a handle to a block in the memory at a place. -/
def bindBlock (place offset : Nat) : Access (Pool × Handle) Unit := do
  let (pool, handle) ← get
  let (result, b) := (Block.reset (pool.memory (some place)) offset).outcome
    (block.get (pool, handle))
  liftM result
  set (pool, { handle with memory := some place, offset := b.offset })

end Handle

end Flyweight.Wire
