import Flyweight.Wire.Memory

/- Flyweights over a block of fixed size, and the members of such a block.

   A member says where it starts in its block and how its bytes stand; its accessors
   are accesses to a `Block`, which says where the block starts in the memory. A
   nested block is found anew at every access (`Block.nested`), so it always follows
   the block around it. -/

namespace Flyweight.Wire

/-- A flyweight over a block: the memory that it looks at, and where the block
starts. One that was never bound looks at no memory. -/
structure Block where
  memory : Memory := []
  offset : Nat := 0
  deriving DecidableEq, Repr

namespace Block

/-- The memory of the block. -/
def memoryPart : Lens Block Memory where
  get b := b.memory
  put m b := { b with memory := m }

/-- A block inside the block. -/
def nested (offset : Nat) : Lens Block Block where
  get b := { b with offset := b.offset + offset }
  put inner b := { b with memory := inner.memory }

/-- Binds the flyweight; how much memory there is shows at the accesses. -/
def reset (memory : Memory) (offset : Nat) : Access Block Unit := set (Block.mk memory offset)

/-- An access to the memory that depends on where the block starts. -/
def inMemory (access : Nat → Access Memory α) : Access Block α := do
  Access.focus memoryPart (access (← get).offset)

@[simp]
theorem outcome_inMemory (access : Nat → Access Memory α) (b : Block) :
    (inMemory access).outcome b =
      (((access b.offset).outcome b.memory).1,
        { b with memory := ((access b.offset).outcome b.memory).2 }) := rfl

end Block

/-- A single value of a block. -/
structure ScalarField (α : Type) where
  offset : Nat
  order : ByteOrder := .littleEndian

namespace ScalarField

/-- Reads the value. -/
def get [Scalar α] (f : ScalarField α) : Access Block α :=
  Block.inMemory fun base => Memory.load (base + f.offset) f.order

/-- Writes the value. -/
def set [Scalar α] (f : ScalarField α) (a : α) : Access Block Unit :=
  Block.inMemory fun base => Memory.store (base + f.offset) f.order a

theorem outcome_get [Scalar α] (f : ScalarField α) (b : Block) :
    f.get.outcome b =
      if b.offset + f.offset + Scalar.width α ≤ b.memory.length then
        (.ok (Scalar.decode f.order
          (Region.read b.memory (b.offset + f.offset) (Scalar.width α))), b)
      else
        (.error (.bufferOverflow (b.offset + f.offset) (Scalar.width α) b.memory.length), b) := by
  rw [get, Block.outcome_inMemory, Memory.outcome_load]
  split <;> rfl

theorem outcome_set [Scalar α] (f : ScalarField α) (a : α) (b : Block) :
    (f.set a).outcome b =
      if b.offset + f.offset + Scalar.width α ≤ b.memory.length then
        (.ok (), { b with
          memory := Region.write b.memory (b.offset + f.offset) (Scalar.encode f.order a) })
      else
        (.error (.bufferOverflow (b.offset + f.offset) (Scalar.width α) b.memory.length), b) := by
  rw [set, Block.outcome_inMemory, Memory.outcome_store]
  split <;> rfl

end ScalarField

/-- A type whose values stand for codes of one byte each. -/
class Enumeration (ε : Type) where
  name : String
  variants : List ε
  label : ε → String
  code : ε → UInt8
  mem_variants : ∀ v, v ∈ variants
  code_injective : ∀ v w, code v = code w → v = w

namespace Enumeration

/-- The variant with that code. -/
def ofCode (ε : Type) [Enumeration ε] (c : UInt8) : Except AccessError ε :=
  match (variants : List ε).find? fun v => code v == c with
  | some v => .ok v
  | none => .error (.unknownCode c.toNat (name ε))

/-- The variant with that label. -/
def ofLabel? (ε : Type) [Enumeration ε] (text : String) : Option ε :=
  (variants : List ε).find? fun v => label v == text

/-- A variant's code stands for that variant. -/
theorem ofCode_code [Enumeration ε] (v : ε) : ofCode ε (code v) = .ok v := by
  unfold ofCode
  split
  · rename_i w found
    have same := List.find?_some found
    rw [code_injective w v (by simpa using same)]
  · rename_i missing
    have := List.find?_eq_none.mp missing v (mem_variants v)
    simp at this

end Enumeration

/-- A member of a block whose value is one of an enumeration. -/
structure CodeField (ε : Type) where
  offset : Nat

namespace CodeField

/-- The code itself. -/
def codeField (f : CodeField ε) : ScalarField UInt8 := { offset := f.offset }

/-- Reads the code, and fails if no variant has it. -/
def get [Enumeration ε] (f : CodeField ε) : Access Block ε := do
  let c ← f.codeField.get
  liftM (Enumeration.ofCode ε c)

/-- Writes the variant's code. -/
def set [Enumeration ε] (f : CodeField ε) (v : ε) : Access Block Unit :=
  f.codeField.set (Enumeration.code v)

end CodeField

/-- A fixed number of values, one after the other. -/
structure FixedArray (α : Type) where
  offset : Nat
  length : Nat
  order : ByteOrder := .littleEndian

namespace FixedArray

/-- The item at `index`, as a member of its own. -/
def item [Scalar α] (a : FixedArray α) (index : Nat) : ScalarField α where
  offset := a.offset + index * Scalar.width α
  order := a.order

/-- Fails unless the array has an item at `index`. -/
def checkIndex (a : FixedArray α) (index : Nat) : Access σ Unit :=
  if index < a.length then pure () else throw (.indexOutOfRange index a.length)

/-- Reads the item at `index`. -/
def get [Scalar α] (a : FixedArray α) (index : Nat) : Access Block α := do
  a.checkIndex index
  (a.item index).get

/-- Writes the item at `index`. -/
def set [Scalar α] (a : FixedArray α) (index : Nat) (value : α) : Access Block Unit := do
  a.checkIndex index
  (a.item index).set value

/-- Fails unless `count` items can be moved between the front of the array and the
places from `start` on of a list of the given length. -/
def checkTransfer (a : FixedArray α) (start count available : Nat) : Access σ Unit :=
  if a.length ≤ start then throw (.offsetOutOfRange start a.length)
  else if a.length < count then throw (.lengthOutOfRange count a.length)
  else if available < start + count then throw (.lengthOutOfRange count (available - start))
  else pure ()

/-- Copies the first `count` items to the places from `start` on of the
destination. -/
def getInto [Scalar α] (a : FixedArray α) (start count : Nat) : Access (Block × List α) Unit := do
  let (b, target) ← MonadState.get
  a.checkTransfer start count target.length
  Access.focus (.prod Block.memoryPart (.region start count))
    (Memory.loadArray (b.offset + a.offset) a.order)

/-- Copies the `count` items from `start` on of the source to the front of the
array. -/
def putFrom [Scalar α] (a : FixedArray α) (source : List α) (start count : Nat) :
    Access Block Unit := do
  a.checkTransfer start count source.length
  Block.inMemory fun base =>
    Memory.storeArray (base + a.offset) a.order (Region.read source start count)

end FixedArray

/-- One of the choices that the bits of a word stand for; the word is the whole
block. -/
structure Choice (α : Type) where
  bit : Nat
  order : ByteOrder := .littleEndian

namespace Choice

/-- Whether the choice is made. -/
def get [Word α] (c : Choice α) : Access Block Bool :=
  Block.inMemory fun base => Memory.testChoice α base c.order c.bit

/-- Makes or unmakes the choice. -/
def set [Word α] (c : Choice α) (value : Bool) : Access Block Unit :=
  Block.inMemory fun base => Memory.setChoice α base c.order c.bit value

end Choice

end Flyweight.Wire
