import Flyweight.Wire.Access
import Flyweight.Wire.Scalar

/- Bytes as a memory of scalars.

   Offsets and widths are naturals, so no sum of them wraps: an access succeeds
   when its last byte is inside the memory, whatever the size of its offset. A
   transfer of several values is checked as a whole before the first is moved.
   A transfer out of the memory fills a destination that is given along with it. -/

namespace Flyweight.Wire

/-- The bytes that flyweights look at. -/
abbrev Memory := List UInt8

namespace Memory

/-- How a memory shows itself to a reader of a log. -/
def description (m : Memory) : String :=
  "DirectBuffer \x7b capacity: " ++ toString m.length ++ " \x7d"

/-- Fails unless `size` bytes from `offset` on are inside the memory. -/
def checkRange (offset size : Nat) : Access Memory Unit := do
  let m ← get
  if offset + size ≤ m.length then pure ()
  else throw (.bufferOverflow offset size m.length)

/-- The `size` bytes from `offset` on. -/
def fetch (offset size : Nat) : Access Memory (List UInt8) := do
  checkRange offset size
  return Region.read (← get) offset size

/-- Copies bytes into the memory from `offset` on. -/
def putBytes (offset : Nat) (source : List UInt8) : Access Memory Unit := do
  checkRange offset source.length
  modify fun m => Region.write m offset source

/-- Fills the destination with the bytes from `offset` on. -/
def getBytes (offset : Nat) : Access (Memory × List UInt8) Unit := do
  let (_, target) ← get
  let bytes ← Access.focus (.first _ _) (fetch offset target.length)
  modify fun (m, _) => (m, bytes)

/-- The value at `offset`. -/
def load [Scalar α] (offset : Nat) (order : ByteOrder) : Access Memory α := do
  return Scalar.decode order (← fetch offset (Scalar.width α))

/-- Puts a value at `offset`. -/
def store [Scalar α] (offset : Nat) (order : ByteOrder) (a : α) : Access Memory Unit :=
  putBytes offset (Scalar.encode order a)

/-- Loads one value after the other into the slots of a destination; what the
first failure does not reach keeps its value. -/
def fill [Scalar α] (order : ByteOrder) (m : Memory) :
    Nat → List α → Except AccessError Unit × List α
  | _, [] => (.ok (), [])
  | offset, slot :: rest =>
    match (load offset order : Access Memory α).outcome m with
    | (.error e, _) => (.error e, slot :: rest)
    | (.ok a, _) =>
      match fill order m (offset + Scalar.width α) rest with
      | (result, filled) => (result, a :: filled)

/-- Fills the destination with the values that stand one after the other from
`offset` on. -/
def loadArray [Scalar α] (offset : Nat) (order : ByteOrder) :
    Access (Memory × List α) Unit := do
  let (_, target) ← get
  Access.focus (.first _ _) (checkRange offset (target.length * Scalar.width α))
  Access.ofOutcome fun (m, target) =>
    match fill order m offset target with
    | (result, filled) => (result, m, filled)

/-- Stores one value after the other. -/
def storeEach [Scalar α] (order : ByteOrder) : Nat → List α → Access Memory Unit
  | _, [] => pure ()
  | offset, a :: rest => do
    store offset order a
    storeEach order (offset + Scalar.width α) rest

/-- Stores the values one after the other from `offset` on. -/
def storeArray [Scalar α] (offset : Nat) (order : ByteOrder) (source : List α) :
    Access Memory Unit := do
  checkRange offset (source.length * Scalar.width α)
  storeEach order offset source

/-- Whether bit `bit` of the word at `offset` is set. -/
def testChoice (α : Type) [Word α] (offset : Nat) (order : ByteOrder) (bit : Nat) :
    Access Memory Bool := do
  return Word.testBit (← load offset order : α) bit

/-- Sets or clears bit `bit` of the word at `offset`. -/
def setChoice (α : Type) [Word α] (offset : Nat) (order : ByteOrder) (bit : Nat)
    (value : Bool) : Access Memory Unit := do
  let word : α ← load offset order
  store offset order (Word.withBit word bit value)

/-- Fails unless a position that counts from `offset` is at most at the end of a
memory of the given capacity. -/
def checkPosition (position offset capacity : Nat) : Access σ Unit :=
  if position ≤ capacity - offset then pure ()
  else throw (.positionOutOfRange position (capacity - offset))

theorem outcome_checkRange (offset size : Nat) (m : Memory) :
    (checkRange offset size).outcome m =
      if offset + size ≤ m.length then (.ok (), m)
      else (.error (.bufferOverflow offset size m.length), m) := by
  simp only [checkRange, Access.outcome_bind, Access.outcome_get]
  split <;> simp

theorem outcome_checkPosition (position offset capacity : Nat) (s : σ) :
    (checkPosition position offset capacity).outcome s =
      if position ≤ capacity - offset then (.ok (), s)
      else (.error (.positionOutOfRange position (capacity - offset)), s) := by
  rw [checkPosition]
  split <;> rfl

theorem outcome_fetch (offset size : Nat) (m : Memory) :
    (fetch offset size).outcome m =
      if offset + size ≤ m.length then (.ok (Region.read m offset size), m)
      else (.error (.bufferOverflow offset size m.length), m) := by
  rw [fetch, Access.outcome_bind, outcome_checkRange]
  by_cases fits : offset + size ≤ m.length <;> simp [fits]

theorem outcome_putBytes (offset : Nat) (source : List UInt8) (m : Memory) :
    (putBytes offset source).outcome m =
      if offset + source.length ≤ m.length then (.ok (), Region.write m offset source)
      else (.error (.bufferOverflow offset source.length m.length), m) := by
  rw [putBytes, Access.outcome_bind, outcome_checkRange]
  by_cases fits : offset + source.length ≤ m.length <;> simp [fits]

theorem outcome_load [Scalar α] (offset : Nat) (order : ByteOrder) (m : Memory) :
    (load offset order : Access Memory α).outcome m =
      if offset + Scalar.width α ≤ m.length then
        (.ok (Scalar.decode order (Region.read m offset (Scalar.width α))), m)
      else (.error (.bufferOverflow offset (Scalar.width α) m.length), m) := by
  rw [load, Access.outcome_bind, outcome_fetch]
  by_cases fits : offset + Scalar.width α ≤ m.length <;> simp [fits]

theorem outcome_store [Scalar α] (offset : Nat) (order : ByteOrder) (a : α) (m : Memory) :
    (store offset order a).outcome m =
      if offset + Scalar.width α ≤ m.length then
        (.ok (), Region.write m offset (Scalar.encode order a))
      else (.error (.bufferOverflow offset (Scalar.width α) m.length), m) := by
  rw [store, outcome_putBytes, Scalar.length_encode]

end Memory

end Flyweight.Wire
