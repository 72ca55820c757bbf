import Flyweight.Wire.Block

/- Flyweights over messages, their groups and their variable-length data.

   After the root block of a message come groups and variable-length data, whose
   places depend on what stands before them. The message has a position for this,
   which counts from where the message starts; reading or writing past the root
   block moves it on, and a cursor over a group moves the position of its message.
   A position is checked before it is taken. -/

namespace Flyweight.Wire

/-- A flyweight over a message. -/
structure Message where
  memory : Memory := []
  offset : Nat := 0
  position : Nat := 0
  deriving DecidableEq, Repr

namespace Message

/-- The memory of the message. -/
def memoryPart : Lens Message Memory where
  get m := m.memory
  put memory m := { m with memory }

/-- The root block of the message. -/
def root : Lens Message Block where
  get m := { memory := m.memory, offset := m.offset }
  put b m := { m with memory := b.memory }

/-- The block at the position. -/
def here : Lens Message Block where
  get m := { memory := m.memory, offset := m.offset + m.position }
  put b m := { m with memory := b.memory }

/-- Binds the flyweight to a message whose root block has the given length, and
takes the position after it. Where the block does not fit, the binding stays. -/
def reset (blockLength : Nat) (memory : Memory) (offset : Nat) : Access Message Unit := do
  Memory.checkPosition blockLength offset memory.length
  set (Message.mk memory offset blockLength)

/-- Takes a position, unless it is past the end of the memory. -/
def setPosition (position : Nat) : Access Message Unit := do
  let m ← get
  Memory.checkPosition position m.offset m.memory.length
  set { m with position }

theorem outcome_reset (blockLength : Nat) (memory : Memory) (offset : Nat) (m : Message) :
    (reset blockLength memory offset).outcome m =
      if blockLength ≤ memory.length - offset then (.ok (), ⟨memory, offset, blockLength⟩)
      else (.error (.positionOutOfRange blockLength (memory.length - offset)), m) := by
  rw [reset, Access.outcome_bind, Memory.outcome_checkPosition]
  by_cases fits : blockLength ≤ memory.length - offset <;> simp [fits]

theorem outcome_setPosition (position : Nat) (m : Message) :
    (setPosition position).outcome m =
      if position ≤ m.memory.length - m.offset then (.ok (), { m with position })
      else (.error (.positionOutOfRange position (m.memory.length - m.offset)), m) := by
  simp only [setPosition, Access.outcome_bind, Access.outcome_get, Memory.outcome_checkPosition]
  by_cases fits : position ≤ m.memory.length - m.offset <;> simp [fits]

end Message

/-- A cursor over the elements of a group. It has the message that the group is part
of, and moves the position of that message. -/
structure Cursor where
  message : Message
  /-- where the block of the current element starts in the memory -/
  element : Nat
  blockLength : Nat
  count : Nat
  /-- the number of elements that were entered -/
  index : Nat
  deriving DecidableEq, Repr

namespace Cursor

/-- The message of the cursor. -/
def messagePart : Lens Cursor Message where
  get c := c.message
  put message c := { c with message }

/-- The block of the current element. -/
def block : Lens Cursor Block where
  get c := { memory := c.message.memory, offset := c.element }
  put b c := { c with message := { c.message with memory := b.memory } }

/-- Whether an element is left. -/
def hasNext (c : Cursor) : Bool := c.index < c.count

/-- Enters the next element: its block starts at the position, which moves past
it. -/
def next : Access Cursor Unit := do
  let c ← get
  if c.hasNext then pure () else throw (.indexOutOfRange c.index c.count)
  Access.focus messagePart (Message.setPosition (c.message.position + c.blockLength))
  modify fun moved =>
    { moved with element := c.message.offset + c.message.position, index := c.index + 1 }

/-- A cursor with no element left, or whose next element does not fit, stays where it
is. -/
theorem outcome_next (c : Cursor) :
    next.outcome c =
      if c.index < c.count then
        let past := c.message.position + c.blockLength
        let limit := c.message.memory.length - c.message.offset
        if past ≤ limit then
          (.ok (), { c with
            message := { c.message with position := past },
            element := c.message.offset + c.message.position,
            index := c.index + 1 })
        else (.error (.positionOutOfRange past limit), c)
      else (.error (.indexOutOfRange c.index c.count), c) := by
  by_cases left : c.index < c.count
  · by_cases fits : c.message.position + c.blockLength ≤ c.message.memory.length - c.message.offset
    · simp [next, hasNext, left, fits, Message.outcome_setPosition, messagePart]
    · simp [next, hasNext, left, fits, Message.outcome_setPosition, messagePart]
  · simp [next, hasNext, left]

end Cursor

/-- The form of a group: the length of the block of an element, and a header that
says on the wire how long the blocks are and how many elements follow. -/
structure GroupLayout where
  blockLength : Nat
  headerSize : Nat := 3
  blockLengthField : ScalarField UInt16 := ⟨0, .littleEndian⟩
  countField : ScalarField UInt8 := ⟨2, .littleEndian⟩

namespace GroupLayout

/-- Moves past the header, to the first element. -/
def enter (g : GroupLayout) (blockLength count : Nat) : Access Message Cursor := do
  Message.setPosition ((← get).position + g.headerSize)
  let message ← get
  return { message, element := message.offset + message.position, blockLength, count, index := 0 }

/-- Opens the group at the position, with the block length and the count on the
wire. -/
def decode (g : GroupLayout) : Access Message Cursor := do
  let blockLength ← Access.focus Message.here g.blockLengthField.get
  let count ← Access.focus Message.here g.countField.get
  g.enter blockLength.toNat count.toNat

/-- Opens a group of `count` elements at the position and writes its header. -/
def encode (g : GroupLayout) (count : Nat) : Access Message Cursor := do
  match Word.ofNat? UInt8 count with
  | none => throw (.lengthOutOfRange count (Word.greatest UInt8))
  | some written =>
    let m ← get
    Memory.checkPosition (m.position + g.headerSize) m.offset m.memory.length
    Access.focus Message.here (g.blockLengthField.set (UInt16.ofNat g.blockLength))
    Access.focus Message.here (g.countField.set written)
    g.enter g.blockLength count

/-- Walks a group with a cursor; the message goes on from where the walk ends. -/
def walk (opened : Access Message Cursor) (body : Access Cursor α) : Access Message α := do
  let c ← opened
  let (result, c) := body.outcome c
  set c.message
  liftM result

end GroupLayout

/-- Variable-length data: its length as a word of type `α`, and then its bytes. -/
structure VarData (α : Type) where
  order : ByteOrder := .littleEndian

namespace VarData

/-- The length, at the front of the data. -/
def lengthField (v : VarData α) : ScalarField α := { offset := 0, order := v.order }

/-- The number of bytes of the data at the position. -/
def length [Word α] (v : VarData α) : Access Message Nat := do
  return Scalar.code (← Access.focus Message.here v.lengthField.get)

/-- Copies as many bytes of the data as the destination has room for, and moves past
the data; the answer is the number of bytes copied. -/
def get [Word α] (v : VarData α) : Access (Message × List UInt8) Nat := do
  let size ← Access.focus (.first _ _) v.length
  let (m, target) ← MonadState.get
  let start := m.position + Scalar.width α
  Access.focus (.first _ _) (Message.setPosition (start + size))
  let copied := min target.length size
  Access.focus (.prod Message.memoryPart (.region 0 copied)) (Memory.getBytes (m.offset + start))
  return copied

/-- Writes the data at the position, and moves past it. -/
def put [Word α] (v : VarData α) (source : List UInt8) : Access Message Unit := do
  match Word.ofNat? α source.length with
  | none => throw (.lengthOutOfRange source.length (Word.greatest α))
  | some size =>
    let m ← MonadState.get
    let start := m.position + Scalar.width α
    Message.setPosition (start + source.length)
    Access.focus Message.memoryPart (Memory.store (m.offset + m.position) v.order size)
    Access.focus Message.memoryPart (Memory.putBytes (m.offset + start) source)

end VarData

end Flyweight.Wire
