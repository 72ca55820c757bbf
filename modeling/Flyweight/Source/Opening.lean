import Flyweight.Source.Declaration
import Flyweight.Wire.Message

/- The functions that open a cursor, as accesses.

   The two numbers of a group's header have types of their own. A number is cast to its type
   where it is written and to a size, a number of a machine word, where it is read. Of the two
   only the count is checked before it is cast.

   Sums are taken on naturals, also those of the offsets and the header sizes that a schema
   declares. Generated source takes them on machine words: a sum of 2^64 or more stops it, or
   wraps in a release build. Here such a sum is read as lack of room, as no memory is that
   long. -/

namespace Flyweight

open Wire

namespace Primitive

/-- The values of the primitive type in generated source. -/
@[reducible] def Carrier : Primitive → Type
  | char | uint8 => UInt8
  | int8 => Int8
  | int16 => Int16
  | int32 => Int32
  | int64 => Int64
  | uint16 => UInt16
  | uint32 => UInt32
  | uint64 => UInt64
  | float => Binary32
  | double => Binary64

instance : (p : Primitive) → Scalar p.Carrier
  | char | uint8 => inferInstanceAs (Scalar UInt8)
  | int8 => inferInstanceAs (Scalar Int8)
  | int16 => inferInstanceAs (Scalar Int16)
  | int32 => inferInstanceAs (Scalar Int32)
  | int64 => inferInstanceAs (Scalar Int64)
  | uint16 => inferInstanceAs (Scalar UInt16)
  | uint32 => inferInstanceAs (Scalar UInt32)
  | uint64 => inferInstanceAs (Scalar UInt64)
  | float => inferInstanceAs (Scalar Binary32)
  | double => inferInstanceAs (Scalar Binary64)

theorem width_carrier (p : Primitive) : Scalar.width p.Carrier = p.size := by
  cases p <;> rfl

/-- The greatest value of an integral type, as a size. -/
def greatest (p : Primitive) : Nat :=
  match p.range? with
  | some (_, high) => high.toNat
  | none => 0

/-- A size, cast to the type: the bits that it has room for are kept. -/
def ofSize (p : Primitive) (n : Nat) : p.Carrier := Scalar.ofCode (n % Bytes.values p.size)

/-- A value of an integral type, cast to a size: the sign of a number below zero fills the
bits above it. -/
def toSize (p : Primitive) (a : p.Carrier) : Nat :=
  if p.isUnsigned ∨ 2 * Scalar.code a < Bytes.values p.size then Scalar.code a
  else 0x10000000000000000 - Bytes.values p.size + Scalar.code a

end Primitive

namespace Source

/-- The number as a member of the block that starts where the slot's place counts from. -/
def Slot.field (s : Slot) : ScalarField s.primitive.Carrier := ⟨s.place.offset, s.order⟩

namespace GroupCursor

/-- Moves past the header, to the first element. -/
def enter (c : GroupCursor) (blockLength count : Nat) : Access Message Cursor :=
  GroupLayout.enter { blockLength := c.blockLength, headerSize := c.headerSize } blockLength count

/-- Opens the group at the position, with the block length and the count on the wire. -/
def decode (c : GroupCursor) : Access Message Cursor := do
  let blockLength ← Access.focus Message.here c.blockLengthSlot.field.get
  let count ← Access.focus Message.here c.countSlot.field.get
  c.enter (c.blockLengthSlot.primitive.toSize blockLength) (c.countSlot.primitive.toSize count)

/-- Opens a group of `count` elements at the position and writes its header. -/
def encode (c : GroupCursor) (count : Nat) : Access Message Cursor := do
  if c.countSlot.primitive.greatest < count then
    throw (.lengthOutOfRange count c.countSlot.primitive.greatest)
  let m ← get
  Memory.checkPosition (m.position + c.headerSize) m.offset m.memory.length
  Access.focus Message.here
    (c.blockLengthSlot.field.set (c.blockLengthSlot.primitive.ofSize c.blockLength))
  Access.focus Message.here (c.countSlot.field.set (c.countSlot.primitive.ofSize count))
  c.enter c.blockLength count

/-- The cursor that is generated for a group of this form. -/
def ofLayout (typeName : String) (g : GroupLayout) (members : List Member) : GroupCursor where
  typeName := typeName
  blockLength := g.blockLength
  headerSize := g.headerSize
  blockLengthSlot := ⟨⟨"header", g.blockLengthField.offset⟩, .uint16, g.blockLengthField.order⟩
  countSlot := ⟨⟨"header", g.countField.offset⟩, .uint8, g.countField.order⟩
  members := members

end GroupCursor

end Source

end Flyweight
