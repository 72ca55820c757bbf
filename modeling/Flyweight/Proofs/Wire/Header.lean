import Flyweight.Proofs.Wire.Position
import Flyweight.Source.Opening

/- What a cursor writes into the header of its group, and what it reads there.

   The header has two numbers, each in a type of its own, and a size that the position moves
   past. Nothing ties these together but what the schema says, so each statement asks for
   what it needs of them:

   1. a count that its type holds is read back from wherever a header was written, since it
      is written last (`decode_after_encode`);
   2. the block length is read back if its bytes are apart from those of the count
      (`Slot.Apart`) and its type holds it;
   3. if both numbers lie in the header (`Contained`), a header is written wherever there is
      room for it, and no byte outside it is (`encode_ok_iff`, `encode_frame`). -/

namespace Flyweight

open Wire

/-! ## Casts -/

namespace Primitive

theorem greatest_lt (p : Primitive) : p.greatest < Bytes.values p.size := by
  cases p <;> decide

/-- The greatest value of a type with a sign leaves the highest bit clear. -/
theorem greatest_half (p : Primitive) :
    p.isUnsigned = true ∨ 2 * p.greatest < Bytes.values p.size := by
  cases p <;> decide

/-- A size that the type holds is the same size after it was cast there and back. -/
theorem toSize_ofSize {p : Primitive} {n : Nat} (fits : n ≤ p.greatest) :
    p.toSize (p.ofSize n) = n := by
  have small : n < Bytes.values p.size := Nat.lt_of_le_of_lt fits p.greatest_lt
  have code : Scalar.code (p.ofSize n) = n := by
    rw [ofSize, Nat.mod_eq_of_lt small, Scalar.code_ofCode _ (by rwa [width_carrier])]
  have half : p.isUnsigned = true ∨ 2 * n < Bytes.values p.size := by
    rcases p.greatest_half with unsigned | clear
    · exact .inl unsigned
    · exact .inr (by omega)
  rw [toSize, code, if_pos half]

end Primitive

namespace Source

/-! ## Places in the header -/

/-- Where the number ends, from where its place counts. -/
def Slot.past (s : Slot) : Nat := s.place.offset + s.primitive.size

/-- The bytes of the two numbers do not overlap. -/
def Slot.Apart (s t : Slot) : Prop := s.past ≤ t.place.offset ∨ t.past ≤ s.place.offset

instance (s t : Slot) : Decidable (s.Apart t) :=
  inferInstanceAs (Decidable (s.past ≤ t.place.offset ∨ t.past ≤ s.place.offset))

namespace GroupCursor

/-- Both numbers lie in the header. -/
def Contained (c : GroupCursor) : Prop :=
  c.blockLengthSlot.past ≤ c.headerSize ∧ c.countSlot.past ≤ c.headerSize

instance (c : GroupCursor) : Decidable c.Contained :=
  inferInstanceAs (Decidable (c.blockLengthSlot.past ≤ c.headerSize ∧
    c.countSlot.past ≤ c.headerSize))

/-- A header is written at the position: the memory has both numbers, and the position can
move past the header. -/
structure Open (c : GroupCursor) (m : Message) : Prop where
  limit : m.position + c.headerSize ≤ m.memory.length - m.offset
  blockLength : m.HasRoom c.blockLengthSlot.past
  count : m.HasRoom c.countSlot.past

/-- Numbers that lie in a header are in the memory if the header is. -/
theorem open_iff_hasRoom {c : GroupCursor} (inside : c.Contained) {m : Message} :
    c.Open m ↔ m.HasRoom c.headerSize := by
  constructor
  · intro given
    have limit := given.limit
    have room := given.count
    unfold Message.HasRoom at room ⊢
    omega
  · intro room
    exact ⟨(Message.le_limit_iff room.offset_le _).mpr room, room.mono inside.1,
      room.mono inside.2⟩

section Accesses
variable {c : GroupCursor} {m : Message} {count : Nat}

/-- The memory with both numbers of the header written at the position, the count last. -/
def written (c : GroupCursor) (m : Message) (count : Nat) : Memory :=
  Region.write
    (Region.write m.memory (m.offset + m.position + c.blockLengthSlot.place.offset)
      (Scalar.encode c.blockLengthSlot.order (c.blockLengthSlot.primitive.ofSize c.blockLength)))
    (m.offset + m.position + c.countSlot.place.offset)
    (Scalar.encode c.countSlot.order (c.countSlot.primitive.ofSize count))

/-- The block length that the header at the position says. -/
def wireBlockLength (c : GroupCursor) (m : Message) : Nat :=
  c.blockLengthSlot.primitive.toSize (Scalar.decode c.blockLengthSlot.order
    (Region.read m.memory (m.offset + m.position + c.blockLengthSlot.place.offset)
      c.blockLengthSlot.primitive.size))

/-- The count that the header at the position says. -/
def wireCount (c : GroupCursor) (m : Message) : Nat :=
  c.countSlot.primitive.toSize (Scalar.decode c.countSlot.order
    (Region.read m.memory (m.offset + m.position + c.countSlot.place.offset)
      c.countSlot.primitive.size))

theorem outcome_enter (c : GroupCursor) (m : Message) (blockLength count : Nat) :
    (c.enter blockLength count).outcome m =
      if m.position + c.headerSize ≤ m.memory.length - m.offset then
        (.ok (GroupLayout.cursorAt (m.passed c.headerSize) blockLength count),
          m.passed c.headerSize)
      else (.error (.positionOutOfRange (m.position + c.headerSize)
        (m.memory.length - m.offset)), m) := by
  simp only [enter, GroupLayout.enter, Access.outcome_bind, Access.outcome_get,
    Message.outcome_setPosition]
  by_cases limit : m.position + c.headerSize ≤ m.memory.length - m.offset
  · simp only [if_pos limit, Access.outcome_pure]
    rfl
  · simp only [if_neg limit]

/-- A number is read where its bytes are in the memory. -/
theorem outcome_get_slot (s : Slot) (m : Message) :
    (Access.focus Message.here s.field.get).outcome m =
      if m.HasRoom s.past then
        (.ok (Scalar.decode s.order
          (Region.read m.memory (m.offset + m.position + s.place.offset) s.primitive.size)), m)
      else
        (.error (.bufferOverflow (m.offset + m.position + s.place.offset) s.primitive.size
          m.memory.length), m) := by
  rw [Message.outcome_get_here, Primitive.width_carrier]
  rfl

/-- A number is written where there is memory for its bytes. -/
theorem outcome_set_slot (s : Slot) (a : s.primitive.Carrier) (m : Message) :
    (Access.focus Message.here (s.field.set a)).outcome m =
      if m.HasRoom s.past then
        (.ok (), { m with
          memory := Region.write m.memory (m.offset + m.position + s.place.offset)
            (Scalar.encode s.order a) })
      else
        (.error (.bufferOverflow (m.offset + m.position + s.place.offset) s.primitive.size
          m.memory.length), m) := by
  rw [Message.outcome_set_here, Primitive.width_carrier]
  rfl

theorem length_encode_slot (s : Slot) (a : s.primitive.Carrier) :
    (Scalar.encode s.order a).length = s.primitive.size := by
  rw [Scalar.length_encode, Primitive.width_carrier]

/-- The bytes of a number that is in the memory. -/
theorem inside_of_hasRoom {s : Slot} (room : m.HasRoom s.past) (a : s.primitive.Carrier) :
    m.offset + m.position + s.place.offset + (Scalar.encode s.order a).length ≤
      m.memory.length := by
  unfold Message.HasRoom Slot.past at room
  rw [length_encode_slot]
  omega

theorem length_written (room : c.Open m) : (c.written m count).length = m.memory.length := by
  have first := Region.length_write
    (inside_of_hasRoom room.blockLength (c.blockLengthSlot.primitive.ofSize c.blockLength))
  have second := inside_of_hasRoom room.count (c.countSlot.primitive.ofSize count)
  rw [written, Region.length_write (by rwa [first]), first]

/-- A header is written if the count fits its type and there is room. -/
theorem encode_eq (fits : count ≤ c.countSlot.primitive.greatest) (room : c.Open m) :
    (c.encode count).outcome m =
      (.ok (GroupLayout.cursorAt
          (Message.passed { m with memory := c.written m count } c.headerSize) c.blockLength count),
        Message.passed { m with memory := c.written m count } c.headerSize) := by
  let a := c.blockLengthSlot.primitive.ofSize c.blockLength
  let half : Message := { m with
    memory := Region.write m.memory (m.offset + m.position + c.blockLengthSlot.place.offset)
      (Scalar.encode c.blockLengthSlot.order a) }
  have size : half.memory.length = m.memory.length :=
    Region.length_write (inside_of_hasRoom room.blockLength a)
  have behind : half.HasRoom c.countSlot.past := by
    have inside := room.count
    unfold Message.HasRoom at inside ⊢
    rwa [size]
  have first : (Access.focus Message.here (c.blockLengthSlot.field.set a)).outcome m =
      (.ok (), half) := by
    rw [outcome_set_slot, if_pos room.blockLength]
  have second : (Access.focus Message.here
      (c.countSlot.field.set (c.countSlot.primitive.ofSize count))).outcome half =
      (.ok (), { m with memory := c.written m count }) := by
    rw [outcome_set_slot, if_pos behind]
    rfl
  have limit := room.limit
  have last : m.position + c.headerSize ≤ (c.written m count).length - m.offset := by
    rwa [length_written room]
  simp only [encode, if_neg (Nat.not_lt.mpr fits), Access.outcome_bind, Access.outcome_get,
    Memory.outcome_checkPosition, if_pos limit]
  rw [first]
  simp only [second, outcome_enter, if_pos last]

/-- A header that was written had a count of its type and room. -/
theorem open_of_encode {cursor : Cursor} {m' : Message}
    (h : (c.encode count).outcome m = (.ok cursor, m')) :
    count ≤ c.countSlot.primitive.greatest ∧ c.Open m := by
  by_cases fits : count ≤ c.countSlot.primitive.greatest
  · refine ⟨fits, ?_⟩
    simp only [encode, if_neg (Nat.not_lt.mpr fits), Access.outcome_bind, Access.outcome_get,
      Memory.outcome_checkPosition] at h
    by_cases limit : m.position + c.headerSize ≤ m.memory.length - m.offset
    · simp only [if_pos limit] at h
      rw [outcome_set_slot] at h
      by_cases blockLength : m.HasRoom c.blockLengthSlot.past
      · have kept := Region.length_write
          (inside_of_hasRoom blockLength (c.blockLengthSlot.primitive.ofSize c.blockLength))
        simp only [if_pos blockLength] at h
        rw [outcome_set_slot] at h
        by_cases room : m.HasRoom c.countSlot.past
        · exact ⟨limit, blockLength, room⟩
        · simp only [Message.HasRoom, kept] at h room
          simp [if_neg room] at h
      · simp [if_neg blockLength] at h
    · simp [if_neg limit] at h
  · simp [encode, if_pos (Nat.lt_of_not_le fits)] at h

/-- Where a header is, the cursor has the two numbers that it says. -/
theorem decode_eq (room : c.Open m) :
    c.decode.outcome m =
      (.ok (GroupLayout.cursorAt (m.passed c.headerSize) (c.wireBlockLength m) (c.wireCount m)),
        m.passed c.headerSize) := by
  have limit := room.limit
  simp only [decode, Access.outcome_bind]
  rw [outcome_get_slot, if_pos room.blockLength]
  simp only
  rw [outcome_get_slot, if_pos room.count]
  simp only [outcome_enter, if_pos limit]
  rfl

end Accesses

/-! ## What is read back -/

section ReadBack
variable {c : GroupCursor} {m m' : Message} {count : Nat} {cursor : Cursor}

/-- A header that was written is there. -/
theorem Open.written (room : c.Open m) : c.Open { m with memory := c.written m count } := by
  have size : (c.written m count).length = m.memory.length := length_written room
  have limit := room.limit
  have blockLength := room.blockLength
  have number := room.count
  unfold Message.HasRoom at blockLength number
  constructor
  · rwa [size]
  · rwa [Message.HasRoom, size]
  · rwa [Message.HasRoom, size]

/-- The count, which is written last, is read back. -/
theorem wireCount_written (fits : count ≤ c.countSlot.primitive.greatest) (room : c.Open m) :
    c.wireCount { m with memory := c.written m count } = count := by
  have kept := Region.length_write
    (inside_of_hasRoom room.blockLength (c.blockLengthSlot.primitive.ofSize c.blockLength))
  have inside := inside_of_hasRoom room.count (c.countSlot.primitive.ofSize count)
  rw [← kept] at inside
  have back := Region.read_write_self inside
  rw [length_encode_slot] at back
  show c.countSlot.primitive.toSize (Scalar.decode c.countSlot.order
    (Region.read (c.written m count) (m.offset + m.position + c.countSlot.place.offset)
      c.countSlot.primitive.size)) = count
  rw [GroupCursor.written, back, Scalar.decode_encode, Primitive.toSize_ofSize fits]

/-- The block length is read back, as it is in its type, if its bytes are not those of the
count. -/
theorem wireBlockLength_written (room : c.Open m) (apart : c.blockLengthSlot.Apart c.countSlot) :
    c.wireBlockLength { m with memory := c.written m count } =
      c.blockLengthSlot.primitive.toSize
        (c.blockLengthSlot.primitive.ofSize c.blockLength) := by
  have inside := inside_of_hasRoom room.blockLength
    (c.blockLengthSlot.primitive.ofSize c.blockLength)
  have back := Region.read_write_self inside
  rw [length_encode_slot] at back
  have behind := inside_of_hasRoom room.count (c.countSlot.primitive.ofSize count)
  rw [← Region.length_write inside] at behind
  unfold Slot.Apart Slot.past at apart
  have kept := Region.read_write_apart behind
    (show m.offset + m.position + c.blockLengthSlot.place.offset + c.blockLengthSlot.primitive.size ≤
      m.offset + m.position + c.countSlot.place.offset ∨ _ from by
        rw [length_encode_slot]
        omega)
  show c.blockLengthSlot.primitive.toSize (Scalar.decode c.blockLengthSlot.order
    (Region.read (c.written m count) (m.offset + m.position + c.blockLengthSlot.place.offset)
      c.blockLengthSlot.primitive.size)) = _
  rw [GroupCursor.written, kept, back, Scalar.decode_encode]

/-- The header that a cursor wrote is read at the same position: the count as it was given,
and the block length, if its bytes are apart from those of the count, as it is after a cast
to its type. Nothing else differs between the two cursors. -/
theorem decode_after_encode (h : (c.encode count).outcome m = (.ok cursor, m')) :
    cursor.count = count ∧ cursor.blockLength = c.blockLength ∧
      ∃ blockLength, c.decode.outcome { m' with position := m.position } =
          (.ok { cursor with blockLength }, m') ∧
        (c.blockLengthSlot.Apart c.countSlot → blockLength =
          c.blockLengthSlot.primitive.toSize (c.blockLengthSlot.primitive.ofSize c.blockLength)) := by
  obtain ⟨fits, room⟩ := open_of_encode h
  rw [encode_eq fits room] at h
  obtain ⟨opened, rfl⟩ := Prod.mk.inj h
  obtain rfl := Except.ok.inj opened
  have read : c.decode.outcome { m with memory := c.written m count } = _ :=
    decode_eq room.written
  rw [wireCount_written fits room] at read
  exact ⟨rfl, rfl, _, read, wireBlockLength_written room⟩

/-- If both numbers lie in the header, opening a group of a count that its type holds
succeeds exactly where there is room for the header. -/
theorem encode_ok_iff (inside : c.Contained) (fits : count ≤ c.countSlot.primitive.greatest) :
    (∃ cursor m', (c.encode count).outcome m = (.ok cursor, m')) ↔ m.HasRoom c.headerSize := by
  rw [← open_iff_hasRoom inside]
  constructor
  · intro given
    obtain ⟨cursor, m', h⟩ := given
    exact (open_of_encode h).2
  · exact fun room => ⟨_, _, encode_eq fits room⟩

/-- Then no byte outside the header is written, and the first element starts behind it. -/
theorem encode_frame (inside : c.Contained)
    (h : (c.encode count).outcome m = (.ok cursor, m')) :
    cursor.element = m.offset + m.position + c.headerSize ∧
      ∀ i, i < m.offset + m.position ∨ m.offset + m.position + c.headerSize ≤ i →
        m'.memory[i]? = m.memory[i]? := by
  obtain ⟨fits, room⟩ := open_of_encode h
  rw [encode_eq fits room] at h
  obtain ⟨opened, rfl⟩ := Prod.mk.inj h
  obtain rfl := Except.ok.inj opened
  refine ⟨(Nat.add_assoc m.offset m.position c.headerSize).symm, fun i outside => ?_⟩
  have first := inside_of_hasRoom room.blockLength
    (c.blockLengthSlot.primitive.ofSize c.blockLength)
  have second := inside_of_hasRoom room.count (c.countSlot.primitive.ofSize count)
  rw [← Region.length_write first] at second
  unfold Contained Slot.past at inside
  show (c.written m count)[i]? = m.memory[i]?
  rw [written, Region.getElem?_write second, if_neg (by rw [length_encode_slot]; omega),
    Region.getElem?_write first, if_neg (by rw [length_encode_slot]; omega)]

end ReadBack

/-! ## The header of a layout -/

/-- The cursor that is generated for a layout reads the headers of the layout. -/
theorem decode_ofLayout (typeName : String) (g : GroupLayout) (members : List Member) :
    (ofLayout typeName g members).decode = g.decode :=
  rfl

/-- The cursor that is generated for a layout writes the headers of the layout. -/
theorem encode_ofLayout (typeName : String) (g : GroupLayout) (members : List Member)
    (count : Nat) : (ofLayout typeName g members).encode count = g.encode count := by
  have blockLength : Primitive.ofSize .uint16 g.blockLength = UInt16.ofNat g.blockLength :=
    UInt16.ofNat_mod_size
  have number : Primitive.ofSize .uint8 count = UInt8.ofNat count := UInt8.ofNat_mod_size
  have greatest : Primitive.greatest .uint8 = Word.greatest UInt8 := rfl
  unfold encode GroupLayout.encode
  simp only [ofLayout, blockLength, number, greatest, Word.ofNat?]
  by_cases fits : count ≤ Word.greatest UInt8
  · rw [if_pos fits, if_neg (Nat.not_lt.mpr fits)]
    rfl
  · rw [if_neg fits, if_pos (Nat.lt_of_not_le fits)]
    rfl

end GroupCursor

end Source

end Flyweight
