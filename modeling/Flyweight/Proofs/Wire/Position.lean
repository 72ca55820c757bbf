import Flyweight.Proofs.Wire.Fill

/- What the accesses at the position of a message do, exactly.

   Each of them checks first and acts then: it either does all that it is for and moves
   the position past it, or fails and leaves everything as it was. What it writes are
   the bytes from the old position to the new one. -/

namespace Flyweight.Wire

/-- The access fails at `s`, and leaves it as it is. -/
def Refuses (access : Access σ α) (s : σ) : Prop :=
  ∃ e, access.outcome s = (.error e, s)

namespace Message

/-- The memory goes on for at least `count` bytes after the position. -/
def HasRoom (m : Message) (count : Nat) : Prop :=
  m.offset + m.position + count ≤ m.memory.length

instance (m : Message) (count : Nat) : Decidable (m.HasRoom count) :=
  inferInstanceAs (Decidable (m.offset + m.position + count ≤ m.memory.length))

/-- The message after bytes were written at its position, with the position past
them. -/
def emitted (m : Message) (bytes : List UInt8) : Message where
  memory := Region.write m.memory (m.offset + m.position) bytes
  offset := m.offset
  position := m.position + bytes.length

/-- The message with its position moved past `count` bytes. -/
def passed (m : Message) (count : Nat) : Message := { m with position := m.position + count }

theorem HasRoom.mono {m : Message} {few many : Nat} (h : m.HasRoom many) (le : few ≤ many) :
    m.HasRoom few := by
  unfold HasRoom at *
  omega

theorem hasRoom_iff {m : Message} {before count : Nat} :
    m.HasRoom (before + count) ↔ m.offset + m.position + before + count ≤ m.memory.length := by
  rw [HasRoom, ← Nat.add_assoc]

theorem HasRoom.offset_le {m : Message} {count : Nat} (h : m.HasRoom count) :
    m.offset ≤ m.memory.length := by
  unfold HasRoom at h
  omega

/-- The limit of a position leaves room exactly where the bytes before it fit. -/
theorem le_limit_iff {m : Message} (h : m.offset ≤ m.memory.length) (count : Nat) :
    m.position + count ≤ m.memory.length - m.offset ↔ m.HasRoom count := by
  unfold HasRoom
  omega

theorem length_emitted {m : Message} {bytes : List UInt8} (h : m.HasRoom bytes.length) :
    (m.emitted bytes).memory.length = m.memory.length :=
  Region.length_write h

theorem emitted_nil (m : Message) : m.emitted [] = m := by
  rw [emitted, Region.write_nil]
  rfl

/-- What is emitted in two parts is emitted at once. -/
theorem emitted_append {m : Message} {front back : List UInt8}
    (h : m.HasRoom (front ++ back).length) :
    (m.emitted front).emitted back = m.emitted (front ++ back) := by
  unfold HasRoom at h
  rw [List.length_append] at h
  have joined : Region.write (Region.write m.memory (m.offset + m.position) front)
      (m.offset + m.position + front.length) back =
        Region.write m.memory (m.offset + m.position) (front ++ back) :=
    Region.write_append (by omega)
  simp only [emitted, List.length_append, ← joined, Nat.add_assoc]

theorem hasRoom_emitted {m : Message} {front : List UInt8} {count : Nat}
    (h : m.HasRoom front.length) :
    (m.emitted front).HasRoom count ↔ m.HasRoom (front.length + count) := by
  have size := length_emitted h
  unfold HasRoom at *
  rw [size]
  simp only [emitted]
  omega

/-- Room for two parts is room for the first, and room for the second behind it. -/
theorem HasRoom.front {m : Message} {front back : List UInt8} (h : m.HasRoom (front ++ back).length) :
    m.HasRoom front.length :=
  h.mono (by rw [List.length_append]; omega)

theorem hasRoom_behind {m : Message} {front back : List UInt8} (h : m.HasRoom front.length) :
    (m.emitted front).HasRoom back.length ↔ m.HasRoom (front ++ back).length := by
  rw [hasRoom_emitted h, List.length_append]

/-- What has been emitted leaves the position inside the memory. -/
theorem HasRoom.emitted {m : Message} {front : List UInt8} (h : m.HasRoom front.length) :
    (m.emitted front).HasRoom 0 :=
  (hasRoom_emitted h).mpr h

/-- What has been passed leaves the position inside the memory. -/
theorem HasRoom.passed {m : Message} {count : Nat} (h : m.HasRoom count) :
    (m.passed count).HasRoom 0 := by
  unfold HasRoom at *
  simp only [Message.passed]
  omega

/-- A position that room is left for is taken. -/
theorem setPosition_passed {m : Message} {count : Nat} (h : m.HasRoom count) :
    (setPosition (m.position + count)).outcome m = (.ok (), m.passed count) := by
  unfold HasRoom at h
  rw [outcome_setPosition, if_pos (by omega)]
  rfl

/-- A member of the block at the position is read where it fits. -/
theorem outcome_get_here [Scalar α] (f : ScalarField α) (m : Message) :
    (Access.focus here f.get).outcome m =
      if m.HasRoom (f.offset + Scalar.width α) then
        (.ok (Scalar.decode f.order
          (Region.read m.memory (m.offset + m.position + f.offset) (Scalar.width α))), m)
      else
        (.error (.bufferOverflow (m.offset + m.position + f.offset) (Scalar.width α)
          m.memory.length), m) := by
  rw [Access.outcome_focus, ScalarField.outcome_get]
  have fits : m.HasRoom (f.offset + Scalar.width α) ↔
      (here.get m).offset + f.offset + Scalar.width α ≤ (here.get m).memory.length := hasRoom_iff
  by_cases room : m.HasRoom (f.offset + Scalar.width α)
  · rw [if_pos room, if_pos (fits.mp room)]
    rfl
  · rw [if_neg room, if_neg (mt fits.mpr room)]
    rfl

/-- A member of the block at the position is written where it fits. -/
theorem outcome_set_here [Scalar α] (f : ScalarField α) (a : α) (m : Message) :
    (Access.focus here (f.set a)).outcome m =
      if m.HasRoom (f.offset + Scalar.width α) then
        (.ok (), { m with
          memory := Region.write m.memory (m.offset + m.position + f.offset)
            (Scalar.encode f.order a) })
      else
        (.error (.bufferOverflow (m.offset + m.position + f.offset) (Scalar.width α)
          m.memory.length), m) := by
  rw [Access.outcome_focus, ScalarField.outcome_set]
  have fits : m.HasRoom (f.offset + Scalar.width α) ↔
      (here.get m).offset + f.offset + Scalar.width α ≤ (here.get m).memory.length := hasRoom_iff
  by_cases room : m.HasRoom (f.offset + Scalar.width α)
  · rw [if_pos room, if_pos (fits.mp room)]
    rfl
  · rw [if_neg room, if_neg (mt fits.mpr room)]
    rfl

end Message

/-! ## Groups -/

namespace GroupLayout

/-- The header is three bytes: the block length, and after it the count. -/
structure Standard (g : GroupLayout) : Prop where
  headerSize : g.headerSize = 3
  blockLengthField : g.blockLengthField = ⟨0, .littleEndian⟩
  countField : g.countField = ⟨2, .littleEndian⟩
  blockLength_lt : g.blockLength < 65536

/-- The bytes of the header of a group of `count` elements. -/
def header (g : GroupLayout) (count : Nat) : List UInt8 :=
  Scalar.encode .littleEndian (UInt16.ofNat g.blockLength) ++
    Scalar.encode .littleEndian (UInt8.ofNat count)

@[simp]
theorem length_header (g : GroupLayout) (count : Nat) : (g.header count).length = 3 := by
  rw [header, List.length_append, Scalar.length_encode, Scalar.length_encode]
  rfl

/-- The cursor over a group whose first element is at the position. -/
def cursorAt (m : Message) (blockLength count : Nat) : Cursor where
  message := m
  element := m.offset + m.position
  blockLength := blockLength
  count := count
  index := 0

theorem enter_eq {g : GroupLayout} (std : g.Standard) {m : Message} (room : m.HasRoom 3)
    (blockLength count : Nat) :
    (g.enter blockLength count).outcome m =
      (.ok (cursorAt (m.passed 3) blockLength count), m.passed 3) := by
  simp only [enter, std.headerSize, Access.outcome_bind, Access.outcome_get,
    Message.setPosition_passed room, Access.outcome_pure]
  rfl

/-- Opening a group of `count` elements writes its header and moves past it. -/
theorem encode_eq {g : GroupLayout} (std : g.Standard) {m : Message} {count : Nat}
    (small : count ≤ 255) (room : m.HasRoom 3) :
    (g.encode count).outcome m =
      (.ok (cursorAt (m.emitted (g.header count)) g.blockLength count),
        m.emitted (g.header count)) := by
  have inside := room
  unfold Message.HasRoom at inside
  let first := Scalar.encode .littleEndian (UInt16.ofNat g.blockLength)
  let second := Scalar.encode .littleEndian (UInt8.ofNat count)
  have width : first.length = 2 := Scalar.length_encode _ _
  let half : Message := { m with memory := Region.write m.memory (m.offset + m.position) first }
  have known : Word.ofNat? UInt8 count = some (UInt8.ofNat count) := if_pos small
  have limit : m.position + 3 ≤ m.memory.length - m.offset := by omega
  have putBlockLength :
      (Access.focus Message.here (g.blockLengthField.set (UInt16.ofNat g.blockLength))).outcome m =
        (.ok (), half) := by
    rw [Message.outcome_set_here, std.blockLengthField]
    exact if_pos (room.mono (by decide))
  have size : half.memory.length = m.memory.length :=
    Region.length_write (by rw [width]; omega)
  have wider : half.HasRoom 3 := by
    unfold Message.HasRoom
    rw [size]
    exact inside
  -- The second member of the header is written right behind the first.
  have putCount :
      (Access.focus Message.here (g.countField.set (UInt8.ofNat count))).outcome half =
        (.ok (), { m with
          memory := Region.write m.memory (m.offset + m.position) (g.header count) }) := by
    have joined : Region.write half.memory (m.offset + m.position + first.length) second =
        Region.write m.memory (m.offset + m.position) (first ++ second) :=
      Region.write_append (by rw [width, Scalar.length_encode]; exact inside)
    rw [width] at joined
    rw [Message.outcome_set_here, std.countField]
    refine (if_pos wider).trans ?_
    rw [header, ← joined]
  have length : (Region.write m.memory (m.offset + m.position) (g.header count)).length =
      m.memory.length := Region.length_write (by rw [length_header]; exact inside)
  have entered := enter_eq std (m := { m with
    memory := Region.write m.memory (m.offset + m.position) (g.header count) })
    (by unfold Message.HasRoom; rw [length]; exact inside) g.blockLength count
  simp only [encode, known, Access.outcome_bind, Access.outcome_get, std.headerSize,
    Memory.outcome_checkPosition, if_pos limit, putBlockLength, putCount, entered]
  simp only [Message.emitted, Message.passed, length_header]

/-- A group whose header does not fit, or whose count its header does not hold, is not
opened. -/
theorem encode_refuses {g : GroupLayout} (std : g.Standard) {m : Message}
    (placed : m.offset ≤ m.memory.length) {count : Nat} (h : ¬ (count ≤ 255 ∧ m.HasRoom 3)) :
    Refuses (g.encode count) m := by
  by_cases small : count ≤ 255
  · have known : Word.ofNat? UInt8 count = some (UInt8.ofNat count) := if_pos small
    have limit : ¬ m.position + 3 ≤ m.memory.length - m.offset :=
      mt (Message.le_limit_iff placed 3).mp fun room => h ⟨small, room⟩
    simp only [Refuses, encode, known, Access.outcome_bind, Access.outcome_get, std.headerSize,
      Memory.outcome_checkPosition, if_neg limit]
    exact ⟨_, rfl⟩
  · have unknown : Word.ofNat? UInt8 count = none := if_neg small
    simp only [Refuses, encode, unknown]
    exact ⟨_, rfl⟩

/-- Opening a group reads the block length and the count from its header, and moves past
it. -/
theorem decode_eq {g : GroupLayout} (std : g.Standard) {m : Message} (room : m.HasRoom 3) :
    g.decode.outcome m =
      (.ok (cursorAt (m.passed 3)
        (Scalar.decode .littleEndian
          (Region.read m.memory (m.offset + m.position) 2) : UInt16).toNat
        (Scalar.decode .littleEndian
          (Region.read m.memory (m.offset + m.position + 2) 1) : UInt8).toNat),
        m.passed 3) := by
  have getBlockLength : (Access.focus Message.here g.blockLengthField.get).outcome m =
      (.ok (Scalar.decode .littleEndian (Region.read m.memory (m.offset + m.position) 2)), m) := by
    rw [Message.outcome_get_here, std.blockLengthField]
    exact if_pos (room.mono (by decide))
  have getCount : (Access.focus Message.here g.countField.get).outcome m =
      (.ok (Scalar.decode .littleEndian
        (Region.read m.memory (m.offset + m.position + 2) 1)), m) := by
    rw [Message.outcome_get_here, std.countField]
    exact if_pos room
  rw [decode, Access.outcome_bind, getBlockLength]
  simp only [Access.outcome_bind, getCount]
  exact enter_eq std room _ _

theorem decode_refuses {g : GroupLayout} (std : g.Standard) {m : Message} (h : ¬ m.HasRoom 3) :
    Refuses g.decode m := by
  have getCount : (Access.focus Message.here g.countField.get).outcome m =
      (.error (.bufferOverflow (m.offset + m.position + 2) 1 m.memory.length), m) := by
    rw [Message.outcome_get_here, std.countField]
    exact if_neg h
  rw [Refuses, decode, Access.outcome_bind, Message.outcome_get_here]
  -- Reading changes nothing, so it does not matter which of the two members is cut off.
  by_cases room : m.HasRoom (g.blockLengthField.offset + Scalar.width UInt16)
  · simp only [if_pos room, Access.outcome_bind, getCount]
    exact ⟨_, rfl⟩
  · simp only [if_neg room]
    exact ⟨_, rfl⟩

end GroupLayout

/-! ## Variable-length data -/

namespace VarData

/-- The bytes of variable-length data: the length and the data. -/
def bytes [Word α] (v : VarData α) (source : List UInt8) : List UInt8 :=
  Scalar.encode v.order (Scalar.ofCode source.length : α) ++ source

@[simp]
theorem length_bytes [Word α] (v : VarData α) (source : List UInt8) :
    (v.bytes source).length = Scalar.width α + source.length := by
  rw [bytes, List.length_append, Scalar.length_encode]

/-- The length of the data at the position, as its word says. -/
def wireLength [Word α] (v : VarData α) (m : Message) : Nat :=
  Scalar.code (Scalar.decode v.order
    (Region.read m.memory (m.offset + m.position) (Scalar.width α)) : α)

theorem length_eq [Word α] (v : VarData α) {m : Message} (room : m.HasRoom (Scalar.width α)) :
    v.length.outcome m = (.ok (v.wireLength m), m) := by
  have wider : m.HasRoom (v.lengthField.offset + Scalar.width α) := by
    rwa [lengthField, Nat.zero_add]
  rw [length, Access.outcome_bind, Message.outcome_get_here, if_pos wider]
  rfl

theorem length_refuses [Word α] (v : VarData α) {m : Message}
    (h : ¬ m.HasRoom (Scalar.width α)) : Refuses v.length m := by
  have narrow : ¬ m.HasRoom (v.lengthField.offset + Scalar.width α) := by
    rwa [lengthField, Nat.zero_add]
  rw [Refuses, length, Access.outcome_bind, Message.outcome_get_here, if_neg narrow]
  exact ⟨_, rfl⟩

/-- Data that fits is written behind its length. -/
theorem put_eq [Word α] (v : VarData α) {m : Message} {source : List UInt8}
    (small : source.length ≤ Word.greatest α)
    (room : m.HasRoom (Scalar.width α + source.length)) :
    (v.put source).outcome m = (.ok (), m.emitted (v.bytes source)) := by
  let size : α := Scalar.ofCode source.length
  have known : Word.ofNat? α source.length = some size := if_pos small
  have width := Scalar.length_encode v.order size
  have inside := room
  unfold Message.HasRoom at inside
  have limit : m.position + Scalar.width α + source.length ≤ m.memory.length - m.offset := by
    omega
  have front : m.offset + m.position + Scalar.width α ≤ m.memory.length := by omega
  have joined : Region.write (Region.write m.memory (m.offset + m.position)
      (Scalar.encode v.order size)) (m.offset + m.position + (Scalar.encode v.order size).length)
        source = Region.write m.memory (m.offset + m.position)
          (Scalar.encode v.order size ++ source) :=
    Region.write_append (by rw [width]; omega)
  rw [width] at joined
  have back : m.offset + (m.position + Scalar.width α) + source.length ≤
      (Region.write m.memory (m.offset + m.position) (Scalar.encode v.order size)).length := by
    rw [Region.length_write (by rw [width]; exact front)]
    omega
  -- The position is moved first; both writes go by where it was before.
  simp only [put, known, Access.outcome_bind, Access.outcome_get, Message.outcome_setPosition,
    if_pos limit, Access.outcome_focus, Message.memoryPart, Memory.outcome_store, if_pos front,
    Memory.outcome_putBytes, if_pos back]
  rw [Message.emitted, length_bytes]
  simp only [bytes, ← Nat.add_assoc, joined, size]

/-- Data that does not fit, or is longer than its length can say, is not written. -/
theorem put_refuses [Word α] (v : VarData α) {m : Message} (placed : m.offset ≤ m.memory.length)
    {source : List UInt8}
    (h : ¬ (source.length ≤ Word.greatest α ∧ m.HasRoom (Scalar.width α + source.length))) :
    Refuses (v.put source) m := by
  by_cases small : source.length ≤ Word.greatest α
  · have known : Word.ofNat? α source.length = some (Scalar.ofCode source.length) := if_pos small
    have limit : ¬ m.position + Scalar.width α + source.length ≤ m.memory.length - m.offset := by
      rw [Nat.add_assoc]
      exact mt (Message.le_limit_iff placed _).mp fun room => h ⟨small, room⟩
    simp only [Refuses, put, known, Access.outcome_bind, Access.outcome_get,
      Message.outcome_setPosition, if_neg limit]
    exact ⟨_, rfl⟩
  · have unknown : Word.ofNat? α source.length = none := if_neg small
    simp only [Refuses, put, unknown]
    exact ⟨_, rfl⟩

/-- Data that is there is copied as far as the destination has room, and passed
whole. -/
theorem get_eq [Word α] (v : VarData α) {m : Message}
    (room : m.HasRoom (Scalar.width α + v.wireLength m)) (target : List UInt8) :
    v.get.outcome (m, target) =
      (.ok (min target.length (v.wireLength m)), m.passed (Scalar.width α + v.wireLength m),
        Region.write target 0 (Region.read m.memory (m.offset + (m.position + Scalar.width α))
          (min target.length (v.wireLength m)))) := by
  have inside := room
  unfold Message.HasRoom at inside
  have limit : m.position + Scalar.width α + v.wireLength m ≤ m.memory.length - m.offset := by
    omega
  have size : (Region.read target 0 (min target.length (v.wireLength m))).length =
      min target.length (v.wireLength m) := Region.length_read (by omega)
  have back : m.offset + (m.position + Scalar.width α) + min target.length (v.wireLength m) ≤
      m.memory.length := by omega
  simp only [get, Access.outcome_bind, Access.outcome_focus, Lens.first,
    v.length_eq (room.mono (by omega)), Access.outcome_get, Message.outcome_setPosition,
    if_pos limit, Lens.prod, Lens.region, Message.memoryPart, Memory.getBytes,
    Memory.outcome_fetch, size, if_pos back, Access.outcome_modify, Access.outcome_pure]
  simp only [Message.passed, Nat.add_assoc]

/-- Data that does not end inside the memory is neither copied nor passed, with an error that
does not depend on the destination. -/
theorem get_refuses_alike [Word α] (v : VarData α) {m : Message}
    (placed : m.offset ≤ m.memory.length)
    (h : ¬ m.HasRoom (Scalar.width α + v.wireLength m)) :
    ∃ e, ∀ target, v.get.outcome (m, target) = (.error e, m, target) := by
  -- Either the length is read and the data ends outside, or there is no length to read.
  by_cases room : m.HasRoom (Scalar.width α)
  · have limit : ¬ m.position + Scalar.width α + v.wireLength m ≤ m.memory.length - m.offset := by
      rw [Nat.add_assoc]
      exact mt (Message.le_limit_iff placed _).mp h
    refine ⟨.positionOutOfRange (m.position + Scalar.width α + v.wireLength m)
      (m.memory.length - m.offset), fun target => ?_⟩
    simp only [get, Access.outcome_bind, Access.outcome_focus, Lens.first,
      v.length_eq room, Access.outcome_get, Message.outcome_setPosition, if_neg limit]
  · obtain ⟨e, refused⟩ := v.length_refuses room
    refine ⟨e, fun target => ?_⟩
    simp only [get, Access.outcome_bind, Access.outcome_focus, Lens.first, refused]

theorem get_refuses [Word α] (v : VarData α) {m : Message} (placed : m.offset ≤ m.memory.length)
    (h : ¬ m.HasRoom (Scalar.width α + v.wireLength m)) (target : List UInt8) :
    Refuses v.get (m, target) := by
  obtain ⟨e, refused⟩ := v.get_refuses_alike placed h
  exact ⟨e, refused target⟩

end VarData

/-! ## Elements -/

/-- Entering an element whose block fits moves past the block. -/
theorem Cursor.next_eq {c : Cursor} (left : c.index < c.count)
    (room : c.message.HasRoom c.blockLength) :
    next.outcome c = (.ok (), { c with
      message := c.message.passed c.blockLength,
      element := c.message.offset + c.message.position,
      index := c.index + 1 }) := by
  have limit : c.message.position + c.blockLength ≤ c.message.memory.length - c.message.offset := by
    unfold Message.HasRoom at room
    omega
  rw [outcome_next, if_pos left]
  exact if_pos limit

/-- Without an element left, or without room for its block, the cursor stays. -/
theorem Cursor.next_refuses {c : Cursor} (placed : c.message.offset ≤ c.message.memory.length)
    (h : ¬ (c.index < c.count ∧ c.message.HasRoom c.blockLength)) : Refuses next c := by
  rw [Refuses, outcome_next]
  by_cases left : c.index < c.count
  · have limit := mt (Message.le_limit_iff placed c.blockLength).mp fun room => h ⟨left, room⟩
    simp only [if_pos left, if_neg limit]
    exact ⟨_, rfl⟩
  · rw [if_neg left]
    exact ⟨_, rfl⟩

end Flyweight.Wire
