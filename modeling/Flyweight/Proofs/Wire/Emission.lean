import Flyweight.Proofs.Wire.Position

/- The bytes that accesses at the position of a message leave behind, or walk over.

   An emission (`Emits`) is described by its bytes alone: where they fit they are put at
   the position, which moves past them, and where they do not fit the access fails. A
   reading (`Takes`) finds a value in bytes that are there. The same is said of accesses
   that enter the next element of a group (`EmitsElement`, `TakesElement`), and a group
   is its header and the bytes of its elements, end to end, whatever the bytes of an
   element are. -/

namespace Flyweight.Wire

/-! ## Accesses to a message -/

/-- The access puts the bytes at the position and moves past them, where they fit, and
fails where they do not. -/
structure Emits (access : Access Message Unit) (bytes : List UInt8) : Prop where
  done : ∀ m : Message, m.HasRoom bytes.length → access.outcome m = (.ok (), m.emitted bytes)
  fails : ∀ m : Message, m.HasRoom 0 → ¬ m.HasRoom bytes.length →
    ∃ e, (access.outcome m).1 = .error e

/-- The access finds the value in the bytes at the position, and moves past them. -/
def Takes (access : Access Message α) (bytes : List UInt8) (a : α) : Prop :=
  ∀ m : Message, m.memory.Holds (m.offset + m.position) bytes →
    access.outcome m = (.ok a, m.passed bytes.length)

namespace Emits

theorem append {first second : Access Message Unit} {front back : List UInt8}
    (hf : Emits first front) (hs : Emits second back) :
    Emits (first >>= fun _ => second) (front ++ back) where
  done m room := by
    have early := room.front
    have late := (Message.hasRoom_behind early).mpr room
    rw [Access.outcome_bind, hf.done m early]
    simp only [hs.done _ late, Message.emitted_append room]
  fails m placed full := by
    -- Either the front does not fit, or it does and the back then has no room behind it.
    by_cases early : m.HasRoom front.length
    · have late := mt (Message.hasRoom_behind early).mp full
      rw [Access.outcome_bind, hf.done m early]
      exact hs.fails _ early.emitted late
    · obtain ⟨e, failed⟩ := hf.fails m placed early
      exact ⟨e, Access.fails_bind failed _⟩

end Emits

namespace Takes

theorem bind {first : Access Message α} {next : α → Access Message β} {front back : List UInt8}
    {a : α} {c : β} (hf : Takes first front a) (hs : Takes (next a) back c) :
    Takes (first >>= next) (front ++ back) c := by
  intro m holds
  obtain ⟨early, late⟩ := Memory.holds_append.mp holds
  rw [Access.outcome_bind, hf m early]
  have rest := hs (m.passed front.length) (by rwa [Message.passed, ← Nat.add_assoc])
  simp only [rest]
  simp only [Message.passed, List.length_append, Nat.add_assoc]

/-- What is found is put together from its parts. -/
theorem map {access : Access Message α} {bytes : List UInt8} {a : α} (h : Takes access bytes a)
    (f : α → β) : Takes (access >>= fun a => pure (f a)) bytes (f a) := by
  intro m holds
  rw [Access.outcome_bind, h m holds]
  rfl

end Takes

/-! ## Variable-length data -/

namespace VarData

theorem emits [Word α] (v : VarData α) {source : List UInt8}
    (small : source.length ≤ Word.greatest α) : Emits (v.put source) (v.bytes source) where
  done m room := v.put_eq small (by rwa [length_bytes] at room)
  fails m placed full := by
    have refuses : Refuses (v.put source) m :=
      v.put_refuses placed.offset_le (by rw [← length_bytes v]; exact fun h => full h.2)
    obtain ⟨e, refused⟩ := refuses
    exact ⟨e, by rw [refused]⟩

/-- Reads the data into a destination of their length and some more, and gives back what
was copied. -/
def read [Word α] (v : VarData α) (spare : Nat) : Access Message (List UInt8) := do
  let size ← v.length
  let (copied, target) ← Access.along (List.replicate (size + spare) 0) v.get
  return target.take copied

/-- Data behind its length is read back. -/
theorem takes [Word α] (v : VarData α) {source : List UInt8}
    (small : source.length ≤ Word.greatest α) (spare : Nat) :
    Takes (v.read spare) (v.bytes source) source := by
  intro m holds
  -- The length on the wire is that of the source, and the source is what stands behind it.
  have inside := holds.inside
  rw [length_bytes] at inside ⊢
  obtain ⟨front, back⟩ := Memory.holds_append.mp holds
  rw [Scalar.length_encode] at back
  have size : v.wireLength m = source.length := by
    have positive := Bytes.values_pos (Scalar.width α)
    have word : source.length < Bytes.values (Scalar.width α) := by
      unfold Word.greatest at small
      omega
    have same := front.same
    rw [Scalar.length_encode] at same
    rw [wireLength, same, Scalar.decode_encode, Scalar.code_ofCode _ word]
  have room : m.HasRoom (Scalar.width α + v.wireLength m) := by rwa [size]
  have copied : min (source.length + spare) source.length = source.length := by omega
  have data : Region.read m.memory (m.offset + (m.position + Scalar.width α)) source.length =
      source := by
    rw [← Nat.add_assoc]
    exact back.same
  rw [read, Access.outcome_bind, v.length_eq (room.mono (by omega))]
  simp only [Access.outcome_bind, Access.along, Access.outcome_ofOutcome, v.get_eq room, size,
    List.length_replicate, copied, data, Access.outcome_pure]
  rw [Region.write, List.take_zero, List.nil_append, List.take_left]

end VarData

/-! ## Elements of a group -/

/-- Enters the next element, and accesses its block. -/
def Cursor.inNext (access : Access Block α) : Access Cursor α := do
  next
  Access.focus block access

/-- The access enters the next element of a group of blocks of the given length, and puts
the bytes of the element: where they fit, it moves past them, and else it fails. -/
structure EmitsElement (access : Access Cursor Unit) (blockLength : Nat)
    (bytes : List UInt8) : Prop where
  done : ∀ c : Cursor, c.blockLength = blockLength → c.index < c.count →
    c.message.HasRoom bytes.length →
    ∃ element, access.outcome c = (.ok (),
      { c with message := c.message.emitted bytes, element, index := c.index + 1 })
  fails : ∀ c : Cursor, c.blockLength = blockLength → c.index < c.count →
    c.message.HasRoom 0 → ¬ c.message.HasRoom bytes.length →
    ∃ e, (access.outcome c).1 = .error e

/-- The access enters the next element, finds the value in its bytes, and moves past
them. -/
def TakesElement (access : Access Cursor α) (blockLength : Nat) (bytes : List UInt8)
    (a : α) : Prop :=
  ∀ c : Cursor, c.blockLength = blockLength → c.index < c.count →
    c.message.memory.Holds (c.message.offset + c.message.position) bytes →
    ∃ element, access.outcome c = (.ok a,
      { c with message := c.message.passed bytes.length, element, index := c.index + 1 })

namespace EmitsElement

/-- An element that is a block alone. -/
theorem ofBlock {fill : Access Block Unit} {blockLength : Nat} {bytes : List UInt8}
    (h : Fills fill 0 bytes) (size : bytes.length = blockLength) :
    EmitsElement (Cursor.inNext fill) blockLength bytes where
  done c length left room := by
    subst size
    have inside := room
    unfold Message.HasRoom at inside
    have filled := h ⟨c.message.memory, c.message.offset + c.message.position⟩ inside
    refine ⟨c.message.offset + c.message.position, ?_⟩
    rw [Cursor.inNext, Access.outcome_bind, Cursor.next_eq left (by rwa [length])]
    simp only [Access.outcome_focus, Cursor.block, Message.passed, filled, Block.written, length,
      Nat.add_zero, Message.emitted]
  fails c length left placed full := by
    subst size
    obtain ⟨e, refused⟩ := Cursor.next_refuses placed.offset_le
      (by rw [length]; exact fun h => full h.2)
    exact ⟨e, Access.fails_bind (by rw [refused]) _⟩

/-- An element that goes on at the position of the message. -/
theorem append {first : Access Cursor Unit} {second : Access Message Unit}
    {blockLength : Nat} {front back : List UInt8} (hf : EmitsElement first blockLength front)
    (hs : Emits second back) :
    EmitsElement (first >>= fun _ => Access.focus Cursor.messagePart second) blockLength
      (front ++ back) where
  done c length left room := by
    have early := room.front
    have late := (Message.hasRoom_behind early).mpr room
    obtain ⟨element, entered⟩ := hf.done c length left early
    refine ⟨element, ?_⟩
    rw [Access.outcome_bind, entered]
    simp only [Access.outcome_focus, Cursor.messagePart, hs.done _ late,
      Message.emitted_append room]
  fails c length left placed full := by
    by_cases early : c.message.HasRoom front.length
    · have late := mt (Message.hasRoom_behind early).mp full
      obtain ⟨element, entered⟩ := hf.done c length left early
      rw [Access.outcome_bind, entered]
      exact hs.fails _ early.emitted late
    · obtain ⟨e, failed⟩ := hf.fails c length left placed early
      exact ⟨e, Access.fails_bind failed _⟩

end EmitsElement

namespace TakesElement

theorem ofBlock {read : Access Block α} {blockLength : Nat} {bytes : List UInt8} {a : α}
    (h : Reads read 0 bytes a) (size : bytes.length = blockLength) :
    TakesElement (Cursor.inNext read) blockLength bytes a := by
  subst size
  intro c length left holds
  have room : c.message.HasRoom c.blockLength := by rw [length]; exact holds.inside
  have found := h ⟨c.message.memory, c.message.offset + c.message.position⟩ holds
  refine ⟨c.message.offset + c.message.position, ?_⟩
  rw [Cursor.inNext, Access.outcome_bind, Cursor.next_eq left room]
  simp only [Access.outcome_focus, Cursor.block, Message.passed, found, length]

theorem bind {first : Access Cursor α} {second : α → Access Message β} {blockLength : Nat}
    {front back : List UInt8} {a : α} {d : β} (hf : TakesElement first blockLength front a)
    (hs : Takes (second a) back d) :
    TakesElement (first >>= fun a => Access.focus Cursor.messagePart (second a)) blockLength
      (front ++ back) d := by
  intro c length left holds
  obtain ⟨early, late⟩ := Memory.holds_append.mp holds
  obtain ⟨element, entered⟩ := hf c length left early
  have rest := hs (c.message.passed front.length) (by rwa [Message.passed, ← Nat.add_assoc])
  refine ⟨element, ?_⟩
  rw [Access.outcome_bind, entered]
  simp only [Access.outcome_focus, Cursor.messagePart, rest]
  simp only [Message.passed, List.length_append, Nat.add_assoc]

end TakesElement

/-! ## Groups -/

namespace GroupLayout

variable {ρ : Type}

/-- Writes one record after the other, each in an element of its own. -/
def writeEach (write : ρ → Access Cursor Unit) : List ρ → Access Cursor Unit
  | [] => pure ()
  | r :: rest => do
    write r
    writeEach write rest

/-- Reads `count` records, each from an element of its own. -/
def readEach (read : Access Cursor ρ) : Nat → Access Cursor (List ρ)
  | 0 => pure []
  | count + 1 => do
    let r ← read
    let rest ← readEach read count
    return r :: rest

/-- Writes a group of records. -/
def writeAll (g : GroupLayout) (write : ρ → Access Cursor Unit) (records : List ρ) :
    Access Message Unit :=
  walk (g.encode records.length) (writeEach write records)

/-- Reads a group to its end. -/
def readAll (g : GroupLayout) (read : Access Cursor ρ) : Access Message (List ρ) :=
  walk g.decode do readEach read (← get).count

section Walk
variable {write : ρ → Access Cursor Unit} {read : Access Cursor α} {value : ρ → α}
  {bytes : ρ → List UInt8} {blockLength : Nat} {records : List ρ}

theorem writeEach_eq (each : ∀ r ∈ records, EmitsElement (write r) blockLength (bytes r))
    {c : Cursor} (length : c.blockLength = blockLength) (left : c.index + records.length ≤ c.count)
    (room : c.message.HasRoom (records.flatMap bytes).length) :
    ∃ element, (writeEach write records).outcome c = (.ok (),
      { c with
        message := c.message.emitted (records.flatMap bytes)
        element
        index := c.index + records.length }) := by
  -- The cursor varies: the rest is written with the cursor that the first record leaves.
  induction records generalizing c with
  | nil => exact ⟨c.element, by rw [List.flatMap_nil, Message.emitted_nil]; rfl⟩
  | cons r rest ih =>
    rw [List.length_cons] at left
    rw [List.flatMap_cons] at room
    have early := room.front
    have late := (Message.hasRoom_behind early).mpr room
    obtain ⟨place, entered⟩ := (each r List.mem_cons_self).done c length (by omega) early
    obtain ⟨element, walked⟩ := ih (fun r' h => each r' (List.mem_cons_of_mem r h))
      (c := { c with message := c.message.emitted (bytes r), element := place, index := c.index + 1 })
      length (by simp only; omega) late
    refine ⟨element, ?_⟩
    rw [writeEach, Access.outcome_bind, entered]
    simp only [walked, Message.emitted_append room, List.flatMap_cons, List.length_cons]
    rw [Nat.add_right_comm, Nat.add_assoc]

theorem writeEach_fails (each : ∀ r ∈ records, EmitsElement (write r) blockLength (bytes r))
    {c : Cursor} (length : c.blockLength = blockLength) (left : c.index + records.length ≤ c.count)
    (placed : c.message.HasRoom 0) (full : ¬ c.message.HasRoom (records.flatMap bytes).length) :
    ∃ e, ((writeEach write records).outcome c).1 = .error e := by
  induction records generalizing c with
  | nil => exact absurd placed full
  | cons r rest ih =>
    rw [List.length_cons] at left
    rw [List.flatMap_cons] at full
    have element := each r List.mem_cons_self
    by_cases early : c.message.HasRoom (bytes r).length
    · obtain ⟨place, entered⟩ := element.done c length (by omega) early
      rw [writeEach, Access.outcome_bind, entered]
      exact ih (fun r' h => each r' (List.mem_cons_of_mem r h)) length (by simp only; omega)
        early.emitted (mt (Message.hasRoom_behind early).mp full)
    · obtain ⟨e, failed⟩ := element.fails c length (by omega) placed early
      exact ⟨e, Access.fails_bind failed _⟩

theorem readEach_eq (each : ∀ r ∈ records, TakesElement read blockLength (bytes r) (value r))
    {c : Cursor} (length : c.blockLength = blockLength) (left : c.index + records.length ≤ c.count)
    (holds : c.message.memory.Holds (c.message.offset + c.message.position)
      (records.flatMap bytes)) :
    ∃ element, (readEach read records.length).outcome c = (.ok (records.map value),
      { c with
        message := c.message.passed (records.flatMap bytes).length
        element
        index := c.index + records.length }) := by
  induction records generalizing c with
  | nil => exact ⟨c.element, rfl⟩
  | cons r rest ih =>
    rw [List.length_cons] at left
    rw [List.flatMap_cons] at holds
    obtain ⟨early, late⟩ := Memory.holds_append.mp holds
    obtain ⟨place, entered⟩ := each r List.mem_cons_self c length (by omega) early
    obtain ⟨element, walked⟩ := ih (fun r' h => each r' (List.mem_cons_of_mem r h))
      (c := { c with
        message := c.message.passed (bytes r).length, element := place, index := c.index + 1 })
      length (by simp only; omega) (by rwa [Message.passed, ← Nat.add_assoc])
    refine ⟨element, ?_⟩
    rw [List.length_cons, readEach, Access.outcome_bind, entered]
    simp only [Access.outcome_bind, walked, Access.outcome_pure]
    simp only [Message.passed, List.flatMap_cons, List.length_append, List.map_cons,
      Nat.add_assoc, Nat.add_comm 1]

end Walk

/-- A group is its header and the bytes of its elements. -/
theorem emits {g : GroupLayout} (std : g.Standard) {write : ρ → Access Cursor Unit}
    {bytes : ρ → List UInt8} {records : List ρ}
    (each : ∀ r ∈ records, EmitsElement (write r) g.blockLength (bytes r))
    (small : records.length ≤ 255) :
    Emits (g.writeAll write records) (g.header records.length ++ records.flatMap bytes) where
  done m room := by
    have early : m.HasRoom 3 := room.mono (by rw [List.length_append, length_header]; omega)
    obtain ⟨element, walked⟩ := writeEach_eq each
      (c := cursorAt (m.emitted (g.header records.length)) g.blockLength records.length) rfl
      (Nat.le_of_eq (Nat.zero_add _)) ((Message.hasRoom_behind room.front).mpr room)
    rw [writeAll, walk, Access.outcome_bind, encode_eq std small early]
    simp only [walked, Access.outcome_bind, Access.outcome_set, Access.outcome_liftM]
    simp only [cursorAt, Message.emitted_append room]
  fails m placed full := by
    by_cases early : m.HasRoom 3
    · have front : m.HasRoom (g.header records.length).length := by rwa [length_header]
      obtain ⟨e, failed⟩ := writeEach_fails each
        (c := cursorAt (m.emitted (g.header records.length)) g.blockLength records.length) rfl
        (Nat.le_of_eq (Nat.zero_add _)) front.emitted (mt (Message.hasRoom_behind front).mp full)
      refine ⟨e, ?_⟩
      rw [writeAll, walk, Access.outcome_bind, encode_eq std small early]
      simp only [failed, Access.outcome_bind, Access.outcome_set, Access.outcome_liftM]
    · obtain ⟨e, refused⟩ := encode_refuses std placed.offset_le (fun h => early h.2)
      exact ⟨e, Access.fails_bind (by rw [refused]) _⟩

/-- A group is read to its end, whatever else its elements hold than what is read. -/
theorem takes_values {g : GroupLayout} (std : g.Standard) {read : Access Cursor α}
    {value : ρ → α} {bytes : ρ → List UInt8} {records : List ρ}
    (each : ∀ r ∈ records, TakesElement read g.blockLength (bytes r) (value r))
    (small : records.length ≤ 255) :
    Takes (g.readAll read) (g.header records.length ++ records.flatMap bytes)
      (records.map value) := by
  intro m holds
  obtain ⟨front, back⟩ := Memory.holds_append.mp holds
  rw [length_header] at back
  have room : m.HasRoom 3 := by
    have inside := front.inside
    rwa [length_header] at inside
  obtain ⟨first, second⟩ := Memory.holds_append.mp front
  have blockLength : (Scalar.decode .littleEndian
      (Region.read m.memory (m.offset + m.position) 2) : UInt16).toNat = g.blockLength := by
    have same : Region.read m.memory (m.offset + m.position) 2 = _ := first.same
    rw [same, Scalar.decode_encode]
    exact UInt16.toNat_ofNat_of_lt std.blockLength_lt
  have count : (Scalar.decode .littleEndian
      (Region.read m.memory (m.offset + m.position + 2) 1) : UInt8).toNat = records.length := by
    have same : Region.read m.memory (m.offset + m.position + 2) 1 = _ := second.same
    rw [same, Scalar.decode_encode]
    exact UInt8.toNat_ofNat_of_lt (by show records.length < 256; omega)
  obtain ⟨element, walked⟩ := readEach_eq each
    (c := cursorAt (m.passed 3) g.blockLength records.length) rfl
    (Nat.le_of_eq (Nat.zero_add _)) (by rwa [cursorAt, Message.passed, ← Nat.add_assoc])
  rw [readAll, walk, Access.outcome_bind, decode_eq std room, blockLength, count]
  have counted : (cursorAt (m.passed 3) g.blockLength records.length).count = records.length := rfl
  simp only [Access.outcome_bind, Access.outcome_get, counted, walked, Access.outcome_set,
    Access.outcome_liftM]
  simp only [cursorAt, Message.passed, List.length_append, length_header, Nat.add_assoc]

/-- A group is read back to its end. -/
theorem takes {g : GroupLayout} (std : g.Standard) {read : Access Cursor ρ}
    {bytes : ρ → List UInt8} {records : List ρ}
    (each : ∀ r ∈ records, TakesElement read g.blockLength (bytes r) r)
    (small : records.length ≤ 255) :
    Takes (g.readAll read) (g.header records.length ++ records.flatMap bytes) records := by
  have read_back := takes_values std each small
  rwa [List.map_id'] at read_back

end GroupLayout

end Flyweight.Wire
