import Flyweight.Proofs.Car.Record

/- A cursor goes by the block length on the wire.

   A cursor that was opened for reading takes its block length and its count from the header
   of the group, whatever the schema says. Each call of `next` moves it on by one block of
   that length, as long as the block is inside the memory, and after the last element it is
   refused. So where a call gets to is known from the number of calls (`after_cursorAt`), and

     1. the calls succeed as far as the blocks of that length fit, and the members of an
        element are read from where its block starts;
     2. blocks that are longer than those of the schema are read as if they were not: what
        follows the members in a block is passed over. -/

namespace Flyweight

open Wire

namespace Wire

/-- The cursor after calls of `next`, whether they succeed or not. -/
def Cursor.after (c : Cursor) : Nat → Cursor
  | 0 => c
  | k + 1 => (next.outcome (c.after k)).2

namespace GroupLayout

/-- The cursor in the element with number `k`, counted from one, of a group whose first
element is at the position of the message. Number zero is the cursor before that element. -/
def cursorIn (m : Message) (blockLength count k : Nat) : Cursor where
  message := m.passed (k * blockLength)
  element := m.offset + m.position + (k - 1) * blockLength
  blockLength := blockLength
  count := count
  index := k

section Calls
variable {m : Message} {blockLength count k : Nat}

theorem cursorIn_zero : cursorIn m blockLength count 0 = cursorAt m blockLength count := by
  simp [cursorIn, cursorAt, Message.passed]

theorem hasRoom_block :
    (m.passed (k * blockLength)).HasRoom blockLength ↔ m.HasRoom ((k + 1) * blockLength) := by
  simp only [Message.HasRoom, Message.passed, Nat.succ_mul]
  omega

/-- The next element is entered where its block fits. -/
theorem next_cursorIn (left : k < count) (room : m.HasRoom ((k + 1) * blockLength)) :
    Cursor.next.outcome (cursorIn m blockLength count k) =
      (.ok (), cursorIn m blockLength count (k + 1)) := by
  have inside : (cursorIn m blockLength count k).message.HasRoom blockLength :=
    hasRoom_block.mpr room
  rw [Cursor.next_eq left inside]
  simp only [cursorIn, Message.passed, Nat.add_sub_cancel, Nat.succ_mul, Nat.add_assoc]

theorem next_cursorIn_refuses (placed : m.HasRoom 0)
    (h : ¬ (k < count ∧ m.HasRoom ((k + 1) * blockLength))) :
    Refuses Cursor.next (cursorIn m blockLength count k) := by
  apply Cursor.next_refuses placed.offset_le
  intro both
  exact h ⟨both.1, hasRoom_block.mp both.2⟩

/-- Where the calls get to: as far as they are many, or as far as the blocks fit. -/
theorem after_cursorAt (blockLength : Nat) (placed : m.HasRoom 0) (le : k ≤ count) :
    ∃ j, j ≤ k ∧ m.HasRoom (j * blockLength) ∧
      (j = k ∨ ¬ m.HasRoom ((j + 1) * blockLength)) ∧
      (cursorAt m blockLength count).after k = cursorIn m blockLength count j := by
  induction k with
  | zero =>
    refine ⟨0, Nat.le_refl 0, ?_, .inl rfl, cursorIn_zero.symm⟩
    rwa [Nat.zero_mul]
  | succ k ih =>
    obtain ⟨j, few, reached, stop, after⟩ := ih (by omega)
    by_cases onward : j = k ∧ m.HasRoom ((k + 1) * blockLength)
    · obtain ⟨rfl, room⟩ := onward
      refine ⟨j + 1, Nat.le_refl _, room, .inl rfl, ?_⟩
      rw [Cursor.after, after, next_cursorIn (by omega) room]
    · -- A call that was refused once is refused again, as the cursor has not moved.
      have full : ¬ m.HasRoom ((j + 1) * blockLength) := by
        rcases stop with rfl | full
        · intro room
          exact onward ⟨rfl, room⟩
        · exact full
      have refuses : Refuses Cursor.next (cursorIn m blockLength count j) :=
        next_cursorIn_refuses placed (fun h => full h.2)
      obtain ⟨e, refused⟩ := refuses
      refine ⟨j, by omega, reached, .inr full, ?_⟩
      rw [Cursor.after, after, refused]

/-- As long as the blocks fit, there is a call for each. -/
theorem after_of_room (le : k ≤ count) (room : m.HasRoom (k * blockLength)) :
    (cursorAt m blockLength count).after k = cursorIn m blockLength count k := by
  obtain ⟨j, few, -, stop, after⟩ := after_cursorAt blockLength (room.mono (Nat.zero_le _)) le
  rcases stop with rfl | full
  · exact after
  · by_cases same : j = k
    · rw [after, same]
    · exfalso
      apply full
      exact room.mono (Nat.mul_le_mul_right blockLength (by omega))

/-- A call succeeds exactly where the blocks up to its own fit. -/
theorem next_after_iff (blockLength : Nat) (placed : m.HasRoom 0) (left : k < count) :
    (Cursor.next.outcome ((cursorAt m blockLength count).after k)).1 = .ok () ↔
      m.HasRoom ((k + 1) * blockLength) := by
  by_cases room : m.HasRoom ((k + 1) * blockLength)
  · have fewer : m.HasRoom (k * blockLength) :=
      room.mono (Nat.mul_le_mul_right blockLength (Nat.le_succ k))
    rw [after_of_room (Nat.le_of_lt left) fewer, next_cursorIn left room]
    exact iff_of_true rfl room
  · obtain ⟨j, few, -, stop, after⟩ := after_cursorAt blockLength placed (Nat.le_of_lt left)
    have full : ¬ m.HasRoom ((j + 1) * blockLength) := by
      rcases stop with rfl | full
      · exact room
      · exact full
    have refuses : Refuses Cursor.next (cursorIn m blockLength count j) :=
      next_cursorIn_refuses placed (fun h => full h.2)
    obtain ⟨e, refused⟩ := refuses
    rw [after, refused]
    apply iff_of_false _ room
    intro succeeded
    cases succeeded

/-- After as many calls as there are elements the next one is refused. -/
theorem next_after_last (room : m.HasRoom (count * blockLength)) :
    Cursor.next.outcome ((cursorAt m blockLength count).after count) =
      (.error (.indexOutOfRange count count), (cursorAt m blockLength count).after count) := by
  rw [after_of_room (Nat.le_refl count) room, Cursor.outcome_next]
  apply if_neg
  exact Nat.lt_irrefl count

end Calls

/-- Where both members of the header can be read, the group is opened with them. -/
theorem decode_of_reads {g : GroupLayout} (std : g.Standard) {m : Message} {length : UInt16}
    {count : UInt8}
    (readsLength : (Access.focus Message.here g.blockLengthField.get).outcome m = (.ok length, m))
    (readsCount : (Access.focus Message.here g.countField.get).outcome m = (.ok count, m)) :
    m.HasRoom 3 ∧
      g.decode.outcome m =
        (.ok (cursorAt (m.passed 3) length.toNat count.toNat), m.passed 3) := by
  -- The count is the last member of the header, so the header fits where it can be read.
  have room : m.HasRoom 3 := by
    rw [Message.outcome_get_here, std.countField] at readsCount
    apply Decidable.byContradiction
    intro full
    have outside : ¬ m.HasRoom (2 + Scalar.width UInt8) := full
    rw [if_neg outside] at readsCount
    cases readsCount
  rw [Message.outcome_get_here, std.blockLengthField, if_pos (room.mono (by decide))]
    at readsLength
  rw [Message.outcome_get_here, std.countField, if_pos (room.mono (by decide))] at readsCount
  obtain rfl := Except.ok.inj (congrArg Prod.fst readsLength)
  obtain rfl := Except.ok.inj (congrArg Prod.fst readsCount)
  exact ⟨room, decode_eq std room⟩

end GroupLayout

/-- A member of the current element is read from where the block of the element starts. -/
theorem Cursor.outcome_get_block [Scalar α] (f : ScalarField α) (c : Cursor) :
    (Access.focus block f.get).outcome c =
      if c.element + f.offset + Scalar.width α ≤ c.message.memory.length then
        (.ok (Scalar.decode f.order
          (Region.read c.message.memory (c.element + f.offset) (Scalar.width α))), c)
      else
        (.error (.bufferOverflow (c.element + f.offset) (Scalar.width α)
          c.message.memory.length), c) := by
  rw [Access.outcome_focus, ScalarField.outcome_get]
  show (_, Cursor.block.put _ c) = _
  by_cases fits : c.element + f.offset + Scalar.width α ≤ c.message.memory.length
  · have inside : (block.get c).offset + f.offset + Scalar.width α ≤
        (block.get c).memory.length := fits
    rw [if_pos fits, if_pos inside]
    rfl
  · have outside : ¬ (block.get c).offset + f.offset + Scalar.width α ≤
        (block.get c).memory.length := fits
    rw [if_neg fits, if_neg outside]
    rfl

/-- What follows the bytes that are read is left alone. -/
theorem Reads.append_right {access : Access Block α} {offset : Nat} {front : List UInt8} {a : α}
    (h : Reads access offset front a) (back : List UInt8) :
    Reads access offset (front ++ back) a := by
  intro b holds
  exact h b (Memory.holds_append.mp holds).1

end Wire

namespace Car.PerformanceFigures

/-- The bytes of a group of accelerations whose blocks have the given length: behind the values
of each of them come bytes that belong to its block. -/
def paddedBytes (length : UInt16) (padded : List (Acceleration.Record × List UInt8)) : List UInt8 :=
  { acceleration with blockLength := length.toNat }.header padded.length ++
    padded.flatMap fun p => p.1.bytes ++ p.2

/-- Accelerations in longer blocks are read as if their blocks were as long as the schema
says. -/
theorem takes_padded {length : UInt16} {padded : List (Acceleration.Record × List UInt8)}
    (small : padded.length ≤ 255)
    (sizes : ∀ p ∈ padded, acceleration.blockLength + p.2.length = length.toNat) :
    Takes (acceleration.readAll Acceleration.read) (paddedBytes length padded)
      (padded.map Prod.fst) := by
  let long : GroupLayout := { acceleration with blockLength := length.toNat }
  have standard : long.Standard := ⟨rfl, rfl, rfl, length.toNat_lt⟩
  -- How a group is opened for reading does not depend on the block length of the schema.
  have same : acceleration.readAll Acceleration.read = long.readAll Acceleration.read := rfl
  rw [same, paddedBytes]
  apply GroupLayout.takes_values standard _ small
  intro p listed
  refine TakesElement.ofBlock (Reads.append_right ?_ p.2) ?_
  · exact (Acceleration.mph.reads _).bind rfl ((Acceleration.seconds.reads _).map _)
  · rw [List.length_append]
    exact sizes p listed

section Element
variable {m : Message} {length count k : Nat}

/-- The first member of the element that was entered is read from the front of its block. -/
theorem mph_cursorIn :
    let entered := GroupLayout.cursorIn m length count (k + 1)
    let place := m.offset + m.position + k * length
    (Access.focus Cursor.block Acceleration.mph.get).outcome entered =
      if place + 2 ≤ m.memory.length then
        (.ok (Scalar.decode .littleEndian (Region.read m.memory place 2)), entered)
      else (.error (.bufferOverflow place 2 m.memory.length), entered) := by
  intro entered place
  rw [Cursor.outcome_get_block]
  rfl

theorem seconds_cursorIn :
    let entered := GroupLayout.cursorIn m length count (k + 1)
    let place := m.offset + m.position + k * length
    (Access.focus Cursor.block Acceleration.seconds.get).outcome entered =
      if place + 2 + 4 ≤ m.memory.length then
        (.ok (Scalar.decode .littleEndian (Region.read m.memory (place + 2) 4)), entered)
      else (.error (.bufferOverflow (place + 2) 4 m.memory.length), entered) := by
  intro entered place
  rw [Cursor.outcome_get_block]
  rfl

/-- A block that fits and is as long as in the schema has room for both members. -/
theorem fits_of_wide (room : m.HasRoom ((k + 1) * length))
    (wide : acceleration.blockLength ≤ length) :
    m.offset + m.position + k * length + 2 + 4 ≤ m.memory.length := by
  have block : acceleration.blockLength = 6 := rfl
  rw [Message.HasRoom, Nat.succ_mul] at room
  omega

end Element

/-- A cursor over accelerations that was opened for reading follows the header of the group.
With a header of block length `length` and count `count`, every call of `next` up to the last
element succeeds exactly where the blocks of that length fit; it then enters the element behind
those that were entered, whose members are read from where its block starts, without running
over the memory if the block is as long as in the schema. After the last element the next
call is refused. Accelerations in blocks that are at least as long as in the schema, with any
bytes behind their members, are read as those in blocks of the schema are. -/
theorem reading_strides :
    (∀ (figure : Cursor) (length : UInt16) (count : UInt8),
      (Access.focus Message.here acceleration.blockLengthField.get).outcome figure.message =
        (.ok length, figure.message) →
      (Access.focus Message.here acceleration.countField.get).outcome figure.message =
        (.ok count, figure.message) →
      let base := figure.message.offset
      let start := figure.message.position + 3
      let memory := figure.message.memory
      ∃ c : Cursor,
        (Access.focus Cursor.messagePart acceleration.decode).outcome figure =
          (.ok c, { figure with message := c.message }) ∧
        c.message = { figure.message with position := start } ∧
        c.blockLength = length.toNat ∧ c.count = count.toNat ∧
        (∀ k, k < count.toNat →
          ((Cursor.next.outcome (c.after k)).1 = .ok () ↔
            base + start + (k + 1) * length.toNat ≤ memory.length) ∧
          ((Cursor.next.outcome (c.after k)).1 = .ok () →
            let entered := c.after (k + 1)
            let place := base + start + k * length.toNat
            entered.element = place ∧
            entered.message = { figure.message with position := start + (k + 1) * length.toNat } ∧
            (Access.focus Cursor.block Acceleration.mph.get).outcome entered =
              (if place + 2 ≤ memory.length then
                (.ok (Scalar.decode .littleEndian (Region.read memory place 2)), entered)
              else (.error (.bufferOverflow place 2 memory.length), entered)) ∧
            (Access.focus Cursor.block Acceleration.seconds.get).outcome entered =
              (if place + 2 + 4 ≤ memory.length then
                (.ok (Scalar.decode .littleEndian (Region.read memory (place + 2) 4)), entered)
              else (.error (.bufferOverflow (place + 2) 4 memory.length), entered)) ∧
            (acceleration.blockLength ≤ length.toNat → place + 2 + 4 ≤ memory.length))) ∧
        ((∀ k, k < count.toNat → (Cursor.next.outcome (c.after k)).1 = .ok ()) →
          Cursor.next.outcome (c.after count.toNat) =
            (.error (.indexOutOfRange count.toNat count.toNat), c.after count.toNat))) ∧
    ∀ (length : UInt16) (padded : List (Acceleration.Record × List UInt8)),
      padded.length ≤ 255 →
      (∀ p ∈ padded, acceleration.blockLength + p.2.length = length.toNat) →
      ∀ long short : Message,
        long.memory.Holds (long.offset + long.position) (paddedBytes length padded) →
        short.memory.Holds (short.offset + short.position)
          (acceleration.header padded.length ++
            (padded.map Prod.fst).flatMap Acceleration.Record.bytes) →
        ((acceleration.readAll Acceleration.read).outcome long).1 = .ok (padded.map Prod.fst) ∧
          ((acceleration.readAll Acceleration.read).outcome short).1 =
            .ok (padded.map Prod.fst) := by
  refine ⟨?_, ?_⟩
  · intro figure length count readsLength readsCount base start memory
    obtain ⟨room, opened⟩ := GroupLayout.decode_of_reads acceleration_standard readsLength readsCount
    let first := figure.message.passed 3
    have placed : first.HasRoom 0 := room.passed
    refine ⟨GroupLayout.cursorAt first length.toNat count.toNat, ?_, rfl, rfl, rfl, ?_, ?_⟩
    · rw [Access.outcome_focus, Cursor.messagePart, opened]
      rfl
    · intro k left
      have fits := GroupLayout.next_after_iff length.toNat placed left
      refine ⟨fits, ?_⟩
      intro succeeded entered place
      have inside := fits.mp succeeded
      have here : entered = GroupLayout.cursorIn first length.toNat count.toNat (k + 1) :=
        GroupLayout.after_of_room left inside
      rw [here]
      exact ⟨rfl, rfl, mph_cursorIn, seconds_cursorIn, fits_of_wide inside⟩
    · intro succeeded
      apply GroupLayout.next_after_last
      -- The last of the calls says that all blocks fit; without elements there is none.
      cases number : count.toNat with
      | zero => rwa [Nat.zero_mul]
      | succ k =>
        have left : k < count.toNat := by omega
        rw [← number]
        have fits := (GroupLayout.next_after_iff length.toNat placed left).mp (succeeded k left)
        rwa [← number] at fits
  · intro length padded small sizes long short longHolds shortHolds
    refine ⟨?_, ?_⟩
    · rw [takes_padded small sizes long longHolds]
    · have number : (padded.map Prod.fst).length ≤ 255 := by rwa [List.length_map]
      rw [← List.length_map (f := Prod.fst)] at shortHolds
      rw [GroupLayout.takes acceleration_standard (fun a _ => Acceleration.takes a) number short
        shortHolds]

/-- Two accelerations in blocks of eight bytes, at the end of a memory. -/
def longBlocks : Memory :=
  paddedBytes 8 [(⟨30, ⟨0x40800000⟩⟩, [9, 9]), (⟨60, ⟨0x40f00000⟩⟩, [7, 7])]

theorem reading_strides_longBlocks :
    let values : List Acceleration.Record := [⟨30, ⟨0x40800000⟩⟩, ⟨60, ⟨0x40f00000⟩⟩]
    let m : Message := ⟨longBlocks, 0, 0⟩
    let schema : Message := ⟨acceleration.header 2 ++ values.flatMap Acceleration.Record.bytes, 0, 0⟩
    (∃ c : Cursor,
      (Access.focus Cursor.messagePart acceleration.decode).outcome ⟨m, 0, 1, 1, 1⟩ =
        (.ok c, ⟨c.message, 0, 1, 1, 1⟩) ∧
      (Cursor.next.outcome (c.after 1)).1 = .ok () ∧ (c.after 2).element = 11 ∧
      ((Access.focus Cursor.block Acceleration.mph.get).outcome (c.after 2)).1 = .ok 60 ∧
      Cursor.next.outcome (c.after 2) = (.error (.indexOutOfRange 2 2), c.after 2)) ∧
    ((acceleration.readAll Acceleration.read).outcome m).1 = .ok values ∧
      ((acceleration.readAll Acceleration.read).outcome schema).1 = .ok values := by
  intro values m schema
  obtain ⟨strides, layouts⟩ := reading_strides
  obtain ⟨c, opened, -, -, -, steps, last⟩ := strides ⟨m, 0, 1, 1, 1⟩ 8 2 rfl rfl
  have enters (k : Nat) (left : k < 2) : (Cursor.next.outcome (c.after k)).1 = .ok () := by
    apply (steps k left).1.mpr
    show 0 + 3 + (k + 1) * 8 ≤ 19
    omega
  have second := enters 1 (by decide)
  obtain ⟨place, -, mph, -⟩ := (steps 1 (by decide)).2 second
  refine ⟨⟨c, opened, second, place, ?_, last enters⟩, ?_⟩
  · rw [mph]
    rfl
  · exact layouts 8 [(⟨30, ⟨0x40800000⟩⟩, [9, 9]), (⟨60, ⟨0x40f00000⟩⟩, [7, 7])] (by decide)
      (by decide) m schema ⟨by decide, rfl⟩ ⟨by decide, rfl⟩

end Car.PerformanceFigures

end Flyweight
