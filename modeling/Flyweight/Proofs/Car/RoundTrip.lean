import Mathlib.Algebra.GroupWithZero.Nat
import Flyweight.Proofs.Car.Record

/- What is encoded as a car is decoded as that car.

   A car is written in the order of the schema: the root block, the two groups, the
   nested group and the data of the elements among them, and the data of the car. The
   writing succeeds exactly where the memory has room for the size of the car, touches
   no byte outside of it, and is read back by a flyweight bound to the same place. -/

namespace Flyweight.Car

open Wire

/-- A car. -/
structure Record where
  root : Root
  fuelFigures : List FuelFigures.Record
  performanceFigures : List PerformanceFigures.Record
  manufacturer : List UInt8
  model : List UInt8
  deriving DecidableEq, Repr

namespace Record

/-- The arrays have their lengths, and every length and count fits its word. -/
structure Fits (v : Record) : Prop where
  root : v.root.Fits
  fuelFigures : v.fuelFigures.length ≤ 255
  usageDescription : ∀ r ∈ v.fuelFigures, r.Fits
  performanceFigures : v.performanceFigures.length ≤ 255
  acceleration : ∀ r ∈ v.performanceFigures, r.Fits
  manufacturer : v.manufacturer.length ≤ 65535
  model : v.model.length ≤ 255

/-- The number of bytes of a car. -/
def size (v : Record) : Nat :=
  57 + 3 + (v.fuelFigures.map fun r => 6 + 1 + r.usageDescription.length).sum +
    3 + (v.performanceFigures.map fun r => 1 + 3 + 6 * r.accelerations.length).sum +
    2 + v.manufacturer.length + 1 + v.model.length

/-- The bytes behind the root block. -/
def tail (v : Record) : List UInt8 :=
  (Car.fuelFigures.header v.fuelFigures.length ++
      v.fuelFigures.flatMap FuelFigures.Record.bytes) ++
    ((Car.performanceFigures.header v.performanceFigures.length ++
        v.performanceFigures.flatMap PerformanceFigures.Record.bytes) ++
      (Car.manufacturer.bytes v.manufacturer ++ Car.model.bytes v.model))

theorem length_tail (v : Record) : v.tail.length + blockLength = v.size := by
  have fuel : (v.fuelFigures.flatMap FuelFigures.Record.bytes).length =
      (v.fuelFigures.map fun r => 6 + 1 + r.usageDescription.length).sum := by
    rw [List.length_flatMap]
    simp only [FuelFigures.length_bytes]
  have performance : (v.performanceFigures.flatMap PerformanceFigures.Record.bytes).length =
      (v.performanceFigures.map fun r => 1 + 3 + 6 * r.accelerations.length).sum := by
    rw [List.length_flatMap]
    simp only [PerformanceFigures.length_bytes]
  have two : Scalar.width UInt16 = 2 := rfl
  have one : Scalar.width UInt8 = 1 := rfl
  have root : blockLength = 57 := rfl
  simp only [tail, size, List.length_append, GroupLayout.length_header, VarData.length_bytes, fuel,
    performance, two, one, root]
  omega

end Record

/-- Writes what stands behind the root block. -/
def writeTail (v : Record) : Access Message Unit := do
  fuelFigures.writeAll FuelFigures.write v.fuelFigures
  performanceFigures.writeAll PerformanceFigures.write v.performanceFigures
  manufacturer.put v.manufacturer
  model.put v.model

/-- Writes a car at an offset of a memory. -/
def encode (clearing : Bool) (v : Record) (memory : Memory) (offset : Nat) :
    Access Message Unit := do
  reset memory offset
  Access.focus Message.root (writeRoot clearing v.root)
  writeTail v

/-- Reads what stands behind the root block; `spare` is how much longer than the data its
destination is. -/
def readTail (spare : Nat) (root : Root) : Access Message Record := do
  let fuelFigures ← fuelFigures.readAll (FuelFigures.read spare)
  let performanceFigures ← performanceFigures.readAll PerformanceFigures.read
  let manufacturer ← manufacturer.read spare
  let model ← model.read spare
  return { root, fuelFigures, performanceFigures, manufacturer, model }

/-- Reads the car at an offset of a memory. -/
def decode (spare : Nat) (memory : Memory) (offset : Nat) : Access Message Record := do
  reset memory offset
  let root ← Access.focus Message.root readRoot
  readTail spare root

theorem fuelFigures_standard : fuelFigures.Standard := ⟨rfl, rfl, rfl, by decide⟩

theorem performanceFigures_standard : performanceFigures.Standard := ⟨rfl, rfl, rfl, by decide⟩

section RoundTrip
variable {v : Record} (fits : v.Fits)
include fits

theorem emits_tail : Emits (writeTail v) v.tail :=
  (GroupLayout.emits fuelFigures_standard
      (fun r h => FuelFigures.emits (fits.usageDescription r h)) fits.fuelFigures).append
    ((GroupLayout.emits performanceFigures_standard
        (fun r h => PerformanceFigures.emits (fits.acceleration r h)) fits.performanceFigures).append
      ((manufacturer.emits fits.manufacturer).append (model.emits fits.model)))

theorem takes_tail (spare : Nat) : Takes (readTail spare v.root) v.tail v :=
  (GroupLayout.takes fuelFigures_standard
      (fun r h => FuelFigures.takes (fits.usageDescription r h) spare) fits.fuelFigures).bind
    ((GroupLayout.takes performanceFigures_standard
        (fun r h => PerformanceFigures.takes (fits.acceleration r h)) fits.performanceFigures).bind
      ((manufacturer.takes fits.manufacturer spare).bind
        ((model.takes fits.model spare).map _)))

/-- The number of bytes that are written is the size of the car. -/
theorem length_bytes (old : UInt8) : (v.root.bytes old ++ v.tail).length = v.size := by
  rw [List.length_append, Root.length_bytes fits.root, Nat.add_comm, v.length_tail]

/-- Binding and writing the root block leaves its bytes, and the position behind them. -/
theorem encode_root (clearing : Bool) {memory : Memory} {offset : Nat} (m : Message)
    (room : offset + blockLength ≤ memory.length) :
    ∃ old, (clearing = true → old = 0) ∧ (encode clearing v memory offset).outcome m =
      (writeTail v).outcome (Message.emitted ⟨memory, offset, 0⟩ (v.root.bytes old)) := by
  have bound : blockLength ≤ memory.length - offset := by omega
  obtain ⟨old, cleared, written⟩ := writeRoot_eq fits.root clearing (b := ⟨memory, offset⟩) room
  have emitted : (Access.focus Message.root (writeRoot clearing v.root)).outcome
      ⟨memory, offset, blockLength⟩ =
        (.ok (), Message.emitted ⟨memory, offset, 0⟩ (v.root.bytes old)) := by
    rw [Access.outcome_focus, Message.root, written, Message.emitted, Root.length_bytes fits.root,
      Nat.zero_add]
    rfl
  refine ⟨old, cleared, ?_⟩
  rw [encode, Access.outcome_bind, reset, Message.outcome_reset, if_pos bound]
  simp only [Access.outcome_bind, emitted]

/-- A car that has room is written as its bytes, over cleared choices if it clears them. -/
theorem encode_over (clearing : Bool) {memory : Memory} {offset : Nat} (m : Message)
    (room : offset + v.size ≤ memory.length) :
    ∃ old, (clearing = true → old = 0) ∧ (encode clearing v memory offset).outcome m =
      (.ok (), Message.emitted ⟨memory, offset, 0⟩ (v.root.bytes old ++ v.tail)) := by
  have size := v.length_tail
  have inside : offset + blockLength ≤ memory.length := by omega
  obtain ⟨old, cleared, rooted⟩ := encode_root fits clearing m inside
  have whole : Message.HasRoom ⟨memory, offset, 0⟩ (v.root.bytes old ++ v.tail).length := by
    rw [length_bytes fits]
    exact room
  have behind := (Message.hasRoom_behind whole.front).mpr whole
  refine ⟨old, cleared, ?_⟩
  calc (encode clearing v memory offset).outcome m
      = (writeTail v).outcome (Message.emitted ⟨memory, offset, 0⟩ (v.root.bytes old)) := rooted
    _ = (.ok (), (Message.emitted ⟨memory, offset, 0⟩ (v.root.bytes old)).emitted v.tail) :=
        (emits_tail fits).done _ behind
    _ = (.ok (), Message.emitted ⟨memory, offset, 0⟩ (v.root.bytes old ++ v.tail)) := by
        rw [Message.emitted_append whole]

theorem encode_eq (clearing : Bool) {memory : Memory} {offset : Nat} (m : Message)
    (room : offset + v.size ≤ memory.length) :
    ∃ old, (encode clearing v memory offset).outcome m =
      (.ok (), Message.emitted ⟨memory, offset, 0⟩ (v.root.bytes old ++ v.tail)) :=
  (encode_over fits clearing m room).imp fun _ written => written.2

/-- Without room for the whole car, the writing fails. -/
theorem encode_fails (clearing : Bool) {memory : Memory} {offset : Nat} (m : Message)
    (full : ¬ offset + v.size ≤ memory.length) :
    ∃ e, ((encode clearing v memory offset).outcome m).1 = .error e := by
  by_cases room : offset + blockLength ≤ memory.length
  · -- The root block is written, and what stands behind it finds no room.
    obtain ⟨old, -, rooted⟩ := encode_root fits clearing m room
    have front : Message.HasRoom ⟨memory, offset, 0⟩ (v.root.bytes old).length := by
      rw [Root.length_bytes fits.root]
      exact room
    rw [rooted]
    refine (emits_tail fits).fails _ front.emitted ?_
    rw [Message.hasRoom_behind front, length_bytes fits]
    exact full
  · -- An offset past the end leaves a limit of zero, which is still below the block.
    have bound : ¬ blockLength ≤ memory.length - offset := by
      have : 0 < blockLength := by decide
      omega
    have refused : ((reset memory offset).outcome m).1 =
        .error (.positionOutOfRange blockLength (memory.length - offset)) := by
      rw [reset, Message.outcome_reset, if_neg bound]
    exact ⟨_, Access.fails_bind refused _⟩

/-- A car whose bytes are at the offset is read. -/
theorem decode_eq (spare : Nat) {memory : Memory} {offset : Nat} (m : Message) {old : UInt8}
    (holds : memory.Holds offset (v.root.bytes old ++ v.tail)) :
    (decode spare memory offset).outcome m = (.ok v, ⟨memory, offset, v.size⟩) := by
  obtain ⟨front, back⟩ := Memory.holds_append.mp holds
  have root := reads_root fits.root old ⟨memory, offset⟩ front
  have size := v.length_tail
  have inside := holds.inside
  rw [length_bytes fits] at inside
  have bound : blockLength ≤ memory.length - offset := by omega
  rw [Root.length_bytes fits.root] at back
  have rooted : (Access.focus Message.root readRoot).outcome ⟨memory, offset, blockLength⟩ =
      (.ok v.root, ⟨memory, offset, blockLength⟩) := by
    rw [Access.outcome_focus, Message.root, root]
  have rest := takes_tail fits spare ⟨memory, offset, blockLength⟩ back
  rw [decode, Access.outcome_bind, reset, Message.outcome_reset, if_pos bound]
  simp only [Access.outcome_bind, rooted, rest]
  rw [Message.passed, Nat.add_comm, size]

end RoundTrip

/-- The writing of a car succeeds exactly where the memory has room for its size. Then
the position is that size, no byte apart from the car has changed, and a flyweight that
is bound to the same place reads the same car. -/
theorem decode_of_encode {v : Record} (fits : v.Fits) (clearing : Bool) (spare : Nat)
    (memory : Memory) (offset : Nat) (m fresh : Message) :
    ((∃ after, (encode clearing v memory offset).outcome m = (.ok (), after)) ↔
        offset + v.size ≤ memory.length) ∧
      ∀ after, (encode clearing v memory offset).outcome m = (.ok (), after) →
        after.position = v.size ∧ after.offset = offset ∧
          after.memory.length = memory.length ∧
          (∀ i, i < offset ∨ offset + v.size ≤ i → after.memory[i]? = memory[i]?) ∧
          (decode spare after.memory offset).outcome fresh =
            (.ok v, ⟨after.memory, offset, v.size⟩) := by
  by_cases room : offset + v.size ≤ memory.length
  · obtain ⟨old, written⟩ := encode_eq fits clearing m room
    refine ⟨⟨fun _ => room, fun _ => ⟨_, written⟩⟩, ?_⟩
    intro after succeeded
    obtain rfl : Message.emitted ⟨memory, offset, 0⟩ (v.root.bytes old ++ v.tail) = after :=
      congrArg Prod.snd (written.symm.trans succeeded)
    have size := length_bytes fits old
    have inside : offset + 0 + (v.root.bytes old ++ v.tail).length ≤ memory.length := by
      rw [size]
      exact room
    refine ⟨(Nat.zero_add _).trans size, rfl, Region.length_write inside, ?_, ?_⟩
    · intro i apart
      refine (Region.getElem?_write inside i).trans (if_neg ?_)
      omega
    · exact decode_eq fits spare fresh (Memory.holds_write inside)
  · obtain ⟨e, failed⟩ := encode_fails fits clearing m room
    have never (after : Message) : (encode clearing v memory offset).outcome m ≠ (.ok (), after) := by
      intro succeeded
      rw [succeeded] at failed
      exact nomatch failed
    exact ⟨⟨fun ⟨after, succeeded⟩ => absurd succeeded (never after), fun h => absurd h room⟩,
      fun after succeeded => absurd succeeded (never after)⟩

/-- A small car that has some of everything. -/
def roadster : Record where
  root := {
    serialNumber := 1234
    modelYear := 2013
    available := .t
    code := .b
    someNumbers := [11, 22, 33, 44, 55]
    vehicleCode := [97, 98, 99, 100, 101, 102]
    extras := { sunRoof := true, sportsPack := false, cruiseControl := true }
    engine := {
      capacity := 2000
      numCylinders := 4
      manufacturerCode := [49, 50, 51]
      efficiency := -35
      booleanType := .t
      booster := { boostType := .nitrous, horsePower := 200 } }
    seqNumber := 7
    weight := ⟨1150681088⟩ }
  fuelFigures := [⟨30, ⟨1108317798⟩, [85, 114, 98, 97, 110]⟩, ⟨75, ⟨1109393408⟩, []⟩]
  performanceFigures := [⟨95, [⟨30, ⟨1082130432⟩⟩, ⟨60, ⟨1089470464⟩⟩]⟩, ⟨99, []⟩]
  manufacturer := [72, 111, 110, 100, 97]
  model := [67, 105, 118, 105, 99]

theorem decode_of_encode_roadster :
    roadster.Fits ∧ ∃ after,
      (encode true roadster (List.replicate 123 255) 8).outcome {} = (.ok (), after) ∧
        after.position = 115 ∧
        (decode 3 after.memory 8).outcome {} = (.ok roadster, ⟨after.memory, 8, 115⟩) := by
  have fits : roadster.Fits :=
    ⟨⟨rfl, rfl, rfl⟩, by decide, by decide, by decide, by decide, by decide, by decide⟩
  obtain ⟨room, result⟩ := decode_of_encode fits true 3 (List.replicate 123 255) 8 {} {}
  have enough : 8 + roadster.size ≤ (List.replicate 123 (255 : UInt8)).length := by
    rw [List.length_replicate]
    decide
  obtain ⟨after, written⟩ := room.mpr enough
  obtain ⟨position, _, _, _, decoded⟩ := result after written
  exact ⟨fits, after, written, position, decoded⟩

end Flyweight.Car
