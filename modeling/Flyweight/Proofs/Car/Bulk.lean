import Flyweight.Proofs.Car.Independence
import Flyweight.Proofs.Wire.Bulk

/- Transfers between the arrays of a car and slices of the caller.

   The slice is what the start of a transfer counts in; the array is filled and read from its
   front. To put items in bulk is to set them one after the other (`setEach`), both as bytes
   in their place, and to get them in bulk is to get each of them. -/

namespace Flyweight

open Wire

/-- The message after bytes were written behind its start. -/
def Wire.Message.written (m : Message) (place : Nat) (bytes : List UInt8) : Message where
  memory := Region.write m.memory (m.offset + place) bytes
  offset := m.offset
  position := m.position

section Written
variable {m : Message} {place : Nat}

theorem Wire.Message.length_written {bytes : List UInt8}
    (fits : m.offset + place + bytes.length ≤ m.memory.length) :
    (m.written place bytes).memory.length = m.memory.length :=
  Region.length_write fits

/-- What is written in two parts, the second right after the first, is written at once. -/
theorem Wire.Message.written_append {front back : List UInt8}
    (fits : m.offset + place + front.length + back.length ≤ m.memory.length) :
    (m.written place front).written (place + front.length) back =
      m.written place (front ++ back) := by
  simp only [written, ← Nat.add_assoc, Region.write_append fits]

end Written

namespace Car

/-! ## The arrays -/

theorem arrays_eq : members.filter (fun M => M.arrayLength?.isSome) =
    [.array UInt32 someNumbers, .array UInt8 vehicleCode,
      .nested 39 (.array UInt8 Engine.manufacturerCode)] := rfl

/-- There are three arrays in the root block. -/
theorem array_cases {M : Member} (offered : M ∈ members) (items : M.Items α) :
    (M = .array UInt32 someNumbers ∧ items.length = 5) ∨
      (M = .array UInt8 vehicleCode ∧ items.length = 6) ∨
      (M = .nested 39 (.array UInt8 Engine.manufacturerCode) ∧ items.length = 3) := by
  have size := items.arrayLength?_eq
  have listed : M ∈ members.filter (fun M => M.arrayLength?.isSome) :=
    List.mem_filter.mpr ⟨offered, by rw [size]; rfl⟩
  simp only [arrays_eq, List.mem_cons, List.not_mem_nil, or_false] at listed
  rcases listed with rfl | rfl | rfl
  · exact .inl ⟨rfl, (Option.some.inj size).symm⟩
  · exact .inr (.inl ⟨rfl, (Option.some.inj size).symm⟩)
  · exact .inr (.inr ⟨rfl, (Option.some.inj size).symm⟩)

/-! ## Items one after the other -/

/-- Sets the items from `index` on to the values, one after the other, until one of them
cannot be set. -/
def setEach (m : Message) {M : Member} (offered : M ∈ members) (items : M.Items α)
    (index : Nat) : List α → Except AccessError Unit × Session .car × Unit
  | [] => (.ok (), ⟨m, []⟩, ())
  | value :: rest =>
    match used m offered (items.setItem index value) () with
    | (.ok (), s, ()) => setEach s.message offered items (index + 1) rest
    | failed => failed

section Fits
variable {m : Message} (fits : m.offset + blockLength ≤ m.memory.length) {M : Member}
  (offered : M ∈ members) (items : M.Items α)
include fits offered

theorem items_fit {index count : Nat} (few : index + count ≤ items.length) :
    m.offset + (items.front + index * items.width) + count * items.width ≤ m.memory.length := by
  have room := room_of_fits fits offered
  have behind := items.end_le_room
  have le := Nat.mul_le_mul_right items.width few
  rw [Nat.add_mul] at le
  simp only [Message.root] at room
  omega

/-- The items that are set one after the other are written at once. -/
theorem setEach_eq {index : Nat} {values : List α} (few : index + values.length ≤ items.length) :
    setEach m offered items index values =
      (.ok (), ⟨m.written (items.front + index * items.width) (values.flatMap items.encode), []⟩,
        ()) := by
  induction values generalizing m index with
  | nil =>
    rw [List.flatMap_nil, Message.written, Region.write_nil]
    rfl
  | cons value rest ih =>
    rw [List.length_cons] at few
    let place := items.front + index * items.width
    have set : used m offered (items.setItem index value) () =
        (.ok (), ⟨m.written place (items.encode value), []⟩, ()) :=
      used_eq offered (items.outcome_setItem (by omega) value (room_of_fits fits offered))
    have whole := items_fit fits offered items (show index + (1 + rest.length) ≤ items.length by omega)
    rw [Nat.add_mul, Nat.one_mul] at whole
    have size : (m.written place (items.encode value)).memory.length = m.memory.length := by
      apply Message.length_written
      rw [items.length_encode]
      omega
    have behind : items.front + (index + 1) * items.width =
        place + (items.encode value).length := by
      rw [items.length_encode, Nat.succ_mul, ← Nat.add_assoc]
    have next := ih (by rw [size]; exact fits) (show index + 1 + rest.length ≤ items.length by omega)
    rw [behind, Message.written_append] at next
    · rw [setEach, set]
      exact next
    · rw [items.length_encode, items.length_flatMap_encode]
      omega

theorem put_eq {source : List α} {start count : Nat}
    (given : Transferable items.length start count source.length) :
    used m offered (items.putFrom source start count) () =
      (.ok (), ⟨m.written items.front ((Region.read source start count).flatMap items.encode), []⟩,
        ()) :=
  used_eq offered (items.outcome_putFrom given (room_of_fits fits offered))

/-- A transfer writes inside the memory, and nothing but its items. -/
theorem put_frame {source : List α} {start count : Nat}
    (given : Transferable items.length start count source.length) {m' : Message}
    (put : m' = m.written items.front ((Region.read source start count).flatMap items.encode)) :
    m'.memory.length = m.memory.length ∧
      ∀ i, i < m.offset + items.front ∨ m.offset + items.front + count * items.width ≤ i →
        m'.memory[i]? = m.memory[i]? := by
  let bytes := (Region.read source start count).flatMap items.encode
  have width : bytes.length = count * items.width := by
    rw [items.length_flatMap_encode, Region.length_read given.inside]
  have few : 0 + count ≤ items.length := by
    rw [Nat.zero_add]
    exact given.few
  have room := items_fit fits offered items few
  rw [Nat.zero_mul, Nat.add_zero] at room
  have room' : m.offset + items.front + bytes.length ≤ m.memory.length := by rwa [width]
  subst put
  refine ⟨Region.length_write room', fun i outside => ?_⟩
  show (Region.write m.memory (m.offset + items.front) bytes)[i]? = m.memory[i]?
  rw [Region.getElem?_write room', width, if_neg (by omega)]

theorem put_each {source : List α} {start count : Nat}
    (given : Transferable items.length start count source.length) :
    used m offered (items.putFrom source start count) () =
      setEach m offered items 0 (Region.read source start count) := by
  have size := Region.length_read given.inside
  have few : 0 + (Region.read source start count).length ≤ items.length := by
    rw [size, Nat.zero_add]
    exact given.few
  rw [put_eq fits offered items given, setEach_eq fits offered items few, Nat.zero_mul, Nat.add_zero]

theorem get_each {slice : List α} {start count : Nat}
    (given : Transferable items.length start count slice.length) :
    ∃ values : List α, values.length = count ∧
      used m offered (items.getInto start count) slice =
        (.ok (), ⟨m, []⟩, Region.write slice start values) ∧
      ∀ i value, values[i]? = some value →
        used m offered (items.getItem i) () = (.ok value, ⟨m, []⟩, ()) := by
  obtain ⟨values, size, filled, each⟩ :=
    (independent_of_fits fits).gets offered items given.starts given.few given.inside
  refine ⟨values, size, filled, ?_⟩
  intro i value found
  have within : i < values.length := (List.getElem?_eq_some_iff.mp found).1
  have few := given.few
  have listed : i < items.length := by omega
  rw [← items.get_slot listed]
  exact each i value listed found

/-- What was put is got again. -/
theorem get_put {source slice : List α} {start count : Nat}
    (given : Transferable items.length start count source.length)
    (same : slice.length = source.length) :
    ∃ m', used m offered (items.putFrom source start count) () = (.ok (), ⟨m', []⟩, ()) ∧
      used m' offered (items.getInto start count) slice =
        (.ok (), ⟨m', []⟩, Region.write slice start (Region.read source start count)) := by
  let m' := m.written items.front ((Region.read source start count).flatMap items.encode)
  have put := put_eq fits offered items given
  obtain ⟨w, put', each, -⟩ :=
    (independent_of_fits fits).puts offered items given.starts given.few given.inside
  have after : m' = { m with memory := w } :=
    congrArg (fun r => r.2.1.message) (put.symm.trans put')
  rw [← after] at each
  obtain ⟨size, -⟩ := put_frame fits offered items given (show m' = _ from rfl)
  have fits' : m'.offset + blockLength ≤ m'.memory.length := by
    rw [size]
    exact fits
  have given' : Transferable items.length start count slice.length := by rwa [same]
  obtain ⟨values, length, got, listed⟩ := get_each fits' offered items given'
  have equal : values = Region.read source start count := by
    have front := Region.length_read given.inside
    apply List.ext_getElem (length.trans front.symm)
    intro i inside inside'
    have within : i < count := by omega
    have found : source[start + i]? = some (Region.read source start count)[i] := by
      have item := Region.getElem?_read source start count i
      rw [if_pos within, List.getElem?_eq_getElem inside'] at item
      exact item.symm
    have first := listed i values[i] (List.getElem?_eq_getElem inside)
    have second := each i _ within found
    rw [items.get_slot, first] at second
    exact Except.ok.inj (Prod.mk.inj second).1
  rw [equal] at got
  exact ⟨m', put, got⟩

end Fits

/-! ## Transfers -/

/-- Transfers between the items of an array of the car and slices of the caller. -/
structure BulkTransfers (m : Message) {M : Member} (offered : M ∈ members) (items : M.Items α) :
    Prop where
  array : (M = .array UInt32 someNumbers ∧ items.length = 5) ∨
    (M = .array UInt8 vehicleCode ∧ items.length = 6) ∨
    (M = .nested 39 (.array UInt8 Engine.manufacturerCode) ∧ items.length = 3)
  put_ok_iff (source : List α) (start count : Nat) :
    (used m offered (items.putFrom source start count) ()).1 = .ok () ↔
      Transferable items.length start count source.length
  /-- A transfer that is refused changes nothing. -/
  put_error {source : List α} {start count : Nat} {e : AccessError}
    (h : Refusal items.length start count source.length e) :
    used m offered (items.putFrom source start count) () = (.error e, ⟨m, []⟩, ())
  /-- To put items in bulk is to set the items from the first on, one after the other. -/
  put_each {source : List α} {start count : Nat}
    (given : Transferable items.length start count source.length) :
    used m offered (items.putFrom source start count) () =
      setEach m offered items 0 (Region.read source start count)
  /-- The items behind those that are put, and all bytes but theirs, stay as they are. -/
  put_others {source : List α} {start count : Nat}
    (given : Transferable items.length start count source.length) :
    ∃ w, used m offered (items.putFrom source start count) () =
        (.ok (), ⟨{ m with memory := w }, []⟩, ()) ∧
      w.length = m.memory.length ∧
      (∀ i, i < m.offset + items.front ∨ m.offset + items.front + count * items.width ≤ i →
        w[i]? = m.memory[i]?) ∧
      ∀ index, count ≤ index → index < items.length →
        Unaffected m { m with memory := w } offered (items.getItem index)
  get_ok_iff (slice : List α) (start count : Nat) :
    (used m offered (items.getInto start count) slice).1 = .ok () ↔
      Transferable items.length start count slice.length
  get_error {slice : List α} {start count : Nat} {e : AccessError}
    (h : Refusal items.length start count slice.length e) :
    used m offered (items.getInto start count) slice = (.error e, ⟨m, []⟩, slice)
  /-- To get items in bulk is to get each of them into its place of the slice. -/
  get_each {slice : List α} {start count : Nat}
    (given : Transferable items.length start count slice.length) :
    ∃ filled, used m offered (items.getInto start count) slice = (.ok (), ⟨m, []⟩, filled) ∧
      filled.length = slice.length ∧
      (∀ i, i < count → ∃ value, filled[start + i]? = some value ∧
        used m offered (items.getItem i) () = (.ok value, ⟨m, []⟩, ())) ∧
      ∀ i, i < start ∨ start + count ≤ i → filled[i]? = slice[i]?
  /-- What is put is got again. -/
  get_put {source slice : List α} {start count : Nat}
    (given : Transferable items.length start count source.length)
    (same : slice.length = source.length) :
    ∃ m' filled, used m offered (items.putFrom source start count) () = (.ok (), ⟨m', []⟩, ()) ∧
      used m' offered (items.getInto start count) slice = (.ok (), ⟨m', []⟩, filled) ∧
      Region.read filled start count = Region.read source start count

/-- The arrays of a car whose root block is inside the memory are transferred so. -/
theorem bulkTransfers_of_fits {m : Message} (fits : m.offset + blockLength ≤ m.memory.length)
    {M : Member} (offered : M ∈ members) (items : M.Items α) : BulkTransfers m offered items := by
  have put_error {source : List α} {start count : Nat} {e : AccessError}
      (h : Refusal items.length start count source.length e) :
      used m offered (items.putFrom source start count) () = (.error e, ⟨m, []⟩, ()) :=
    used_eq offered (items.putFrom_error h)
  have get_error {slice : List α} {start count : Nat} {e : AccessError}
      (h : Refusal items.length start count slice.length e) :
      used m offered (items.getInto start count) slice = (.error e, ⟨m, []⟩, slice) :=
    used_eq offered (items.getInto_error h)
  constructor
  case array => exact array_cases offered items
  case put_error => exact put_error
  case get_error => exact get_error
  case put_each =>
    intro source start count given
    exact put_each fits offered items given
  case put_ok_iff =>
    intro source start count
    apply ok_iff_transferable
    · intro given
      rw [put_eq fits offered items given]
    · intro e refused
      rw [put_error refused]
  case put_others =>
    intro source start count given
    obtain ⟨w, put, -, behind⟩ :=
      (independent_of_fits fits).puts offered items given.starts given.few given.inside
    have after : { m with memory := w } = m.written items.front
        ((Region.read source start count).flatMap items.encode) :=
      congrArg (fun r => r.2.1.message) (put.symm.trans (put_eq fits offered items given))
    obtain ⟨size, outside⟩ := put_frame fits offered items given after
    refine ⟨w, put, size, outside, fun index late listed => ?_⟩
    rw [← items.get_slot listed]
    exact behind index listed late
  case get_ok_iff =>
    intro slice start count
    apply ok_iff_transferable
    · intro given
      obtain ⟨values, -, got, -⟩ := get_each fits offered items given
      rw [got]
    · intro e refused
      rw [get_error refused]
  case get_each =>
    intro slice start count given
    obtain ⟨values, size, got, each⟩ := get_each fits offered items given
    have room : start + values.length ≤ slice.length := by
      rw [size]
      exact given.inside
    refine ⟨_, got, Region.length_write room, fun i within => ?_, fun i outside => ?_⟩
    · obtain ⟨value, found⟩ : ∃ value, values[i]? = some value :=
        ⟨_, List.getElem?_eq_getElem (by omega)⟩
      refine ⟨value, ?_, each i value found⟩
      rw [Region.getElem?_write room, if_pos (by omega), Nat.add_sub_cancel_left, found]
    · rw [Region.getElem?_write room, if_neg (by omega)]
  case get_put =>
    intro source slice start count given same
    obtain ⟨m', put, got⟩ := get_put fits offered items given same
    have size := Region.length_read given.inside
    have inside := given.inside
    have room : start + (Region.read source start count).length ≤ slice.length := by omega
    have back := Region.read_write_self room
    rw [size] at back
    exact ⟨m', _, put, got, back⟩

/-- Once a car was bound, the transfers between its arrays and slices agree with the accessors
of single items, whatever was done since. -/
theorem bulkTransfers_of_reset {earlier m : Message} {memory : Memory} {offset : Nat}
    {bound : Session .car}
    (reset : Session.perform ⟨earlier, []⟩ (.reset memory offset) () = (.ok (), bound, ()))
    (later : bound.Leads ⟨m, []⟩) {M : Member} (offered : M ∈ members) {α : Type}
    (items : M.Items α) : BulkTransfers m offered items := by
  obtain ⟨invariant, inside⟩ := Session.bound_of_reset reset
  obtain ⟨-, fits⟩ := Session.blockFits_of_leads invariant inside later
  exact bulkTransfers_of_fits fits offered items

/-- A car is bound to 60 bytes, and two of four numbers are put into it. -/
theorem bulkTransfers_of_reset_numbers :
    let m : Message := { memory := List.replicate 60 0, offset := 2, position := 57 }
    ∃ bound : Session .car, ∃ offered : .array UInt32 someNumbers ∈ members,
      Session.perform ⟨{}, []⟩ (.reset m.memory 2) () = (.ok (), bound, ()) ∧
      bound.Leads ⟨m, []⟩ ∧
      BulkTransfers m offered (.array : Member.Items (.array UInt32 someNumbers) UInt32) ∧
      used m offered (.putFrom [7, 8, 9, 10] 1 2) () = setEach m offered .array 0 [8, 9] := by
  intro m
  have offered : .array UInt32 someNumbers ∈ members := by
    have listed : members[4]? = some (.array UInt32 someNumbers) := rfl
    exact List.mem_of_getElem? listed
  have reset : Session.perform ⟨{}, []⟩ (.reset m.memory 2) () =
      (.ok (), (⟨m, []⟩ : Session .car), ()) := rfl
  have transfers := bulkTransfers_of_reset reset .refl offered .array
  exact ⟨_, offered, reset, .refl, transfers, transfers.put_each ⟨by decide, by decide, by decide⟩⟩

end Car

end Flyweight
