import Flyweight.Proofs.Wire.Footprint
import Flyweight.Proofs.Wire.Transfer

/- Where the members of a block are in it.

   Every use of a member keeps to an extent inside that of the member
   (`Member.Use.confined`, `Member.Use.extent_within`): the whole of it, or the items of an
   array that the use is about. In a block that has room for the member, no use of it runs out
   of bytes (`Member.Use.roomy`). -/

namespace Flyweight.Wire

/-! ## Fields -/

namespace ScalarField
variable [Scalar α] (f : ScalarField α)

/-- The bytes of the value. -/
def extent : Extent where
  start := f.offset
  size := Scalar.width α

theorem confined_get : Block.Confined f.extent f.get.outcome := by
  have read := Block.Confined.read f.offset (Scalar.width α) fun offset length bytes =>
    if offset + f.offset + Scalar.width α ≤ length then
      Except.ok (Scalar.decode f.order bytes : α)
    else .error (AccessError.bufferOverflow (offset + f.offset) (Scalar.width α) length)
  apply read.congr
  intro b
  rw [outcome_get]
  split
  · rfl
  · rfl

theorem confined_set (a : α) : Block.Confined f.extent (f.set a).outcome := by
  have write := Block.Confined.write f.offset (Scalar.encode f.order a) fun offset length =>
    if offset + f.offset + Scalar.width α ≤ length then Except.ok ()
    else .error (AccessError.bufferOverflow (offset + f.offset) (Scalar.width α) length)
  rw [Scalar.length_encode] at write
  apply write.congr
  intro b
  rw [outcome_set]
  split
  · rfl
  · rfl

end ScalarField

namespace CodeField
variable [Enumeration ε] (f : CodeField ε)

/-- The code is read as a value of its own, and the answer made of it. -/
theorem outcome_get (b : Block) :
    f.get.outcome b =
      ((f.codeField.get.outcome b).1.bind (Enumeration.ofCode ε), (f.codeField.get.outcome b).2) := by
  rw [get, Access.outcome_bind]
  cases f.codeField.get.outcome b with
  | mk result after =>
    cases result with
    | error e => rfl
    | ok c => exact Access.outcome_liftM _ _

theorem confined_get : Block.Confined f.codeField.extent f.get.outcome := by
  apply (f.codeField.confined_get.map fun result => result.bind (Enumeration.ofCode ε)).congr
  exact f.outcome_get

end CodeField

namespace FixedArray
variable [Scalar α] (a : FixedArray α)

/-- The bytes of `count` items from the item `first` on; none if the array does not have as
many. -/
def part (first count : Nat) : Extent where
  start := a.offset + first * Scalar.width α
  size := if first + count ≤ a.length then count * Scalar.width α else 0

omit [Scalar α] in
theorem outcome_checkIndex (index : Nat) (s : σ) :
    (a.checkIndex index).outcome s =
      if index < a.length then (.ok (), s) else (.error (.indexOutOfRange index a.length), s) := by
  rw [checkIndex]
  split
  · rfl
  · rfl

theorem confined_item {access : Access Block β} {index : Nat}
    (h : Block.Confined (a.item index).extent access.outcome) :
    Block.Confined (a.part index 1) (do a.checkIndex index; access : Access Block β).outcome := by
  by_cases inside : index < a.length
  · have same : a.part index 1 = (a.item index).extent := by
      have last : index + 1 ≤ a.length := inside
      simp only [part, if_pos last, Nat.one_mul]
      rfl
    rw [same]
    apply h.congr
    intro b
    rw [Access.outcome_bind, outcome_checkIndex, if_pos inside]
  · apply (Block.Confined.still (.error (.indexOutOfRange index a.length))).congr
    intro b
    rw [Access.outcome_bind, outcome_checkIndex, if_neg inside]

theorem confined_get (index : Nat) : Block.Confined (a.part index 1) (a.get index).outcome :=
  a.confined_item (a.item index).confined_get

theorem confined_set (index : Nat) (value : α) :
    Block.Confined (a.part index 1) (a.set index value).outcome :=
  a.confined_item ((a.item index).confined_set value)

variable {a}

/-- The part of an array that a transfer is about. -/
theorem part_front {count : Nat} (few : count ≤ a.length) :
    a.part 0 count = { start := a.offset, size := count * Scalar.width α } := by
  simp [part, few]

variable (a)

/-- Items that are let through are written from the front of the array on. -/
theorem outcome_putFrom {source : List α} {start count : Nat} (inside : start + count ≤ source.length)
    (passed : (a.checkTransfer start count source.length : Access Block Unit) = pure ()) (b : Block) :
    (a.putFrom source start count).outcome b =
      if b.offset + a.offset + count * Scalar.width α ≤ b.memory.length then
        (.ok (), { b with
          memory := Region.write b.memory (b.offset + a.offset)
            (Memory.packed a.order (Region.read source start count)) })
      else
        (.error (.bufferOverflow (b.offset + a.offset) (count * Scalar.width α) b.memory.length),
          b) := by
  have stored := (Memory.Call.array (b.offset + a.offset) a.order
    (Region.read source start count)).outcome_access b.memory
  simp only [Memory.Call.access, Memory.Call.applied, Memory.Call.offset, Memory.Call.size,
    Memory.Call.written, Region.length_read inside] at stored
  rw [putFrom, Access.outcome_bind, passed, Access.outcome_pure]
  simp only [Block.outcome_inMemory, stored]
  split
  · rfl
  · rfl

theorem confined_putFrom (source : List α) (start count : Nat) :
    Block.Confined (a.part 0 count) (a.putFrom source start count).outcome := by
  rcases a.checkTransfer_iff start count source.length Block with
    ⟨e, -, refused⟩ | ⟨⟨_, few, inside⟩, passed⟩
  · apply (Block.Confined.still (.error e)).congr
    intro b
    rw [putFrom, Access.outcome_bind, refused, Access.outcome_throw]
  · have write := Block.Confined.write a.offset (Memory.packed a.order (Region.read source start count))
      fun offset length =>
        if offset + a.offset + count * Scalar.width α ≤ length then Except.ok ()
        else .error (AccessError.bufferOverflow (offset + a.offset) (count * Scalar.width α) length)
    rw [Memory.length_packed, Region.length_read inside] at write
    rw [part_front few]
    apply write.congr
    intro b
    rw [a.outcome_putFrom inside passed]
    split
    · rfl
    · rfl

section Into
variable {slice : List α} {start count : Nat} (inside : start + count ≤ slice.length)
  (passed : (a.checkTransfer start count slice.length : Access (Block × List α) Unit) = pure ())
include inside passed

/-- Items that are let through are copied into the slice of the caller. -/
theorem getInto_eq {b : Block} {values : List α} (size : values.length = count)
    (holds : b.memory.Holds (b.offset + a.offset) (Memory.packed a.order values)) :
    (a.getInto start count).outcome (b, slice) = (.ok (), b, Region.write slice start values) := by
  have target : (Region.read slice start count).length = values.length := by
    rw [Region.length_read inside, size]
  have loaded := Memory.loadArray_eq a.order holds target
  rw [getInto, Access.outcome_bind, Access.outcome_get]
  simp only [Access.outcome_bind, passed, Access.outcome_pure, Access.outcome_focus, Lens.prod,
    Lens.region, Block.memoryPart, loaded]

theorem getInto_refuses {b : Block}
    (outside : ¬ b.offset + a.offset + count * Scalar.width α ≤ b.memory.length) :
    (a.getInto start count).outcome (b, slice) =
      (.error (.bufferOverflow (b.offset + a.offset) (count * Scalar.width α) b.memory.length),
        b, slice) := by
  have size := Region.length_read inside
  rw [← size] at outside
  have refused := Memory.loadArray_refuses a.order outside
  rw [getInto, Access.outcome_bind, Access.outcome_get]
  simp only [Access.outcome_bind, passed, Access.outcome_pure, Access.outcome_focus, Lens.prod,
    Lens.region, Block.memoryPart, refused, Region.write_read_self inside, size]

end Into

theorem confined_getInto (start count : Nat) (slice : List α) :
    Block.Confined (a.part 0 count) (Block.reporting (a.getInto start count) slice) := by
  rcases a.checkTransfer_iff start count slice.length (Block × List α) with
    ⟨e, -, refused⟩ | ⟨⟨_, few, inside⟩, passed⟩
  · apply (Block.Confined.still (.error e, slice)).congr
    intro b
    simp only [Block.reporting, getInto, Access.outcome_bind, Access.outcome_get, refused,
      Access.outcome_throw]
  · rw [part_front few]
    constructor
    · intro b
      by_cases fits : b.offset + a.offset + count * Scalar.width α ≤ b.memory.length
      · obtain ⟨values, size, holds⟩ := Memory.holds_packed (α := α) a.order count fits
        refine ⟨b.memory, ?_, .refl _ _⟩
        simp only [Block.reporting, a.getInto_eq inside passed size holds]
      · refine ⟨b.memory, ?_, .refl _ _⟩
        simp only [Block.reporting, a.getInto_refuses inside passed fits]
    · intro b w same
      have length := same.length
      by_cases fits : b.offset + a.offset + count * Scalar.width α ≤ b.memory.length
      · obtain ⟨values, size, holds⟩ := Memory.holds_packed (α := α) a.order count fits
        have holds' : Memory.Holds w (b.offset + a.offset) (Memory.packed a.order values) := by
          apply same.holds holds
          intro i j low high
          rw [Memory.length_packed, size] at high
          exact Extent.has_of_bytes low high j
        simp only [Block.reporting, a.getInto_eq inside passed size holds,
          a.getInto_eq (b := { b with memory := w }) inside passed size holds']
      · have fits' : ¬ b.offset + a.offset + count * Scalar.width α ≤ w.length := by rwa [length]
        simp only [Block.reporting, a.getInto_refuses inside passed fits,
          a.getInto_refuses (b := { b with memory := w }) inside passed fits', length]

end FixedArray

/-! ## Members -/

/-- The part of the block that the member is. -/
def Member.extent : Member → Extent
  | @scalar _ _ field => field.extent
  | @coded _ _ field => field.codeField.extent
  | @array _ _ field => field.part 0 field.length
  | @choice _ _ field => field.extent
  | nested place member => member.extent.moved place

/-- How many bytes the block must have for the member. -/
def Member.room : Member → Nat
  | @scalar α _ field => field.offset + Scalar.width α
  | @coded _ _ field => field.offset + Scalar.width UInt8
  | @array α _ field => field.offset + field.length * Scalar.width α
  | @choice α _ _ => Scalar.width α
  | nested place member => place + member.room

/-- If the member is a choice, it is a bit of its word. -/
def Member.sound : Member → Bool
  | @choice α _ field => field.bit < 8 * Scalar.width α
  | nested _ member => member.sound
  | _ => true

/-- The part of the member that the use is about. -/
def Member.Use.extent : {member : Member} → Member.Use member τ β → Extent
  | _, @getItem _ _ field index => field.part index 1
  | _, @setItem _ _ field index _ => field.part index 1
  | _, @getInto _ _ field _ count => field.part 0 count
  | _, @putFrom _ _ field _ _ count => field.part 0 count
  | _, @nested _ _ _ place use => use.extent.moved place
  | member, _ => member.extent

/-- A member of a block inside the block is used there. -/
theorem Member.Use.outcome_nested {member : Member} (place : Nat) (use : Member.Use member τ β)
    (b : Block) (slice : τ) :
    (@nested _ _ _ place use).access.outcome (b, slice) =
      match use.access.outcome ({ b with offset := b.offset + place }, slice) with
      | (answer, inner, filled) => (answer, { b with memory := inner.memory }, filled) := rfl

/-- Whatever is done with a member, no bits are read or written but those of its part of the
block. -/
theorem Member.Use.confined {member : Member} (use : Member.Use member τ β)
    (sound : member.sound = true) (slice : τ) :
    Block.Confined use.extent (Block.reporting use.access slice) := by
  induction use with
  | @get _ _ field => exact field.confined_get.first slice
  | @set _ _ field value => exact (field.confined_set value).first slice
  | @getCode _ _ field => exact field.confined_get.first slice
  | @setCode _ _ field value => exact (field.codeField.confined_set _).first slice
  | @getItem _ _ field index => exact (field.confined_get index).first slice
  | @setItem _ _ field index value => exact (field.confined_set index value).first slice
  | @getInto _ _ field start count => exact field.confined_getInto start count slice
  | @putFrom _ _ field source start count =>
    exact (field.confined_putFrom source start count).first slice
  | @test α _ field =>
    have inside : field.bit < 8 * Scalar.width α := of_decide_eq_true sound
    exact (Choice.confined_get inside).first slice
  | @choose α _ field value =>
    have inside : field.bit < 8 * Scalar.width α := of_decide_eq_true sound
    exact (Choice.confined_set inside value).first slice
  | nested use ih => exact (ih sound slice).within _

/-- An item or some of them are part of the array. -/
theorem FixedArray.part_within [Scalar α] (a : FixedArray α) {first count i j : Nat}
    (h : (a.part first count).Has i j) : (a.part 0 a.length).Has i j := by
  obtain ⟨low, high, bit⟩ := h
  simp only [part] at low high bit
  rw [part_front (Nat.le_refl _)]
  split at high
  · rename_i inside
    have whole : (first + count) * Scalar.width α ≤ a.length * Scalar.width α :=
      Nat.mul_le_mul_right _ inside
    rw [Nat.add_mul] at whole
    refine ⟨?_, ?_, bit⟩
    · show a.offset ≤ i
      omega
    · show i < a.offset + a.length * Scalar.width α
      omega
  · omega

/-- Items that stand behind others are apart from them. -/
theorem FixedArray.part_apart [Scalar α] (a : FixedArray α) {first count next count' : Nat}
    (behind : first + count ≤ next) : (a.part first count).Apart (a.part next count') := by
  have le := Nat.mul_le_mul_right (Scalar.width α) behind
  rw [Nat.add_mul] at le
  left
  simp only [part]
  split
  · omega
  · omega

/-- The use of a member is about a part of it. -/
theorem Member.Use.extent_within {member : Member} (use : Member.Use member τ β) {i j : Nat}
    (h : use.extent.Has i j) : member.extent.Has i j := by
  induction use generalizing i j with
  | getItem index => exact FixedArray.part_within _ h
  | setItem index value => exact FixedArray.part_within _ h
  | getInto start count => exact FixedArray.part_within _ h
  | putFrom source start count => exact FixedArray.part_within _ h
  | nested use ih => exact Extent.has_moved ih h
  | _ => exact h

/-! ## Room -/

/-- The member ends where its room does, or before. -/
theorem Member.extent_le_room {member : Member} (sound : member.sound = true) :
    member.extent.start + member.extent.size ≤ member.room := by
  induction member with
  | @scalar _ _ field => exact Nat.le_refl _
  | @coded _ _ field => exact Nat.le_refl _
  | @array _ _ field =>
    rw [extent, FixedArray.part_front (Nat.le_refl _)]
    exact Nat.le_refl _
  | @choice α _ field =>
    have inside : field.bit < 8 * Scalar.width α := of_decide_eq_true sound
    have place := Choice.Sound.place (c := field) inside
    exact place.1
  | nested place member ih =>
    have inner := ih sound
    simp only [extent, Extent.moved, room]
    omega

/-- An answer that is not for want of bytes. -/
def Roomy (answer : Except AccessError β) : Prop :=
  ∀ offset size capacity, answer ≠ .error (.bufferOverflow offset size capacity)

theorem Roomy.ok (a : β) : Roomy (.ok a) := by
  intro offset size capacity same
  cases same

theorem Enumeration.roomy_ofCode (ε : Type) [Enumeration ε] (c : UInt8) : Roomy (ofCode ε c) := by
  rw [ofCode]
  intro offset size capacity
  split
  · simp
  · simp

section Room
variable {b : Block}

theorem ScalarField.roomy_get [Scalar α] {f : ScalarField α}
    (fits : b.offset + (f.offset + Scalar.width α) ≤ b.memory.length) : Roomy (f.get.outcome b).1 := by
  rw [← Nat.add_assoc] at fits
  rw [outcome_get, if_pos fits]
  apply Roomy.ok

theorem ScalarField.roomy_set [Scalar α] {f : ScalarField α} {a : α}
    (fits : b.offset + (f.offset + Scalar.width α) ≤ b.memory.length) :
    Roomy ((f.set a).outcome b).1 := by
  rw [← Nat.add_assoc] at fits
  rw [outcome_set, if_pos fits]
  apply Roomy.ok

theorem CodeField.roomy_get [Enumeration ε] {f : CodeField ε}
    (fits : b.offset + (f.offset + Scalar.width UInt8) ≤ b.memory.length) :
    Roomy (f.get.outcome b).1 := by
  rw [← Nat.add_assoc] at fits
  have inside : b.offset + f.codeField.offset + Scalar.width UInt8 ≤ b.memory.length := fits
  rw [outcome_get, ScalarField.outcome_get, if_pos inside]
  apply Enumeration.roomy_ofCode

namespace FixedArray
variable [Scalar α] {a : FixedArray α}
  (fits : b.offset + (a.offset + a.length * Scalar.width α) ≤ b.memory.length)
include fits

/-- An item is inside where the array is. -/
theorem item_fits {index : Nat} (inside : index < a.length) :
    b.offset + ((a.item index).offset + Scalar.width α) ≤ b.memory.length := by
  have le := Nat.mul_le_mul_right (Scalar.width α) (show index + 1 ≤ a.length from inside)
  rw [Nat.succ_mul] at le
  simp only [item]
  omega

theorem front_fits {count : Nat} (few : count ≤ a.length) :
    b.offset + a.offset + count * Scalar.width α ≤ b.memory.length := by
  have le := Nat.mul_le_mul_right (Scalar.width α) few
  omega

theorem roomy_get (index : Nat) : Roomy ((a.get index).outcome b).1 := by
  rw [get, Access.outcome_bind, outcome_checkIndex]
  by_cases inside : index < a.length
  · rw [if_pos inside]
    apply ScalarField.roomy_get
    exact item_fits fits inside
  · rw [if_neg inside]
    intro offset size capacity same
    cases same

theorem roomy_set (index : Nat) (value : α) : Roomy ((a.set index value).outcome b).1 := by
  rw [set, Access.outcome_bind, outcome_checkIndex]
  by_cases inside : index < a.length
  · rw [if_pos inside]
    apply ScalarField.roomy_set
    exact item_fits fits inside
  · rw [if_neg inside]
    intro offset size capacity same
    cases same

theorem roomy_getInto (start count : Nat) (slice : List α) :
    Roomy ((a.getInto start count).outcome (b, slice)).1 := by
  rcases a.checkTransfer_iff start count slice.length (Block × List α) with
    ⟨e, other, refused⟩ | ⟨⟨_, few, inside⟩, passed⟩
  · simp only [getInto, Access.outcome_bind, Access.outcome_get, refused, Access.outcome_throw]
    intro offset size capacity same
    exact other _ _ _ (Except.error.inj same)
  · obtain ⟨values, size, holds⟩ :=
      Memory.holds_packed (α := α) a.order count (front_fits fits few)
    rw [a.getInto_eq inside passed size holds]
    apply Roomy.ok

theorem roomy_putFrom (source : List α) (start count : Nat) :
    Roomy ((a.putFrom source start count).outcome b).1 := by
  rcases a.checkTransfer_iff start count source.length Block with
    ⟨e, other, refused⟩ | ⟨⟨_, few, inside⟩, passed⟩
  · simp only [putFrom, Access.outcome_bind, refused, Access.outcome_throw]
    intro offset size capacity same
    exact other _ _ _ (Except.error.inj same)
  · rw [a.outcome_putFrom inside passed, if_pos (front_fits fits few)]
    apply Roomy.ok

end FixedArray

theorem Choice.roomy_get [Word α] {c : Choice α}
    (fits : b.offset + Scalar.width α ≤ b.memory.length) : Roomy (c.get.outcome b).1 := by
  rw [outcome_get, if_pos fits]
  apply Roomy.ok

theorem Choice.roomy_set [Word α] {c : Choice α} {value : Bool}
    (fits : b.offset + Scalar.width α ≤ b.memory.length) : Roomy ((c.set value).outcome b).1 := by
  rw [outcome_set, if_pos fits]
  apply Roomy.ok

/-- In a block that has room for the member, no use of it runs out of bytes. -/
theorem Member.Use.roomy {member : Member} (use : Member.Use member τ β)
    (fits : b.offset + member.room ≤ b.memory.length) (slice : τ) :
    Roomy (use.access.outcome (b, slice)).1 := by
  induction use generalizing b with
  | get => exact ScalarField.roomy_get fits
  | set value => exact ScalarField.roomy_set fits
  | getCode => exact CodeField.roomy_get fits
  | setCode value => exact ScalarField.roomy_set fits
  | getItem index => exact FixedArray.roomy_get fits index
  | setItem index value => exact FixedArray.roomy_set fits index value
  | getInto start count => exact FixedArray.roomy_getInto fits start count slice
  | putFrom source start count => exact FixedArray.roomy_putFrom fits source start count
  | test => exact Choice.roomy_get fits
  | choose value => exact Choice.roomy_set fits
  | @nested inner _ _ place use ih =>
    have inside : b.offset + place + inner.room ≤ b.memory.length := by
      rw [Nat.add_assoc]
      exact fits
    exact @ih { b with offset := b.offset + place } inside slice

end Room

end Flyweight.Wire
