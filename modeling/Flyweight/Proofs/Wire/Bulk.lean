import Flyweight.Proofs.Wire.Slot

/- Transfers between an array of a block and a slice of the caller, next to the accessors of
   single items.

   A transfer has three bounds, which are looked at in their order: a transfer goes through
   where all of them hold (`Transferable`), and otherwise the first that does not hold names
   the error (`Refusal`), and nothing is changed. What a transfer and what a setter write is
   told as bytes in their place (`Member.Items.outcome_putFrom`,
   `Member.Items.outcome_setItem`), so that one can be laid against the other. -/

namespace Flyweight.Wire

/-! ## Bounds -/

/-- The bounds of a transfer of `count` items between the front of an array of `length` items
and the places from `start` on of a slice of `available` items. -/
structure Transferable (length start count available : Nat) : Prop where
  starts : start < length
  few : count ≤ length
  inside : start + count ≤ available

/-- The error that a transfer fails with: that of the first bound which does not hold. -/
inductive Refusal (length start count available : Nat) : AccessError → Prop where
  | starts (past : length ≤ start) :
    Refusal length start count available (.offsetOutOfRange start length)
  | few (starts : start < length) (many : length < count) :
    Refusal length start count available (.lengthOutOfRange count length)
  | inside (starts : start < length) (few : count ≤ length) (short : available < start + count) :
    Refusal length start count available (.lengthOutOfRange count (available - start))

section Bounds
variable {length start count available : Nat}

theorem transferable_or_refusal (length start count available : Nat) :
    Transferable length start count available ∨ ∃ e, Refusal length start count available e := by
  by_cases starts : start < length
  · by_cases few : count ≤ length
    · by_cases inside : start + count ≤ available
      · exact .inl ⟨starts, few, inside⟩
      · exact .inr ⟨_, .inside starts few (by omega)⟩
    · exact .inr ⟨_, .few starts (by omega)⟩
  · exact .inr ⟨_, .starts (by omega)⟩

/-- What succeeds within the bounds and is refused otherwise succeeds exactly within the bounds. -/
theorem ok_iff_transferable {result : Except AccessError Unit}
    (ok : Transferable length start count available → result = .ok ())
    (error : ∀ e, Refusal length start count available e → result = .error e) :
    result = .ok () ↔ Transferable length start count available := by
  constructor
  · intro succeeded
    rcases transferable_or_refusal length start count available with given | ⟨e, refused⟩
    · exact given
    · rw [error e refused] at succeeded
      cases succeeded
  · exact ok

namespace FixedArray
variable {a : FixedArray α} {b : Block} {e : AccessError}

theorem checkTransfer_error (h : Refusal a.length start count available e) (σ : Type) :
    (a.checkTransfer start count available : Access σ Unit) = throw e := by
  cases h with
  | starts past => rw [checkTransfer, if_pos past]
  | few starts many => rw [checkTransfer, if_neg (by omega), if_pos many]
  | inside starts few short =>
    rw [checkTransfer, if_neg (by omega), if_neg (by omega), if_pos short]

variable [Scalar α]

theorem putFrom_error {source : List α} (h : Refusal a.length start count source.length e) :
    (a.putFrom source start count).outcome b = (.error e, b) := by
  rw [putFrom, checkTransfer_error h, Access.outcome_bind, Access.outcome_throw]

theorem getInto_error {slice : List α} (h : Refusal a.length start count slice.length e) :
    (a.getInto start count).outcome (b, slice) = (.error e, b, slice) := by
  rw [getInto, Access.outcome_bind, Access.outcome_get]
  simp only [checkTransfer_error h, Access.outcome_bind, Access.outcome_throw]

end FixedArray

end Bounds

namespace Member.Items

/-! ## Items -/

/-- Where the items start in the block. -/
def front : Items member α → Nat
  | @array _ _ field => field.offset
  | @nested _ _ place items => place + items.front

/-- The number of the bytes of an item. -/
def width : Items member α → Nat
  | @array α _ _ => Scalar.width α
  | nested items => items.width

/-- The bytes of an item. -/
def encode : Items member α → α → List UInt8
  | @array _ _ field => Scalar.encode field.order
  | nested items => items.encode

def getItem : Items member α → Nat → Use member Unit α
  | array, index => .getItem index
  | nested items, index => .nested (items.getItem index)

def setItem : Items member α → Nat → α → Use member Unit Unit
  | array, index, value => .setItem index value
  | nested items, index, value => .nested (items.setItem index value)

section Items
variable {member : Member} (items : Items member α)

theorem get_slot {index : Nat} (inside : index < items.length) :
    (items.slot index inside).get = items.getItem index := by
  induction items with
  | array => rfl
  | nested items ih => exact congrArg Use.nested (ih inside)

@[simp]
theorem length_encode (value : α) : (items.encode value).length = items.width := by
  induction items with
  | array => exact Scalar.length_encode _ value
  | nested items ih => exact ih value

theorem length_flatMap_encode (values : List α) :
    (values.flatMap items.encode).length = values.length * items.width := by
  induction values with
  | nil => simp
  | cons value rest ih =>
    rw [List.flatMap_cons, List.length_append, length_encode, ih, List.length_cons, Nat.succ_mul]
    omega

/-- The items end inside the room of the member. -/
theorem end_le_room : items.front + items.length * items.width ≤ member.room := by
  induction items with
  | array => exact Nat.le_refl _
  | nested items ih =>
    simp only [front, length, width, room]
    omega

end Items

/-! ## Accesses -/

section Accesses
variable {member : Member} (items : Items member α) {start count : Nat} {b : Block}

theorem outcome_setItem {index : Nat} (inside : index < items.length) (value : α)
    (fits : b.offset + member.room ≤ b.memory.length) :
    (items.setItem index value).access.outcome (b, ()) =
      (.ok (), b.written (items.front + index * items.width) (items.encode value), ()) := by
  induction items generalizing b with
  | @array _ _ field =>
    have there := FixedArray.item_fits fits inside
    rw [← Nat.add_assoc] at there
    have written : (field.set index value).outcome b =
        (.ok (), b.written (field.item index).offset (Scalar.encode field.order value)) := by
      have listed : index < field.length := inside
      rw [FixedArray.set, Access.outcome_bind, FixedArray.outcome_checkIndex, if_pos listed]
      show ((field.item index).set value).outcome b = _
      rw [ScalarField.outcome_set, if_pos there]
      rfl
    simp only [setItem, Use.access, Access.outcome_focus, Lens.first, written]
    rfl
  | @nested inner _ place items ih =>
    have deeper : b.offset + place + inner.room ≤ b.memory.length := by
      rw [Nat.add_assoc]
      exact fits
    have written := @ih { b with offset := b.offset + place } inside value deeper
    simp only [setItem, Use.outcome_nested, written, Block.written, front, width, encode,
      Nat.add_assoc]

theorem outcome_putFrom {source : List α}
    (given : Transferable items.length start count source.length)
    (fits : b.offset + member.room ≤ b.memory.length) :
    (items.putFrom source start count).access.outcome (b, ()) =
      (.ok (), b.written items.front ((Region.read source start count).flatMap items.encode),
        ()) := by
  induction items generalizing b with
  | @array _ _ field =>
    obtain ⟨starts, few, inside⟩ := given
    have passed := FixedArray.checkTransfer_ok starts few inside Block
    have written := field.outcome_putFrom inside passed b
    rw [if_pos (FixedArray.front_fits fits few)] at written
    simp only [putFrom, Use.access, Access.outcome_focus, Lens.first, written]
    rfl
  | @nested inner _ place items ih =>
    have deeper : b.offset + place + inner.room ≤ b.memory.length := by
      rw [Nat.add_assoc]
      exact fits
    have written := @ih { b with offset := b.offset + place } source given deeper
    simp only [putFrom, Use.outcome_nested, written, Block.written, front, encode, Nat.add_assoc]

theorem putFrom_error {source : List α} {e : AccessError}
    (h : Refusal items.length start count source.length e) :
    (items.putFrom source start count).access.outcome (b, ()) = (.error e, b, ()) := by
  induction items generalizing b with
  | array =>
    simp only [putFrom, Use.access, Access.outcome_focus, Lens.first, FixedArray.putFrom_error h]
  | nested items ih => simp only [putFrom, Use.outcome_nested, ih h]

theorem getInto_error {slice : List α} {e : AccessError}
    (h : Refusal items.length start count slice.length e) :
    (items.getInto start count).access.outcome (b, slice) = (.error e, b, slice) := by
  induction items generalizing b with
  | array => exact FixedArray.getInto_error h
  | nested items ih => simp only [getInto, Use.outcome_nested, ih h]

end Accesses

end Member.Items

/-- The number of the items of a member that is an array. -/
def Member.arrayLength? : Member → Option Nat
  | @array _ _ field => some field.length
  | nested _ member => member.arrayLength?
  | _ => none

theorem Member.Items.arrayLength?_eq {member : Member} (items : Items member α) :
    member.arrayLength? = some items.length := by
  induction items with
  | array => rfl
  | nested items ih => exact ih

end Flyweight.Wire
