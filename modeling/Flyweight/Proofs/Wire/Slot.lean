import Flyweight.Proofs.Wire.Member

/- What a caller sees of the members of a block.

   A slot is what one getter reads and one setter writes: a value, a code, one item of an
   array, or a choice, in the block or in a block nested in it. What is set is what is got
   (`Member.Slot.get_set`), and two slots of one member are apart from each other
   (`Member.Slot.apart`). Transfers in bulk put and get what the slots of the items put and
   get (`Member.Items.get_putFrom`, `Member.Items.get_getInto`). -/

namespace Flyweight.Wire

/-! ## What is set is what is got -/

/-- The setter succeeds and changes nothing but the memory of the block, and then the getter
has the value. -/
def Sets (set : Access Block Unit) (get : Access Block β) (value : β) (b : Block) : Prop :=
  ∃ w, set.outcome b = (.ok (), { b with memory := w }) ∧
    get.outcome { b with memory := w } = (.ok value, { b with memory := w })

section Sets
variable {b : Block}

theorem ScalarField.sets [Scalar α] (f : ScalarField α) (a : α)
    (fits : b.offset + (f.offset + Scalar.width α) ≤ b.memory.length) :
    Sets (f.set a) f.get a b := by
  rw [← Nat.add_assoc] at fits
  have width := Scalar.length_encode f.order a
  have fits' : b.offset + f.offset + (Scalar.encode f.order a).length ≤ b.memory.length := by
    rwa [width]
  have back := Region.read_write_self fits'
  rw [width] at back
  refine ⟨Region.write b.memory (b.offset + f.offset) (Scalar.encode f.order a), ?_, ?_⟩
  · rw [outcome_set, if_pos fits]
  · rw [outcome_get, Region.length_write fits', if_pos fits]
    simp only [back, Scalar.decode_encode]

theorem CodeField.sets [Enumeration ε] (f : CodeField ε) (v : ε)
    (fits : b.offset + (f.offset + Scalar.width UInt8) ≤ b.memory.length) :
    Sets (f.set v) f.get v b := by
  obtain ⟨w, written, read⟩ := f.codeField.sets (Enumeration.code v) fits
  refine ⟨w, written, ?_⟩
  rw [outcome_get, read]
  simp only [Except.bind, Enumeration.ofCode_code]

theorem FixedArray.sets [Scalar α] (a : FixedArray α) {index : Nat} (inside : index < a.length)
    (value : α) (fits : b.offset + (a.offset + a.length * Scalar.width α) ≤ b.memory.length) :
    Sets (a.set index value) (a.get index) value b := by
  obtain ⟨w, written, read⟩ := (a.item index).sets value (item_fits fits inside)
  refine ⟨w, ?_, ?_⟩
  · rw [set, Access.outcome_bind, outcome_checkIndex, if_pos inside]
    exact written
  · rw [get, Access.outcome_bind, outcome_checkIndex, if_pos inside]
    exact read

theorem Choice.sets [Word α] {c : Choice α} (sound : c.Sound) (value : Bool)
    (fits : b.offset + Scalar.width α ≤ b.memory.length) : Sets (c.set value) c.get value b := by
  let word : α := Scalar.decode c.order (Region.read b.memory b.offset (Scalar.width α))
  have width := Scalar.length_encode c.order (Word.withBit word c.bit value)
  have fits' : b.offset + (Scalar.encode c.order (Word.withBit word c.bit value)).length ≤
      b.memory.length := by rwa [width]
  have back := Region.read_write_self fits'
  rw [width] at back
  refine ⟨Region.write b.memory b.offset (Scalar.encode c.order (Word.withBit word c.bit value)),
    ?_, ?_⟩
  · rw [outcome_set, if_pos fits]
  · rw [outcome_get, Region.length_write fits', if_pos fits]
    simp only [back, Scalar.decode_encode, Word.testBit_withBit word sound, if_true]

end Sets

/-! ## Slots -/

/-- What one getter reads and one setter writes. -/
inductive Member.Slot : Member → Type → Type 1 where
  | value [Scalar α] {field : ScalarField α} : Slot (.scalar α field) α
  | code [Enumeration ε] {field : CodeField ε} : Slot (.coded ε field) ε
  | item [Scalar α] {field : FixedArray α} (index : Nat) (inside : index < field.length) :
    Slot (.array α field) α
  | choice [Word α] {field : Choice α} : Slot (.choice α field) Bool
  | nested {place : Nat} (slot : Slot member β) : Slot (.nested place member) β

namespace Member.Slot

/-- The getter. -/
def get : Slot member β → Use member Unit β
  | value => .get
  | code => .getCode
  | item index _ => .getItem index
  | choice => .test
  | nested slot => .nested slot.get

/-- The setter. -/
def set : Slot member β → β → Use member Unit Unit
  | value, a => .set a
  | code, v => .setCode v
  | item index _, a => .setItem index a
  | choice, on => .choose on
  | nested slot, b => .nested (slot.set b)

/-- Without a slice to fill, an access to the block is all there is. -/
theorem sets_first {set : Access Block Unit} {get : Access Block β} {value : β} {b : Block}
    (h : Sets set get value b) :
    ∃ w, (Access.focus (.first Block Unit) set).outcome (b, ()) =
        (.ok (), { b with memory := w }, ()) ∧
      (Access.focus (.first Block Unit) get).outcome ({ b with memory := w }, ()) =
        (.ok value, { b with memory := w }, ()) := by
  obtain ⟨w, written, read⟩ := h
  refine ⟨w, ?_, ?_⟩
  · simp only [Access.outcome_focus, Lens.first, written]
  · simp only [Access.outcome_focus, Lens.first, read]

/-- The setter of a slot succeeds in a block that has room for the member, and its getter has
the value then. -/
theorem get_set {member : Member} (slot : Slot member β) (sound : member.sound = true) (value : β)
    {b : Block} (fits : b.offset + member.room ≤ b.memory.length) :
    ∃ w, (slot.set value).access.outcome (b, ()) = (.ok (), { b with memory := w }, ()) ∧
      slot.get.access.outcome ({ b with memory := w }, ()) =
        (.ok value, { b with memory := w }, ()) := by
  induction slot generalizing b with
  | @value _ _ field => exact sets_first (field.sets value fits)
  | @code _ _ field => exact sets_first (field.sets value fits)
  | @item _ _ field index inside => exact sets_first (field.sets inside value fits)
  | @choice α _ field =>
    have inside : field.bit < 8 * Scalar.width α := of_decide_eq_true sound
    exact sets_first (Choice.sets inside value fits)
  | @nested inner _ place slot ih =>
    have deeper : b.offset + place + inner.room ≤ b.memory.length := by
      rw [Nat.add_assoc]
      exact fits
    obtain ⟨w, written, read⟩ := @ih sound value { b with offset := b.offset + place } deeper
    refine ⟨w, ?_, ?_⟩
    · simp only [set, Use.outcome_nested, written]
    · simp only [get, Use.outcome_nested, read]

/-- A slot is set where it is got. -/
theorem extent_set {member : Member} (slot : Slot member β) (value : β) :
    (slot.set value).extent = slot.get.extent := by
  induction slot with
  | @nested _ _ place slot ih => exact congrArg (Extent.moved · place) (ih value)
  | _ => rfl

/-- The slots of one member are apart from each other. -/
theorem apart {member : Member} {slot other : Slot member β} (differ : slot ≠ other) :
    slot.get.extent.Apart other.get.extent := by
  induction slot with
  | value =>
    cases other
    exact absurd rfl differ
  | code =>
    cases other
    exact absurd rfl differ
  | choice =>
    cases other
    exact absurd rfl differ
  | @item _ _ field index inside =>
    cases other with
    | item index' inside' =>
      have apart : index ≠ index' := by
        rintro rfl
        exact differ rfl
      show (field.part index 1).Apart (field.part index' 1)
      rcases Nat.lt_or_gt_of_ne apart with before | behind
      · apply FixedArray.part_apart
        exact before
      · apply Extent.Apart.symm
        apply FixedArray.part_apart
        exact behind
  | nested slot ih =>
    cases other with
    | nested other =>
      apply Extent.Apart.moved
      apply ih
      rintro rfl
      exact differ rfl

end Member.Slot

/-! ## Arrays -/

namespace FixedArray
variable [Scalar α] {a : FixedArray α} {b : Block}

/-- Values that are in the memory are the items of the array. -/
theorem get_of_holds {values : List α} {i : Nat} {value : α}
    (holds : b.memory.Holds (b.offset + a.offset) (Memory.packed a.order values))
    (inside : i < a.length) (found : values[i]? = some value) :
    (a.get i).outcome b = (.ok value, b) := by
  have loaded := holds.load a.order found
  rw [Nat.add_assoc] at loaded
  rw [get, Access.outcome_bind, outcome_checkIndex, if_pos inside]
  show ((a.item i).get).outcome b = (.ok value, b)
  rw [ScalarField.get, Block.outcome_inMemory]
  show (((Memory.load (b.offset + (a.offset + i * Scalar.width α)) a.order :
    Access Memory α).outcome b.memory).1, _) = _
  simp only [item, loaded]

omit [Scalar α] in
theorem checkTransfer_ok {start count available : Nat} (starts : start < a.length)
    (few : count ≤ a.length) (inside : start + count ≤ available) (σ : Type) :
    (a.checkTransfer start count available : Access σ Unit) = pure () := by
  rw [checkTransfer, if_neg (by omega), if_neg (by omega), if_neg (by omega)]

/-- Values that are put in bulk are the items at the front of the array. -/
theorem get_putFrom {source : List α} {start count : Nat} (starts : start < a.length)
    (few : count ≤ a.length) (inside : start + count ≤ source.length)
    (fits : b.offset + (a.offset + a.length * Scalar.width α) ≤ b.memory.length) :
    ∃ w, (a.putFrom source start count).outcome b = (.ok (), { b with memory := w }) ∧
      ∀ i value, i < count → source[start + i]? = some value →
        (a.get i).outcome { b with memory := w } = (.ok value, { b with memory := w }) := by
  let values := Region.read source start count
  have size : values.length = count := Region.length_read inside
  have room := front_fits fits few
  have room' : b.offset + a.offset + (Memory.packed a.order values).length ≤ b.memory.length := by
    rwa [Memory.length_packed, size]
  refine ⟨Region.write b.memory (b.offset + a.offset) (Memory.packed a.order values), ?_, ?_⟩
  · rw [a.outcome_putFrom inside (checkTransfer_ok starts few inside Block), if_pos room]
  · intro i value within found
    have listed : values[i]? = some value := by
      rw [Region.getElem?_read, if_pos within, found]
    exact get_of_holds (Memory.holds_write room') (Nat.lt_of_lt_of_le within few) listed

/-- Values that are got in bulk are the items at the front of the array. -/
theorem get_getInto {slice : List α} {start count : Nat} (starts : start < a.length)
    (few : count ≤ a.length) (inside : start + count ≤ slice.length)
    (fits : b.offset + (a.offset + a.length * Scalar.width α) ≤ b.memory.length) :
    ∃ values : List α, values.length = count ∧
      (a.getInto start count).outcome (b, slice) = (.ok (), b, Region.write slice start values) ∧
      ∀ i value, values[i]? = some value → (a.get i).outcome b = (.ok value, b) := by
  obtain ⟨values, size, holds⟩ := Memory.holds_packed (α := α) a.order count (front_fits fits few)
  refine ⟨values, size, a.getInto_eq inside (checkTransfer_ok starts few inside _) size holds, ?_⟩
  intro i value found
  have within : i < values.length := (List.getElem?_eq_some_iff.mp found).1
  exact get_of_holds holds (by omega) found

end FixedArray

/-- The items of a member that is an array, in the block or in a block nested in it. -/
inductive Member.Items : Member → Type → Type 1 where
  | array [Scalar α] {field : FixedArray α} : Items (.array α field) α
  | nested {place : Nat} (items : Items member α) : Items (.nested place member) α

namespace Member.Items

def length : Items member α → Nat
  | @array _ _ field => field.length
  | nested items => items.length

def slot : (items : Items member α) → (index : Nat) → index < items.length → Slot member α
  | array, index, inside => .item index inside
  | nested items, index, inside => .nested (items.slot index inside)

def getInto : Items member α → Nat → Nat → Use member (List α) Unit
  | array, start, count => .getInto start count
  | nested items, start, count => .nested (items.getInto start count)

def putFrom : Items member α → List α → Nat → Nat → Use member Unit Unit
  | array, source, start, count => .putFrom source start count
  | nested items, source, start, count => .nested (items.putFrom source start count)

section Bulk
variable {member : Member} (items : Items member α) {start count : Nat} {b : Block}

/-- Values that are put in bulk are got one by one. -/
theorem get_putFrom {source : List α} (starts : start < items.length) (few : count ≤ items.length)
    (inside : start + count ≤ source.length)
    (fits : b.offset + member.room ≤ b.memory.length) :
    ∃ w, (items.putFrom source start count).access.outcome (b, ()) =
        (.ok (), { b with memory := w }, ()) ∧
      ∀ i value, ∀ within : i < count, source[start + i]? = some value →
        (items.slot i (Nat.lt_of_lt_of_le within few)).get.access.outcome
          ({ b with memory := w }, ()) = (.ok value, { b with memory := w }, ()) := by
  induction items generalizing b with
  | array =>
    obtain ⟨w, written, read⟩ := FixedArray.get_putFrom starts few inside fits
    refine ⟨w, ?_, ?_⟩
    · simp only [putFrom, Use.access, Access.outcome_focus, Lens.first, written]
    · intro i value within found
      simp only [slot, Slot.get, Use.access, Access.outcome_focus, Lens.first,
        read i value within found]
  | @nested inner _ place items ih =>
    have deeper : b.offset + place + inner.room ≤ b.memory.length := by
      rw [Nat.add_assoc]
      exact fits
    obtain ⟨w, written, read⟩ :=
      @ih { b with offset := b.offset + place } _ starts few inside deeper
    refine ⟨w, ?_, ?_⟩
    · simp only [putFrom, Use.outcome_nested, written]
    · intro i value within found
      simp only [slot, Slot.get, Use.outcome_nested, read i value within found]

/-- Values that are got in bulk are those that are got one by one. -/
theorem get_getInto {slice : List α} (starts : start < items.length) (few : count ≤ items.length)
    (inside : start + count ≤ slice.length)
    (fits : b.offset + member.room ≤ b.memory.length) :
    ∃ values : List α, values.length = count ∧
      (items.getInto start count).access.outcome (b, slice) =
        (.ok (), b, Region.write slice start values) ∧
      ∀ i value, ∀ within : i < items.length, values[i]? = some value →
        (items.slot i within).get.access.outcome (b, ()) = (.ok value, b, ()) := by
  induction items generalizing b with
  | array =>
    obtain ⟨values, size, filled, read⟩ := FixedArray.get_getInto starts few inside fits
    refine ⟨values, size, filled, ?_⟩
    intro i value within found
    simp only [slot, Slot.get, Use.access, Access.outcome_focus, Lens.first, read i value found]
  | @nested inner _ place items ih =>
    have deeper : b.offset + place + inner.room ≤ b.memory.length := by
      rw [Nat.add_assoc]
      exact fits
    obtain ⟨values, size, filled, read⟩ :=
      @ih { b with offset := b.offset + place } _ starts few inside deeper
    refine ⟨values, size, ?_, ?_⟩
    · simp only [getInto, Use.outcome_nested, filled]
    · intro i value within found
      simp only [slot, Slot.get, Use.outcome_nested, read i value within found]

end Bulk

/-- The items that stand behind those of a transfer are apart from it. -/
theorem apart {member : Member} (items : Items member α) {count index : Nat}
    (inside : index < items.length) (behind : count ≤ index) :
    (∀ source start, (items.putFrom source start count).extent.Apart
        (items.slot index inside).get.extent) ∧
      ∀ start, (items.getInto start count).extent.Apart (items.slot index inside).get.extent := by
  induction items with
  | @array _ _ field =>
    have parts : (field.part 0 count).Apart (field.part index 1) := by
      apply FixedArray.part_apart
      rwa [Nat.zero_add]
    exact ⟨fun _ _ => parts, fun _ => parts⟩
  | nested items ih =>
    obtain ⟨put, got⟩ := ih inside
    exact ⟨fun source start => (put source start).moved _, fun start => (got start).moved _⟩

end Member.Items

end Flyweight.Wire
