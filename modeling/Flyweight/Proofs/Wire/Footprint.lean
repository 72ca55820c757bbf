import Flyweight.Proofs.Wire.Fill
import Flyweight.Proofs.Wire.Use

/- Which bits of a memory the use of a member reads and writes.

   A member has an extent in its block: whole bytes, or a single bit of a byte if it is a
   choice. Whatever a caller does with the member,

   1. no bit outside the extent is changed (`Block.Confined.frame`);
   2. the answer, and what becomes of the slice of the caller, depend on the bits of the
      extent and on the length of the memory alone (`Block.Confined.report`).

   So what is done with one member never shows in another whose extent is apart from it
   (`Block.Confined.independent`). For an array the same is said of any part of it: an item
   is apart from the other items. -/

namespace Flyweight.Wire

/-! ## Bits -/

/-- Bytes with the same bits are the same. -/
theorem byte_ext {b c : UInt8} (h : ∀ j < 8, c.toNat.testBit j = b.toNat.testBit j) : c = b := by
  apply UInt8.toBitVec_inj.mp
  apply BitVec.eq_of_getLsbD_eq
  intro j low
  exact h j low

/-- Each byte has eight of the bits of the number. -/
theorem Bytes.testBit_toNat (bytes : List UInt8) (i : Nat) {j : Nat} (low : j < 8) :
    (toNat bytes).testBit (8 * i + j) = (bytes.getD i 0).toNat.testBit j := by
  induction bytes generalizing i with
  | nil => simp [toNat]
  | cons b rest ih =>
    have digits : toNat (b :: rest) = 2 ^ 8 * toNat rest + b.toNat := by
      rw [toNat]
      omega
    rw [digits, Nat.testBit_two_pow_mul_add _ b.toNat_lt]
    cases i with
    | zero => simp [low]
    | succ i =>
      have behind : 8 * (i + 1) + j - 8 = 8 * i + j := by omega
      rw [if_neg (by omega), behind, ih, List.getD_cons_succ]

/-- The other bits of a word stay when one is set or cleared. -/
theorem Word.testBit_withBit_other [Word α] (word : α) {bit : Nat}
    (inside : bit < 8 * Scalar.width α) (value : Bool) {other : Nat} (differs : other ≠ bit) :
    testBit (withBit word bit value) other = testBit word other := by
  rw [testBit_withBit word inside, if_neg differs]

/-- Where the byte of a rank, counted from the lowest one, stands among the bytes of a value;
and the rank of the byte that stands there. -/
def Bytes.place (order : ByteOrder) (width rank : Nat) : Nat :=
  match order with
  | .littleEndian => rank
  | .bigEndian => width - 1 - rank

namespace Bytes

theorem place_lt (order : ByteOrder) {width rank : Nat} (h : rank < width) :
    place order width rank < width := by
  cases order with
  | littleEndian => exact h
  | bigEndian =>
    rw [place]
    omega

theorem place_place (order : ByteOrder) {width rank : Nat} (h : rank < width) :
    place order width (place order width rank) = rank := by
  cases order with
  | littleEndian => rfl
  | bigEndian =>
    simp only [place]
    omega

end Bytes

/-- The bits of a value are those of its bytes. -/
theorem Scalar.testBit_code_decode [Scalar α] (order : ByteOrder) {bytes : List UInt8}
    (size : bytes.length = width α) {rank j : Nat} (h : rank < width α) (low : j < 8) :
    (code (decode order bytes : α)).testBit (8 * rank + j) =
      (bytes.getD (Bytes.place order (width α) rank) 0).toNat.testBit j := by
  have small := Bytes.toNat_lt bytes
  rw [size] at small
  cases order with
  | littleEndian => rw [decode, code_ofCode _ small, Bytes.testBit_toNat _ _ low, Bytes.place]
  | bigEndian =>
    have small := Bytes.toNat_lt bytes.reverse
    rw [List.length_reverse, size] at small
    rw [decode, code_ofCode _ small, Bytes.testBit_toNat _ _ low, Bytes.place, List.getD_eq_getElem?_getD,
      List.getD_eq_getElem?_getD, List.getElem?_reverse (by omega), size]

namespace Memory

/-- Bit `j` of byte `i`. -/
def bit (m : Memory) (i j : Nat) : Bool := (m.getD i 0).toNat.testBit j

/-- The memories are of one length, and have the bits in common that are asked for. -/
structure SameOn (asked : Nat → Nat → Prop) (m w : Memory) : Prop where
  length : w.length = m.length
  bit : ∀ i j, j < 8 → asked i j → w.bit i j = m.bit i j

namespace SameOn

theorem refl (asked : Nat → Nat → Prop) (m : Memory) : SameOn asked m m :=
  ⟨rfl, fun _ _ _ _ => rfl⟩

theorem mono {asked fewer : Nat → Nat → Prop} {m w : Memory} (h : SameOn asked m w)
    (le : ∀ i j, fewer i j → asked i j) : SameOn fewer m w where
  length := h.length
  bit i j low held := h.bit i j low (le i j held)

variable {asked : Nat → Nat → Prop} {m w : Memory}

/-- A byte of which every bit is asked for is the same. -/
theorem getElem? (h : SameOn asked m w) {i : Nat} (all : ∀ j, asked i j) : w[i]? = m[i]? := by
  have bits : w.getD i 0 = m.getD i 0 := byte_ext fun j low => h.bit i j low (all j)
  have length := h.length
  by_cases inside : i < m.length
  · simpa [inside, length] using bits
  · rw [List.getElem?_eq_none (by omega), List.getElem?_eq_none (by omega)]

theorem read (h : SameOn asked m w) {start size : Nat}
    (all : ∀ i j, start ≤ i → i < start + size → asked i j) :
    Region.read w start size = Region.read m start size := by
  apply List.ext_getElem?
  intro i
  rw [Region.getElem?_read, Region.getElem?_read]
  split
  · apply h.getElem?
    intro j
    exact all _ j (by omega) (by omega)
  · rfl

theorem holds (h : SameOn asked m w) {start : Nat} {bytes : List UInt8} (held : m.Holds start bytes)
    (all : ∀ i j, start ≤ i → i < start + bytes.length → asked i j) : w.Holds start bytes := by
  constructor
  · rw [h.length]
    exact held.inside
  · rw [h.read all]
    exact held.same

/-- Outside of what is written the memory keeps its bits. -/
theorem write {start : Nat} {new : List UInt8} (fits : start + new.length ≤ m.length)
    (apart : ∀ i j, asked i j → i < start ∨ start + new.length ≤ i) :
    SameOn asked m (Region.write m start new) where
  length := Region.length_write fits
  bit i j _ held := by
    have away := apart i j held
    have same : (Region.write m start new)[i]? = m[i]? := by
      rw [Region.getElem?_write fits, if_neg (by omega)]
    rw [Memory.bit, Memory.bit, List.getD_eq_getElem?_getD, List.getD_eq_getElem?_getD, same]

end SameOn

end Memory

/-! ## Extents -/

/-- A place in a memory: bytes, or one bit of each of them. -/
structure Extent where
  start : Nat
  size : Nat
  bit? : Option Nat := none
  deriving DecidableEq, Repr

namespace Extent

/-- Bit `j` of byte `i` is in the extent. -/
def Has (e : Extent) (i j : Nat) : Prop :=
  e.start ≤ i ∧ i < e.start + e.size ∧ ∀ k ∈ e.bit?, j = k

/-- An extent of whole bytes has all bits of each. -/
theorem has_of_bytes {start size i : Nat} (low : start ≤ i) (high : i < start + size) (j : Nat) :
    Has ⟨start, size, none⟩ i j := by
  refine ⟨low, high, ?_⟩
  intro k given
  cases given

/-- The extent, counted from a byte further ahead. -/
def moved (e : Extent) (base : Nat) : Extent := { e with start := base + e.start }

/-- The extents have no byte in common, or are different bits. -/
def Apart (e f : Extent) : Prop :=
  e.start + e.size ≤ f.start ∨ f.start + f.size ≤ e.start ∨
    (e.bit?.isSome ∧ f.bit?.isSome ∧ e.bit? ≠ f.bit?)

instance (e f : Extent) : Decidable (e.Apart f) :=
  inferInstanceAs (Decidable (_ ∨ _ ∨ _))

theorem Apart.symm {e f : Extent} (h : e.Apart f) : f.Apart e := by
  obtain left | right | ⟨one, other, differ⟩ := h
  · exact .inr (.inl left)
  · exact .inl right
  · exact .inr (.inr ⟨other, one, differ.symm⟩)

theorem Apart.not_has {e f : Extent} (h : e.Apart f) {i j : Nat} (held : f.Has i j) :
    ¬ e.Has i j := by
  intro given
  obtain ⟨low, high, bit⟩ := given
  obtain ⟨low', high', bit'⟩ := held
  obtain left | right | ⟨one, other, differ⟩ := h
  · omega
  · omega
  · obtain ⟨k, hk⟩ := Option.isSome_iff_exists.mp one
    obtain ⟨k', hk'⟩ := Option.isSome_iff_exists.mp other
    apply differ
    rw [hk, hk', ← bit k hk, ← bit' k' hk']

theorem Apart.moved {e f : Extent} (h : e.Apart f) (base : Nat) :
    (e.moved base).Apart (f.moved base) := by
  obtain left | right | other := h
  · left
    simp only [Extent.moved]
    omega
  · right
    left
    simp only [Extent.moved]
    omega
  · exact .inr (.inr other)

/-- What is inside stays inside, further behind. -/
theorem has_moved {e f : Extent} (le : ∀ {i j}, e.Has i j → f.Has i j) {base i j : Nat}
    (h : (e.moved base).Has i j) : (f.moved base).Has i j := by
  obtain ⟨low, high, bit⟩ := h
  simp only [moved] at low high bit
  obtain ⟨low', high', bit'⟩ := @le (i - base) j ⟨by omega, by omega, bit⟩
  refine ⟨?_, ?_, bit'⟩
  · simp only [moved]
    omega
  · simp only [moved]
    omega

theorem moved_moved (e : Extent) (a b : Nat) : (e.moved a).moved b = e.moved (b + a) := by
  simp only [moved, Nat.add_assoc]

end Extent

/-! ## Steps that keep to an extent -/

namespace Block

/-- The step changes no bits of the memory but those of `e`, which is counted from the start
of the block, and what it reports depends on no others. -/
structure Confined (e : Extent) (step : Block → ρ × Block) : Prop where
  frame : ∀ b, ∃ w, (step b).2 = { b with memory := w } ∧
    Memory.SameOn (fun i j => ¬ (e.moved b.offset).Has i j) b.memory w
  report : ∀ b w, Memory.SameOn (e.moved b.offset).Has b.memory w →
    (step { b with memory := w }).1 = (step b).1

namespace Confined
variable {e f : Extent} {step : Block → ρ × Block} {other : Block → ρ' × Block}

/-- What one step does never shows in what the other reports. -/
theorem independent (h : Confined e step) (h' : Confined f other) (apart : e.Apart f) (b : Block) :
    (other (step b).2).1 = (other b).1 := by
  obtain ⟨w, stays, same⟩ := h.frame b
  rw [stays]
  apply h'.report
  apply same.mono
  intro i j held
  exact (apart.moved b.offset).not_has held

theorem mono (h : Confined e step) (le : ∀ {i j}, e.Has i j → f.Has i j) : Confined f step := by
  constructor
  · intro b
    obtain ⟨w, stays, same⟩ := h.frame b
    refine ⟨w, stays, same.mono ?_⟩
    intro i j away held
    apply away
    exact Extent.has_moved le held
  · intro b w same
    apply h.report b w
    apply same.mono
    intro i j held
    exact Extent.has_moved le held

theorem congr {step' : Block → ρ × Block} (h : Confined e step) (same : ∀ b, step' b = step b) :
    Confined e step' := by
  rwa [funext same]

/-- Another report is made of the one that there is. -/
theorem map (h : Confined e step) (g : ρ → ρ') :
    Confined e (fun b => (g (step b).1, (step b).2)) where
  frame := h.frame
  report b w same := congrArg g (h.report b w same)

/-- The step is made in a block inside the block. -/
theorem nested (h : Confined e step) (place : Nat) :
    Confined (e.moved place) fun b =>
      ((step { b with offset := b.offset + place }).1,
        { b with memory := (step { b with offset := b.offset + place }).2.memory }) where
  frame b := by
    obtain ⟨w, stays, same⟩ := h.frame { b with offset := b.offset + place }
    refine ⟨w, by rw [stays], ?_⟩
    rwa [Extent.moved_moved]
  report b w same := by
    rw [Extent.moved_moved] at same
    exact h.report { b with offset := b.offset + place } w same

/-- A step that does nothing reports the same in any memory. -/
theorem still (answer : ρ) : Confined e (fun b => (answer, b)) where
  frame b := ⟨b.memory, rfl, .refl _ _⟩
  report _ _ _ := rfl

/-- The report is made of bytes of the block, and nothing is written. -/
theorem read (start size : Nat) (g : Nat → Nat → List UInt8 → ρ) :
    Confined ⟨start, size, none⟩ fun b =>
      (g b.offset b.memory.length (Region.read b.memory (b.offset + start) size), b) where
  frame b := ⟨b.memory, rfl, .refl _ _⟩
  report b w same := by
    have bytes : Region.read w (b.offset + start) size =
        Region.read b.memory (b.offset + start) size := by
      apply same.read
      intro i j low high
      exact Extent.has_of_bytes low high j
    simp only [bytes, same.length]

/-- The bytes of the block are written where they fit, whatever is there. -/
theorem write (start : Nat) (new : List UInt8) (g : Nat → Nat → ρ) :
    Confined ⟨start, new.length, none⟩ fun b =>
      (g b.offset b.memory.length,
        if b.offset + start + new.length ≤ b.memory.length then
          { b with memory := Region.write b.memory (b.offset + start) new }
        else b) where
  frame b := by
    by_cases fits : b.offset + start + new.length ≤ b.memory.length
    · refine ⟨_, if_pos fits, Memory.SameOn.write fits ?_⟩
      intro i j away
      apply Decidable.byContradiction
      intro inside
      apply away
      show Extent.Has ⟨b.offset + start, new.length, none⟩ i j
      apply Extent.has_of_bytes
      · omega
      · omega
    · exact ⟨b.memory, if_neg fits, .refl _ _⟩
  report b w same := by rw [same.length]

end Confined

/-- What an access does to the block. With its answer it reports what became of the slice of
the caller. -/
def reporting (access : Access (Block × τ) β) (slice : τ) (b : Block) :
    (Except AccessError β × τ) × Block :=
  match access.outcome (b, slice) with
  | (answer, after, filled) => ((answer, filled), after)

namespace Confined
variable {e : Extent}

theorem first {access : Access Block β} (h : Confined e access.outcome) (slice : τ) :
    Confined e (reporting (Access.focus (.first Block τ) access) slice) :=
  h.map fun answer => (answer, slice)

theorem within {access : Access (Block × τ) β} {slice : τ} (h : Confined e (reporting access slice))
    (place : Nat) :
    Confined (e.moved place)
      (reporting (Access.focus ((Block.nested place).beside τ) access) slice) :=
  h.nested place

end Confined

end Block

/-! ## Choices -/

namespace Memory
section Word
variable [Word α] (order : ByteOrder) {m : Memory} {start : Nat}

/-- The bits of a region are those of the word that is read from it. -/
theorem bit_eq_testBit (fits : start + Scalar.width α ≤ m.length) {p j : Nat}
    (within : p < Scalar.width α) (low : j < 8) :
    m.bit (start + p) j =
      Word.testBit (Scalar.decode order (Region.read m start (Scalar.width α)) : α)
        (8 * Bytes.place order (Scalar.width α) p + j) := by
  have rank := Bytes.place_lt order within
  have byte := Scalar.testBit_code_decode (α := α) order (Region.length_read fits) rank low
  rw [Bytes.place_place order within] at byte
  rw [Word.testBit, byte, bit, List.getD_eq_getElem?_getD, List.getD_eq_getElem?_getD,
    Region.getElem?_read, if_pos within]

/-- A bit of the word is set or cleared, and the word written back: the bits of the memory
that are not that bit stay. -/
theorem bit_write_withBit (fits : start + Scalar.width α ≤ m.length) {index : Nat}
    (inside : index < 8 * Scalar.width α) (value : Bool) {p j : Nat}
    (within : p < Scalar.width α) (low : j < 8)
    (differs : 8 * Bytes.place order (Scalar.width α) p + j ≠ index) :
    bit (Region.write m start (Scalar.encode order (Word.withBit
      (Scalar.decode order (Region.read m start (Scalar.width α)) : α) index value)))
        (start + p) j = m.bit (start + p) j := by
  let word : α := Scalar.decode order (Region.read m start (Scalar.width α))
  have size := Scalar.length_encode order (Word.withBit word index value)
  have fits' : start + (Scalar.encode order (Word.withBit word index value)).length ≤ m.length := by
    rwa [size]
  have back := Region.read_write_self fits'
  rw [size] at back
  have size' := Region.length_write fits'
  rw [bit_eq_testBit (α := α) order (by rwa [size']) within low, back, Scalar.decode_encode,
    bit_eq_testBit (α := α) order fits within low]
  exact Word.testBit_withBit_other word inside value differs

end Word
end Memory

namespace Choice

/-- The bit of the block that the choice is. -/
def extent [Word α] (c : Choice α) : Extent where
  start := Bytes.place c.order (Scalar.width α) (c.bit / 8)
  size := 1
  bit? := some (c.bit % 8)

/-- The bit is one of the word. -/
def Sound [Word α] (c : Choice α) : Prop := c.bit < 8 * Scalar.width α

section Word
variable [Word α] (c : Choice α)

theorem outcome_get (b : Block) :
    c.get.outcome b =
      if b.offset + Scalar.width α ≤ b.memory.length then
        (.ok (Word.testBit (Scalar.decode c.order
          (Region.read b.memory b.offset (Scalar.width α)) : α) c.bit), b)
      else (.error (.bufferOverflow b.offset (Scalar.width α) b.memory.length), b) := by
  rw [get, Block.outcome_inMemory, Memory.testChoice, Access.outcome_bind, Memory.outcome_load]
  by_cases fits : b.offset + Scalar.width α ≤ b.memory.length
  · simp only [if_pos fits, Access.outcome_pure]
  · simp only [if_neg fits]

theorem outcome_set (value : Bool) (b : Block) :
    (c.set value).outcome b =
      if b.offset + Scalar.width α ≤ b.memory.length then
        (.ok (), { b with
          memory := Region.write b.memory b.offset (Scalar.encode c.order (Word.withBit
            (Scalar.decode c.order (Region.read b.memory b.offset (Scalar.width α)) : α)
            c.bit value)) })
      else (.error (.bufferOverflow b.offset (Scalar.width α) b.memory.length), b) := by
  rw [set, Block.outcome_inMemory, Memory.setChoice, Access.outcome_bind, Memory.outcome_load]
  by_cases fits : b.offset + Scalar.width α ≤ b.memory.length
  · simp only [if_pos fits, Memory.outcome_store]
  · simp only [if_neg fits]

variable {c}

/-- The place of the bit in the memory, and back. -/
theorem Sound.place (sound : c.Sound) :
    Bytes.place c.order (Scalar.width α) (c.bit / 8) < Scalar.width α ∧
      8 * Bytes.place c.order (Scalar.width α)
        (Bytes.place c.order (Scalar.width α) (c.bit / 8)) + c.bit % 8 = c.bit := by
  have rank : c.bit / 8 < Scalar.width α := by
    unfold Sound at sound
    omega
  rw [Bytes.place_place c.order rank]
  exact ⟨Bytes.place_lt c.order rank, Nat.div_add_mod _ _⟩

/-- A bit of the word that is not in the extent is not that of the choice. -/
theorem index_ne {base p j : Nat} (within : p < Scalar.width α) (low : j < 8)
    (away : ¬ (c.extent.moved base).Has (base + p) j) :
    8 * Bytes.place c.order (Scalar.width α) p + j ≠ c.bit := by
  intro index
  apply away
  have rank : c.bit / 8 = Bytes.place c.order (Scalar.width α) p := by omega
  have place : (c.extent.moved base).start = base + p := by
    show base + Bytes.place c.order (Scalar.width α) (c.bit / 8) = base + p
    rw [rank, Bytes.place_place c.order within]
  refine ⟨Nat.le_of_eq place, Nat.lt_succ_of_le (Nat.le_of_eq place.symm), ?_⟩
  intro k found
  obtain rfl : c.bit % 8 = k := Option.some.inj found
  omega

/-- The choice is read from its bit. -/
theorem testBit_read (sound : c.Sound) {m : Memory} {start : Nat}
    (fits : start + Scalar.width α ≤ m.length) :
    Word.testBit (Scalar.decode c.order (Region.read m start (Scalar.width α)) : α) c.bit =
      m.bit (c.extent.moved start).start (c.bit % 8) := by
  obtain ⟨within, whole⟩ := sound.place
  have same := Memory.bit_eq_testBit (α := α) c.order fits within (Nat.mod_lt c.bit (by decide))
  rw [whole] at same
  exact same.symm

theorem confined_get (sound : c.Sound) : Block.Confined c.extent c.get.outcome where
  frame b := by
    refine ⟨b.memory, ?_, .refl _ _⟩
    rw [outcome_get]
    split
    · rfl
    · rfl
  report b w same := by
    rw [outcome_get, outcome_get, same.length]
    by_cases fits : b.offset + Scalar.width α ≤ b.memory.length
    · have fits' : b.offset + Scalar.width α ≤ w.length := by rwa [same.length]
      have held : w.bit (c.extent.moved b.offset).start (c.bit % 8) =
          b.memory.bit (c.extent.moved b.offset).start (c.bit % 8) := by
        apply same.bit _ _ (Nat.mod_lt _ (by decide))
        refine ⟨Nat.le_refl _, Nat.lt_succ_self _, ?_⟩
        intro k found
        exact Option.some.inj found
      rw [if_pos fits, if_pos fits]
      simp only [testBit_read sound fits, testBit_read sound fits', held]
    · rw [if_neg fits, if_neg fits]

theorem confined_set (sound : c.Sound) (value : Bool) :
    Block.Confined c.extent (c.set value).outcome where
  frame b := by
    rw [outcome_set]
    by_cases fits : b.offset + Scalar.width α ≤ b.memory.length
    · let word : α := Scalar.decode c.order (Region.read b.memory b.offset (Scalar.width α))
      have size := Scalar.length_encode c.order (Word.withBit word c.bit value)
      have fits' : b.offset + (Scalar.encode c.order (Word.withBit word c.bit value)).length ≤
          b.memory.length := by rwa [size]
      rw [if_pos fits]
      refine ⟨_, rfl, Region.length_write fits', ?_⟩
      intro i j low away
      by_cases inside : b.offset ≤ i ∧ i < b.offset + Scalar.width α
      · obtain ⟨p, rfl⟩ : ∃ p, i = b.offset + p := ⟨i - b.offset, by omega⟩
        have within : p < Scalar.width α := by omega
        apply Memory.bit_write_withBit c.order fits sound value within low
        exact index_ne within low away
      · have kept : Memory.SameOn (fun i' _ => i' = i) b.memory _ := .write fits' (by
          intro i' _ there
          rw [size]
          omega)
        exact kept.bit i j low rfl
    · rw [if_neg fits]
      exact ⟨b.memory, rfl, .refl _ _⟩
  report b w same := by
    rw [outcome_set, outcome_set, same.length]
    by_cases fits : b.offset + Scalar.width α ≤ b.memory.length
    · rw [if_pos fits, if_pos fits]
    · rw [if_neg fits, if_neg fits]

end Word

end Choice

end Flyweight.Wire
