import Flyweight.Wire.Message

/- What accesses to a block lay down in it, and what they take up from it.

   A write access is described by the bytes that it puts at an offset of the block
   (`Fills`), a read access by the bytes that it needs there and the value that it
   finds in them (`Reads`). The description of a sequence is that of its parts, end to
   end, so the bytes of a block are read off the code that writes it. -/

namespace Flyweight.Wire

/-! ## Bytes in place -/

namespace Memory

/-- The memory has the bytes from `start` on. -/
structure Holds (m : Memory) (start : Nat) (bytes : List UInt8) : Prop where
  inside : start + bytes.length ≤ m.length
  same : Region.read m start bytes.length = bytes

theorem holds_append {m : Memory} {start : Nat} {front back : List UInt8} :
    m.Holds start (front ++ back) ↔
      m.Holds start front ∧ m.Holds (start + front.length) back := by
  constructor
  · intro given
    obtain ⟨inside, same⟩ := given
    rw [List.length_append] at inside
    rw [List.length_append, Region.read_add] at same
    have size : (Region.read m start front.length).length = front.length :=
      Region.length_read (by omega)
    obtain ⟨first, second⟩ := List.append_inj same size
    exact ⟨⟨by omega, first⟩, ⟨by omega, second⟩⟩
  · intro given
    obtain ⟨⟨_, first⟩, ⟨inside, second⟩⟩ := given
    refine ⟨by rw [List.length_append]; omega, ?_⟩
    rw [List.length_append, Region.read_add, first, second]

theorem holds_write {m : Memory} {start : Nat} {bytes : List UInt8}
    (h : start + bytes.length ≤ m.length) : Holds (Region.write m start bytes) start bytes :=
  ⟨by rwa [Region.length_write h], Region.read_write_self h⟩

/-- The bytes of values that stand one after the other. -/
def packed [Scalar α] (order : ByteOrder) (values : List α) : List UInt8 :=
  values.flatMap (Scalar.encode order)

theorem packed_cons [Scalar α] (order : ByteOrder) (value : α) (rest : List α) :
    packed order (value :: rest) = Scalar.encode order value ++ packed order rest :=
  List.flatMap_cons

theorem length_packed [Scalar α] (order : ByteOrder) (values : List α) :
    (packed order values).length = values.length * Scalar.width α := by
  induction values with
  | nil => simp [packed]
  | cons value rest ih =>
    calc (packed order (value :: rest)).length
        = Scalar.width α + rest.length * Scalar.width α := by
          rw [packed_cons, List.length_append, Scalar.length_encode, ih]
      _ = (value :: rest).length * Scalar.width α := by
          rw [List.length_cons, Nat.succ_mul, Nat.add_comm]

theorem storeEach_eq [Scalar α] (order : ByteOrder) {m : Memory} {start : Nat} {values : List α}
    (h : start + values.length * Scalar.width α ≤ m.length) :
    (storeEach order start values).outcome m =
      (.ok (), Region.write m start (packed order values)) := by
  -- The memory varies: the rest of the values is stored over the first one's bytes.
  induction values generalizing start m with
  | nil => exact congrArg _ (Region.write_nil m start).symm
  | cons value rest ih =>
    rw [List.length_cons, Nat.succ_mul] at h
    have width := Scalar.length_encode order value
    have early : start + Scalar.width α ≤ m.length := by omega
    have size : (Region.write m start (Scalar.encode order value)).length = m.length :=
      Region.length_write (by omega)
    have joined : Region.write (Region.write m start (Scalar.encode order value))
        (start + (Scalar.encode order value).length) (packed order rest) =
          Region.write m start (Scalar.encode order value ++ packed order rest) :=
      Region.write_append (by rw [length_packed]; omega)
    rw [width] at joined
    calc (storeEach order start (value :: rest)).outcome m
        = (storeEach order (start + Scalar.width α) rest).outcome
            (Region.write m start (Scalar.encode order value)) := by
          rw [storeEach, Access.outcome_bind, outcome_store, if_pos early]
      _ = (.ok (), Region.write (Region.write m start (Scalar.encode order value))
            (start + Scalar.width α) (packed order rest)) := ih (by omega)
      _ = (.ok (), Region.write m start (packed order (value :: rest))) := by
          rw [joined, packed_cons]

/-- As many values as there are slots are loaded. -/
theorem fill_eq [Scalar α] (order : ByteOrder) {m : Memory} {start : Nat} {values slots : List α}
    (size : slots.length = values.length) (holds : m.Holds start (packed order values)) :
    fill order m start slots = (.ok (), values) := by
  induction values generalizing start slots with
  | nil => rw [List.eq_nil_of_length_eq_zero size, fill]
  | cons value rest ih =>
    obtain ⟨slot, others, rfl⟩ := List.exists_cons_of_length_eq_add_one size
    obtain ⟨⟨inside, same⟩, late⟩ := holds_append.mp (packed_cons order value rest ▸ holds)
    rw [Scalar.length_encode] at inside same late
    have next := ih (Nat.succ.inj size) late
    rw [fill, outcome_load, if_pos inside, same, Scalar.decode_encode]
    simp only [next]

/-- Where there is room for a value, one is there. -/
theorem holds_encode [Scalar α] (order : ByteOrder) {m : Memory} {start : Nat}
    (h : start + Scalar.width α ≤ m.length) : ∃ a : α, m.Holds start (Scalar.encode order a) := by
  have size := Region.length_read h
  refine ⟨Scalar.decode order (Region.read m start (Scalar.width α)), ?_, ?_⟩
  · rwa [Scalar.length_encode]
  · rw [Scalar.length_encode, Scalar.encode_decode order size]

end Memory

@[simp]
theorem Access.outcome_liftM (answer : Except AccessError α) (s : σ) :
    Access.outcome (liftM answer : Access σ α) s = (answer, s) := rfl

/-- A sequence fails where its first access does. -/
theorem Access.fails_bind {access : Access σ α} {s : σ} {e : AccessError}
    (h : (access.outcome s).1 = .error e) (next : α → Access σ β) :
    ((access >>= next).outcome s).1 = .error e := by
  rw [outcome_bind]
  rcases outcome : access.outcome s with ⟨result, after⟩
  rw [outcome] at h
  obtain rfl : result = .error e := h
  rfl

/-! ## Accesses to a block -/

/-- The block after bytes were written at an offset of it. -/
def Block.written (b : Block) (offset : Nat) (bytes : List UInt8) : Block :=
  { b with memory := Region.write b.memory (b.offset + offset) bytes }

theorem Block.length_written {b : Block} {offset : Nat} {bytes : List UInt8}
    (fits : b.offset + offset + bytes.length ≤ b.memory.length) :
    (b.written offset bytes).memory.length = b.memory.length :=
  Region.length_write fits

/-- What is written in two parts, the second right after the first, is written at once. -/
theorem Block.written_append {b : Block} {offset next : Nat} {front back : List UInt8}
    (adjacent : offset + front.length = next)
    (fits : b.offset + next + back.length ≤ b.memory.length) :
    (b.written offset front).written next back = b.written offset (front ++ back) := by
  subst adjacent
  have joined : Region.write (Region.write b.memory (b.offset + offset) front)
      (b.offset + offset + front.length) back =
        Region.write b.memory (b.offset + offset) (front ++ back) :=
    Region.write_append (by omega)
  simp only [written, ← joined, Nat.add_assoc]

theorem Block.written_written {b : Block} {offset : Nat} {first second : List UInt8}
    (same : first.length = second.length)
    (fits : b.offset + offset + second.length ≤ b.memory.length) :
    (b.written offset first).written offset second = b.written offset second := by
  simp only [written, Region.write_write same fits]

/-- In every block that has room for them, the access puts the bytes at the offset. -/
def Fills (access : Access Block Unit) (offset : Nat) (bytes : List UInt8) : Prop :=
  ∀ b : Block, b.offset + offset + bytes.length ≤ b.memory.length →
    access.outcome b = (.ok (), b.written offset bytes)

/-- In every block that has the bytes at the offset, the access finds the value and
changes nothing. -/
def Reads (access : Access Block α) (offset : Nat) (bytes : List UInt8) (a : α) : Prop :=
  ∀ b : Block, b.memory.Holds (b.offset + offset) bytes → access.outcome b = (.ok a, b)

namespace Fills

theorem done (offset : Nat) : Fills (pure ()) offset [] := by
  intro b _
  rw [Block.written, Region.write_nil]
  rfl

/-- The second access goes on where the first one ends. -/
theorem append {first second : Access Block Unit} {offset next : Nat} {front back : List UInt8}
    (hf : Fills first offset front) (adjacent : offset + front.length = next)
    (hs : Fills second next back) : Fills (first >>= fun _ => second) offset (front ++ back) := by
  intro b fits
  rw [List.length_append] at fits
  have size : (b.written offset front).memory.length = b.memory.length :=
    Block.length_written (by omega)
  -- What the first access wrote has not changed how much room the second one finds.
  have room : (b.written offset front).offset + next + back.length ≤
      (b.written offset front).memory.length := by
    rw [size]
    show b.offset + next + back.length ≤ b.memory.length
    omega
  calc (first >>= fun _ => second).outcome b
      = second.outcome (b.written offset front) := by rw [Access.outcome_bind, hf b (by omega)]
    _ = (.ok (), (b.written offset front).written next back) := hs _ room
    _ = (.ok (), b.written offset (front ++ back)) := by
        rw [Block.written_append adjacent (by omega)]

/-- A block inside the block is filled at its place. -/
theorem nested {access : Access Block Unit} {offset place : Nat} {bytes : List UInt8}
    (h : Fills access offset bytes) :
    Fills (Access.focus (Block.nested place) access) (place + offset) bytes := by
  intro b fits
  have inner := h { b with offset := b.offset + place } (by simp only; omega)
  simp only [Access.outcome_focus, Block.nested, inner, Block.written, Nat.add_assoc]

end Fills

namespace Reads

/-- An access that goes on with what a first one found. -/
theorem bind {first : Access Block α} {second : α → Access Block β} {offset next : Nat}
    {front back : List UInt8} {a : α} {c : β} (hf : Reads first offset front a)
    (adjacent : offset + front.length = next) (hs : Reads (second a) next back c) :
    Reads (first >>= second) offset (front ++ back) c := by
  subst adjacent
  intro b holds
  obtain ⟨early, late⟩ := Memory.holds_append.mp holds
  rw [Access.outcome_bind, hf b early]
  exact hs b (by rwa [← Nat.add_assoc])

theorem done (offset : Nat) (a : α) : Reads (pure a) offset [] a :=
  fun _ _ => rfl

/-- What is found is put together from its parts. -/
theorem map {access : Access Block α} {offset : Nat} {bytes : List UInt8} {a : α}
    (h : Reads access offset bytes a) (f : α → β) :
    Reads (access >>= fun a => pure (f a)) offset bytes (f a) := by
  intro b holds
  rw [Access.outcome_bind, h b holds]
  rfl

theorem nested {access : Access Block α} {offset place : Nat} {bytes : List UInt8} {a : α}
    (h : Reads access offset bytes a) :
    Reads (Access.focus (Block.nested place) access) (place + offset) bytes a := by
  intro b holds
  have inner := h { b with offset := b.offset + place } (by rwa [Nat.add_assoc])
  simp only [Access.outcome_focus, Block.nested, inner]

end Reads

/-! ## Members of a block -/

namespace ScalarField

/-- The bytes of a single value. -/
def bytes [Scalar α] (f : ScalarField α) (a : α) : List UInt8 := Scalar.encode f.order a

@[simp]
theorem length_bytes [Scalar α] (f : ScalarField α) (a : α) :
    (f.bytes a).length = Scalar.width α :=
  Scalar.length_encode _ _

theorem fills [Scalar α] (f : ScalarField α) (a : α) : Fills (f.set a) f.offset (f.bytes a) := by
  intro b fits
  rw [length_bytes] at fits
  rw [outcome_set, if_pos fits]
  rfl

theorem reads [Scalar α] (f : ScalarField α) (a : α) : Reads f.get f.offset (f.bytes a) a := by
  intro b ⟨inside, same⟩
  rw [length_bytes] at inside same
  rw [outcome_get, if_pos inside, same, bytes, Scalar.decode_encode]

end ScalarField

namespace CodeField

/-- The bytes of a member whose value is one of an enumeration. -/
def bytes [Enumeration ε] (f : CodeField ε) (v : ε) : List UInt8 :=
  f.codeField.bytes (Enumeration.code v)

@[simp]
theorem length_bytes [Enumeration ε] (f : CodeField ε) (v : ε) : (f.bytes v).length = 1 :=
  f.codeField.length_bytes _

theorem fills [Enumeration ε] (f : CodeField ε) (v : ε) :
    Fills (f.set v) f.offset (f.bytes v) :=
  f.codeField.fills (Enumeration.code v)

theorem reads [Enumeration ε] (f : CodeField ε) (v : ε) :
    Reads f.get f.offset (f.bytes v) v := by
  intro b holds
  rw [get, Access.outcome_bind, f.codeField.reads (Enumeration.code v) b holds]
  simp only [Enumeration.ofCode_code, Access.outcome_liftM]

end CodeField

namespace FixedArray

/-- Sets the items from `index` on, one after the other. -/
def setFrom [Scalar α] (a : FixedArray α) (index : Nat) : List α → Access Block Unit
  | [] => pure ()
  | value :: rest => do
    a.set index value
    a.setFrom (index + 1) rest

/-- The `count` items from `index` on, one after the other. -/
def getFrom [Scalar α] (a : FixedArray α) (index : Nat) : Nat → Access Block (List α)
  | 0 => pure []
  | count + 1 => do
    let value ← a.get index
    let rest ← a.getFrom (index + 1) count
    return value :: rest

/-- The bytes of items, one after the other. -/
def bytes [Scalar α] (a : FixedArray α) (values : List α) : List UInt8 :=
  Memory.packed a.order values

theorem length_bytes [Scalar α] (a : FixedArray α) (values : List α) :
    (a.bytes values).length = values.length * Scalar.width α :=
  Memory.length_packed _ _

theorem fills_item [Scalar α] (a : FixedArray α) {index : Nat} (h : index < a.length) (value : α) :
    Fills (a.set index value) (a.offset + index * Scalar.width α)
      (Scalar.encode a.order value) := by
  intro b fits
  rw [FixedArray.set, Access.outcome_bind, checkIndex, if_pos h, Access.outcome_pure]
  exact (a.item index).fills value b fits

theorem reads_item [Scalar α] (a : FixedArray α) {index : Nat} (h : index < a.length) (value : α) :
    Reads (a.get index) (a.offset + index * Scalar.width α)
      (Scalar.encode a.order value) value := by
  intro b holds
  rw [FixedArray.get, Access.outcome_bind, checkIndex, if_pos h, Access.outcome_pure]
  exact (a.item index).reads value b holds

theorem fills_from [Scalar α] (a : FixedArray α) {index : Nat} {values : List α}
    (h : index + values.length ≤ a.length) :
    Fills (a.setFrom index values) (a.offset + index * Scalar.width α) (a.bytes values) := by
  induction values generalizing index with
  | nil => exact Fills.done _
  | cons value rest ih =>
    rw [List.length_cons] at h
    have next := @ih (index + 1) (by omega)
    rw [Nat.succ_mul, ← Nat.add_assoc] at next
    rw [bytes, Memory.packed_cons]
    exact (a.fills_item (by omega) value).append (by rw [Scalar.length_encode]) next

theorem reads_from [Scalar α] (a : FixedArray α) (index : Nat) (values : List α)
    (h : index + values.length ≤ a.length) :
    Reads (a.getFrom index values.length) (a.offset + index * Scalar.width α) (a.bytes values)
      values := by
  induction values generalizing index with
  | nil => exact Reads.done _ _
  | cons value rest ih =>
    rw [List.length_cons] at h
    have next := ih (index + 1) (by omega)
    rw [Nat.succ_mul, ← Nat.add_assoc] at next
    rw [bytes, Memory.packed_cons]
    exact (a.reads_item (by omega) value).bind (by rw [Scalar.length_encode]) (next.map _)

theorem checkTransfer_whole (a : FixedArray α) (some : 0 < a.length) :
    (a.checkTransfer 0 a.length a.length : Access σ Unit) = pure () := by
  rw [checkTransfer, if_neg (by omega), if_neg (by omega), if_neg (by omega)]

/-- A transfer of all items puts them as if they were set one by one. -/
theorem fills_whole [Scalar α] (a : FixedArray α) (some : 0 < a.length) {values : List α}
    (h : values.length = a.length) :
    Fills (a.putFrom values 0 a.length) a.offset (a.bytes values) := by
  intro b fits
  rw [length_bytes] at fits
  rw [putFrom, h, checkTransfer_whole a some, Access.outcome_bind, Access.outcome_pure]
  simp only [Block.outcome_inMemory, Region.read_all h, Memory.storeArray, Access.outcome_bind,
    Memory.outcome_checkRange, if_pos fits, Memory.storeEach_eq a.order fits]
  rfl

/-- The items, by a transfer of all of them. -/
def getAll [Scalar α] (a : FixedArray α) : Access Block (List α) := do
  let (_, items) ← Access.along (List.replicate a.length (Scalar.ofCode 0)) (a.getInto 0 a.length)
  return items

theorem reads_whole [Scalar α] (a : FixedArray α) (some : 0 < a.length) {values : List α}
    (h : values.length = a.length) : Reads a.getAll a.offset (a.bytes values) values := by
  intro b holds
  have fits := holds.inside
  rw [length_bytes, h] at fits
  let slots : List α := List.replicate a.length (Scalar.ofCode 0)
  have size : slots.length = a.length := List.length_replicate
  have loaded := Memory.fill_eq a.order (size.trans h.symm) holds
  have got : (a.getInto 0 a.length).outcome (b, slots) = (.ok (), b, values) := by
    simp only [getInto, Access.outcome_bind, Access.outcome_get, size,
      checkTransfer_whole a some, Access.outcome_pure, Access.outcome_focus, Lens.prod, Lens.region,
      Lens.first, Block.memoryPart, Region.read_all size, Memory.loadArray, Memory.outcome_checkRange,
      if_pos fits, Access.outcome_ofOutcome, loaded, Region.write_all (h.trans size.symm)]
  rw [getAll, Access.outcome_bind, Access.along, Access.outcome_ofOutcome]
  simp only [slots] at got
  simp only [got, Access.outcome_pure]

end FixedArray

namespace Choice

/-- Making or unmaking a choice keeps the rest of the word that is there. -/
theorem set_eq [Word α] (c : Choice α) (value : Bool) {b : Block} {word : α}
    (holds : b.memory.Holds b.offset (Scalar.encode c.order word)) :
    (c.set value).outcome b =
      (.ok (), b.written 0 (Scalar.encode c.order (Word.withBit word c.bit value))) := by
  obtain ⟨inside, same⟩ := holds
  rw [Scalar.length_encode] at inside same
  rw [set, Block.outcome_inMemory]
  simp only [Memory.setChoice, Access.outcome_bind, Memory.outcome_load, if_pos inside, same,
    Scalar.decode_encode, Memory.outcome_store]
  rfl

theorem reads [Word α] (c : Choice α) (word : α) :
    Reads c.get 0 (Scalar.encode c.order word) (Word.testBit word c.bit) := by
  intro b ⟨inside, same⟩
  rw [Scalar.length_encode] at inside same
  rw [Nat.add_zero] at inside same
  rw [get, Block.outcome_inMemory]
  simp only [Memory.testChoice, Access.outcome_bind, Memory.outcome_load, if_pos inside, same,
    Scalar.decode_encode, Access.outcome_pure]

end Choice

end Flyweight.Wire
