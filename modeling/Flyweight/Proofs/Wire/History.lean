import Flyweight.Proofs.Wire.Fill

/- A memory through a history of writes.

   A call puts a value, an array of values, one bit of a word, or bytes as they are. Each
   call has a region that is known before it is made. It succeeds exactly when the region is
   inside the memory, and what it then leaves in the region depends on nothing but what it
   found there (`Call.outcome_access`); so the history of a memory is a list of regions that
   are written over. What is proved from that:

     1. every call of a history succeeds or fails by its bounds alone, a failing call changes
        nothing, and a call changes no byte outside its region;
     2. the last value that was put at a place is read from it, and backwards in the other
        byte order, as long as no later call that succeeds has a byte of it in its region;
     3. two calls whose regions have no byte in common can be made in either order. -/

namespace Flyweight.Wire

/-- The value whose bytes are those of `a` backwards. -/
def Scalar.swapped [Scalar α] (a : α) : α :=
  decode .littleEndian (encode .littleEndian a).reverse

theorem Scalar.encode_swapped [Scalar α] (order : ByteOrder) (a : α) :
    encode order (swapped a) = (encode order a).reverse := by
  have size : (encode .littleEndian a).reverse.length = width α := by
    rw [List.length_reverse, length_encode]
  have little : encode .littleEndian (swapped a) = (encode .littleEndian a).reverse :=
    encode_decode .littleEndian size
  cases order with
  | littleEndian => exact little
  | bigEndian =>
    show (encode .littleEndian (swapped a)).reverse = (encode .littleEndian a).reverse.reverse
    rw [little]

/-- Read in the other order, the bytes of a value are those of the value turned around. -/
theorem Scalar.decode_other [Scalar α] {order other : ByteOrder} (differs : other ≠ order) (a : α) :
    decode other (encode order a) = swapped a := by
  have turned : encode order a = encode other (swapped a) := by
    rw [encode_swapped]
    cases order <;> cases other <;> simp [encode] at differs ⊢
  rw [turned, decode_encode]

namespace Memory

/-! ## Calls -/

/-- A call that writes. A bit is one of the bits of the word. -/
inductive Call : Type 1 where
  | value {α : Type} [Scalar α] (offset : Nat) (order : ByteOrder) (a : α)
  | array {α : Type} [Scalar α] (offset : Nat) (order : ByteOrder) (source : List α)
  | choice (α : Type) [Word α] (offset : Nat) (order : ByteOrder) (bit : Nat)
      (inside : bit < 8 * Scalar.width α) (on : Bool)
  | bytes (offset : Nat) (source : List UInt8)

namespace Call

def access : Call → Access Memory Unit
  | value offset order a => store offset order a
  | array offset order source => storeArray offset order source
  | choice α offset order bit _ on => setChoice α offset order bit on
  | bytes offset source => putBytes offset source

/-- Where the region of the call starts. -/
def offset : Call → Nat
  | value offset _ _ => offset
  | array offset _ _ => offset
  | choice _ offset _ _ _ _ => offset
  | bytes offset _ => offset

/-- How many bytes the region of the call has. -/
def size : Call → Nat
  | @value α _ _ _ _ => Scalar.width α
  | @array α _ _ _ source => source.length * Scalar.width α
  | choice α _ _ _ _ _ => Scalar.width α
  | bytes _ source => source.length

/-- The call has that byte in its region. -/
def Touches (call : Call) (i : Nat) : Prop := call.offset ≤ i ∧ i < call.offset + call.size

/-- No byte is in both regions. -/
def Apart (call : Call) (offset size : Nat) : Prop :=
  ∀ i, call.Touches i → ¬ (offset ≤ i ∧ i < offset + size)

/-- What the call leaves in its region, which held `old`. -/
def written : Call → List UInt8 → List UInt8
  | value _ order a, _ => Scalar.encode order a
  | array _ order source, _ => packed order source
  | choice α _ order bit _ on, old =>
    Scalar.encode order (Word.withBit (Scalar.decode order old : α) bit on)
  | bytes _ source, _ => source

theorem length_written (call : Call) (old : List UInt8) : (call.written old).length = call.size := by
  cases call with
  | value => exact Scalar.length_encode _ _
  | array => exact length_packed _ _
  | choice => exact Scalar.length_encode _ _
  | bytes => rfl

/-- The memory after the call has written to its region. -/
def applied (call : Call) (m : Memory) : Memory :=
  Region.write m call.offset (call.written (Region.read m call.offset call.size))

/-- A call succeeds exactly when its region is inside the memory, and writes to no other
place. -/
theorem outcome_access (call : Call) (m : Memory) :
    call.access.outcome m =
      if call.offset + call.size ≤ m.length then (.ok (), call.applied m)
      else (.error (.bufferOverflow call.offset call.size m.length), m) := by
  cases call with
  | value offset order a => exact outcome_store offset order a m
  | @array α _ offset order source =>
    show (storeArray offset order source).outcome m = _
    rw [storeArray, Access.outcome_bind, outcome_checkRange]
    by_cases fits : offset + source.length * Scalar.width α ≤ m.length
    · rw [if_pos fits]
      exact (storeEach_eq order fits).trans (if_pos fits).symm
    · rw [if_neg fits]
      exact (if_neg fits).symm
  | choice α offset order bit inside on =>
    show (setChoice α offset order bit on).outcome m = _
    rw [setChoice, Access.outcome_bind, outcome_load]
    by_cases fits : offset + Scalar.width α ≤ m.length
    · -- The word is stored where it was loaded, so the second check passes as well.
      simp only [if_pos fits, outcome_store]
      exact (if_pos fits).symm
    · simp only [if_neg fits]
      exact (if_neg fits).symm
  | bytes offset source => exact outcome_putBytes offset source m

section Applied
variable {call : Call} {m : Memory}

theorem length_applied (fits : call.offset + call.size ≤ m.length) :
    (call.applied m).length = m.length :=
  Region.length_write (by rwa [length_written])

theorem getElem?_applied (fits : call.offset + call.size ≤ m.length) {i : Nat}
    (outside : ¬ call.Touches i) : (call.applied m)[i]? = m[i]? := by
  unfold Touches at outside
  rw [applied, Region.getElem?_write (by rwa [length_written]), length_written, if_neg outside]

/-- A region without a byte of the call's own is read as before. -/
theorem read_applied (fits : call.offset + call.size ≤ m.length) {offset size : Nat}
    (apart : call.Apart offset size) :
    Region.read (call.applied m) offset size = Region.read m offset size := by
  apply List.ext_getElem?
  intro i
  rw [Region.getElem?_read, Region.getElem?_read]
  split
  · apply getElem?_applied fits
    intro touches
    exact apart _ touches (by omega)
  · rfl

end Applied

/-- A call succeeds by its bounds alone. -/
theorem succeeds_iff (call : Call) (m : Memory) :
    (call.access.outcome m).1 = .ok () ↔ call.offset + call.size ≤ m.length := by
  rw [outcome_access]
  split
  · rename_i fits
    exact iff_of_true rfl fits
  · rename_i outside
    refine iff_of_false ?_ outside
    intro answer
    cases answer

/-- A call that fails says which region it was for, and changes nothing. -/
theorem outcome_of_error {call : Call} {m : Memory} {e : AccessError}
    (failed : (call.access.outcome m).1 = .error e) :
    e = .bufferOverflow call.offset call.size m.length ∧ (call.access.outcome m).2 = m := by
  rw [outcome_access] at failed ⊢
  split at failed
  · cases failed
  · rename_i outside
    rw [if_neg outside]
    exact ⟨(Except.error.inj failed).symm, rfl⟩

/-- No byte outside its region is changed by a call. -/
theorem getElem?_outcome {call : Call} {m : Memory} {i : Nat} (outside : ¬ call.Touches i) :
    (call.access.outcome m).2[i]? = m[i]? := by
  rw [outcome_access]
  split
  · rename_i fits
    exact getElem?_applied fits outside
  · rfl

/-- Two calls with no byte in common do the same in either order. -/
theorem applied_applied {p q : Call} {m : Memory} (apart : p.Apart q.offset q.size)
    (hp : p.offset + p.size ≤ m.length) (hq : q.offset + q.size ≤ m.length) :
    q.applied (p.applied m) = p.applied (q.applied m) := by
  have apart' : q.Apart p.offset p.size := fun i inside touches => apart i touches inside
  -- Neither call sees what the other one has written.
  have first : q.applied (p.applied m) = Region.write (p.applied m) q.offset
      (q.written (Region.read m q.offset q.size)) := by
    rw [applied, read_applied hp apart]
  have second : p.applied (q.applied m) = Region.write (q.applied m) p.offset
      (p.written (Region.read m p.offset p.size)) := by
    rw [applied, read_applied hq apart']
  have hp' : p.offset + (p.written (Region.read m p.offset p.size)).length ≤ m.length := by
    rwa [length_written]
  have hq' : q.offset + (q.written (Region.read m q.offset q.size)).length ≤ m.length := by
    rwa [length_written]
  rw [first, second]
  apply List.ext_getElem?
  intro i
  rw [Region.getElem?_write (by rwa [length_applied hp]),
    Region.getElem?_write (by rwa [length_applied hq])]
  simp only [applied, Region.getElem?_write hp', Region.getElem?_write hq', length_written]
  by_cases inside : p.offset ≤ i ∧ i < p.offset + p.size
  · rw [if_neg (apart i inside), if_pos inside, if_pos inside]
  · rw [if_neg inside, if_neg inside]

end Call

/-! ## Histories -/

/-- The memory after calls one after the other; after one that fails the next is made on
what it left. -/
def after : List Call → Memory → Memory
  | [], m => m
  | call :: rest, m => after rest (call.access.outcome m).2

theorem after_append (first second : List Call) (m : Memory) :
    after (first ++ second) m = after second (after first m) := by
  induction first generalizing m with
  | nil => rfl
  | cons call rest ih => exact ih _

theorem length_step (call : Call) (m : Memory) :
    (call.access.outcome m).2.length = m.length := by
  rw [Call.outcome_access]
  split
  · rename_i fits
    exact Call.length_applied fits
  · rfl

theorem length_after (calls : List Call) (m : Memory) : (after calls m).length = m.length := by
  induction calls generalizing m with
  | nil => rfl
  | cons call rest ih => rw [after, ih, length_step]

/-- What one call keeps of a region: all of it, unless it succeeds with a byte of it in its
own. -/
theorem read_step {call : Call} {m : Memory} {offset size : Nat}
    (kept : call.offset + call.size ≤ m.length → call.Apart offset size) :
    Region.read (call.access.outcome m).2 offset size = Region.read m offset size := by
  rw [Call.outcome_access]
  split
  · rename_i fits
    exact Call.read_applied fits (kept fits)
  · rfl

theorem read_after {calls : List Call} {m : Memory} {offset size : Nat}
    (kept : ∀ call ∈ calls, call.offset + call.size ≤ m.length → call.Apart offset size) :
    Region.read (after calls m) offset size = Region.read m offset size := by
  induction calls generalizing m with
  | nil => rfl
  | cons call rest ih =>
    rw [after, ih, read_step (kept call List.mem_cons_self)]
    intro later listed
    rw [length_step]
    exact kept later (List.mem_cons_of_mem call listed)

/-- The bytes of the last value put at a place are there, whatever was done before. -/
theorem read_value [Scalar α] {before later : List Call} {m : Memory} {offset : Nat}
    (order : ByteOrder) (a : α) (fits : offset + Scalar.width α ≤ m.length)
    (kept : ∀ call ∈ later, call.offset + call.size ≤ m.length →
      call.Apart offset (Scalar.width α)) :
    Region.read (after (before ++ .value offset order a :: later) m) offset (Scalar.width α) =
      Scalar.encode order a := by
  have reached := length_after before m
  have width := Scalar.length_encode order a
  have inside : offset + (Scalar.encode order a).length ≤ (after before m).length := by omega
  have stored : ((Call.value offset order a).access.outcome (after before m)).2 =
      Region.write (after before m) offset (Scalar.encode order a) := by
    show ((store offset order a).outcome (after before m)).2 = _
    rw [outcome_store, if_pos (by omega)]
  have size : (Region.write (after before m) offset (Scalar.encode order a)).length = m.length := by
    rw [Region.length_write inside, reached]
  rw [after_append, after, stored, read_after (by rwa [size])]
  have back := Region.read_write_self inside
  rwa [width] at back

/-- Two calls with no byte in common can be made in either order, whether they fail or not. -/
theorem after_swap {p q : Call} (apart : p.Apart q.offset q.size) (m : Memory) :
    after [p, q] m = after [q, p] m := by
  simp only [after]
  -- Whether a call succeeds does not depend on the other, as neither changes the length.
  rw [Call.outcome_access q, Call.outcome_access p (q.access.outcome m).2, length_step,
    length_step]
  by_cases hp : p.offset + p.size ≤ m.length
  · by_cases hq : q.offset + q.size ≤ m.length
    · simp only [Call.outcome_access, if_pos hp, if_pos hq]
      exact Call.applied_applied apart hp hq
    · simp only [Call.outcome_access, if_pos hp, if_neg hq]
  · by_cases hq : q.offset + q.size ≤ m.length
    · simp only [Call.outcome_access, if_neg hp, if_pos hq]
    · simp only [Call.outcome_access, if_neg hp, if_neg hq]

/-- The bounds of a region in machine words: a sum of words that wraps is less than its
first summand. -/
theorem inside_words (offset size capacity : UInt64) :
    (offset ≤ offset + size ∧ offset + size ≤ capacity) ↔
      offset.toNat + size.toNat ≤ capacity.toNat := by
  have := offset.toNat_lt
  have := size.toNat_lt
  have := capacity.toNat_lt
  simp only [UInt64.le_iff_toNat_le, UInt64.toNat_add]
  omega

/-- A memory holds what was last written to each of its places, through any history of
writes: calls succeed by their bounds alone, taken as naturals or as words with a look-out
for wrapping; they change nothing when they fail and nothing outside their region when they
succeed; what was put last is read back; and calls with no byte in common commute. -/
theorem holds_history (m : Memory) :
    (∀ (before : List Call) (call : Call),
      ((call.access.outcome (after before m)).1 = .ok () ↔
        call.offset + call.size ≤ m.length) ∧
      (∀ offset size capacity : UInt64, call.offset = offset.toNat → call.size = size.toNat →
        m.length = capacity.toNat →
        ((call.access.outcome (after before m)).1 = .ok () ↔
          offset ≤ offset + size ∧ offset + size ≤ capacity)) ∧
      (∀ e, (call.access.outcome (after before m)).1 = .error e →
        e = .bufferOverflow call.offset call.size m.length ∧
          (call.access.outcome (after before m)).2 = after before m) ∧
      (call.access.outcome (after before m)).2.length = m.length ∧
      ∀ i, ¬ call.Touches i →
        (call.access.outcome (after before m)).2[i]? = (after before m)[i]?) ∧
    (∀ (α : Type) [Scalar α] (before later : List Call) (offset : Nat) (order : ByteOrder) (a : α),
      offset + Scalar.width α ≤ m.length →
      (∀ call ∈ later, call.offset + call.size ≤ m.length →
        call.Apart offset (Scalar.width α)) →
      let n := after (before ++ .value offset order a :: later) m
      (load offset order : Access Memory α).outcome n = (.ok a, n) ∧
        ∀ other, other ≠ order →
          (load offset other : Access Memory α).outcome n = (.ok (Scalar.swapped a), n)) ∧
    ∀ (before : List Call) (p q : Call), p.Apart q.offset q.size →
      after (before ++ [p, q]) m = after (before ++ [q, p]) m := by
  refine ⟨?_, ?_, ?_⟩
  · intro before call
    have reached := length_after before m
    have bounds := call.succeeds_iff (after before m)
    rw [reached] at bounds
    refine ⟨bounds, ?_, ?_, ?_, ?_⟩
    · intro offset size capacity ho hs hc
      rw [bounds, inside_words, ho, hs, hc]
    · intro e failed
      rw [← reached]
      exact Call.outcome_of_error failed
    · rw [length_step, reached]
    · intro i outside
      exact Call.getElem?_outcome outside
  · intro α _ before later offset order a fits kept n
    have size : n.length = m.length := length_after _ m
    have found : Region.read n offset (Scalar.width α) = Scalar.encode order a :=
      read_value order a fits kept
    have loaded (other : ByteOrder) : (load offset other : Access Memory α).outcome n =
        (.ok (Scalar.decode other (Scalar.encode order a)), n) := by
      rw [outcome_load, size, if_pos fits, found]
    refine ⟨?_, ?_⟩
    · rw [loaded, Scalar.decode_encode]
    · intro other differs
      rw [loaded, Scalar.decode_other differs]
  · intro before p q apart
    rw [after_append, after_append]
    exact after_swap apart (after before m)

/-- Eight bytes: a value, an array behind it, bytes over it that do not fit, and a word at
the last offset that a machine word can name. -/
theorem holds_history_eightBytes :
    let m : Memory := List.replicate 8 0
    let behind : Call := .array 5 .littleEndian [(7 : UInt16)]
    let across : Call := .bytes 3 [1, 2, 3, 4, 5, 6]
    let far : Call := .value 0xffffffffffffffff .littleEndian (1 : UInt16)
    let bit : Call := .choice UInt8 0 .littleEndian 3 (by decide) true
    let n := after ([bit] ++ .value 1 .bigEndian (0x01020304 : UInt32) :: [behind, across, far]) m
    ((load 1 .bigEndian : Access Memory UInt32).outcome n = (.ok 0x01020304, n) ∧
      (load 1 .littleEndian : Access Memory UInt32).outcome n = (.ok 0x04030201, n)) ∧
    ((far.access.outcome (after [across] m)).1 = .ok () ↔
      (0xffffffffffffffff : UInt64) ≤ 0xffffffffffffffff + 2 ∧
        (0xffffffffffffffff : UInt64) + 2 ≤ 8) ∧
    (across.access.outcome (after [bit] m)).2 = after [bit] m ∧
    (bit.access.outcome (after [] m)).2[4]? = m[4]? ∧
    after ([] ++ [bit, behind]) m = after ([] ++ [behind, bit]) m := by
  intro m behind across far bit n
  obtain ⟨steps, kept, commute⟩ := holds_history m
  have apart : ∀ call ∈ [behind, across, far], call.offset + call.size ≤ m.length →
      call.Apart 1 4 := by
    intro call listed fits
    simp only [List.mem_cons, List.not_mem_nil, or_false] at listed
    rcases listed with rfl | rfl | rfl
    · intro i touches
      obtain ⟨low, -⟩ : 5 ≤ i ∧ i < 5 + 2 := touches
      omega
    · exact absurd (show 3 + 6 ≤ 8 from fits) (by omega)
    · exact absurd (show 0xffffffffffffffff + 2 ≤ 8 from fits) (by omega)
  have fits : 1 + Scalar.width UInt32 ≤ m.length := by decide
  obtain ⟨same, turned⟩ := kept UInt32 [bit] [behind, across, far] 1 .bigEndian 0x01020304 fits apart
  refine ⟨⟨same, turned .littleEndian (by decide)⟩, ?_, ?_, ?_, ?_⟩
  · exact (steps [across] far).2.1 0xffffffffffffffff 2 8 rfl rfl rfl
  · obtain ⟨e, failed⟩ : ∃ e, (across.access.outcome (after [bit] m)).1 = .error e := ⟨_, rfl⟩
    exact ((steps [bit] across).2.2.1 e failed).2
  · apply (steps [] bit).2.2.2.2
    intro touches
    obtain ⟨-, high⟩ : 0 ≤ 4 ∧ 4 < 0 + 1 := touches
    omega
  · apply commute
    intro i touches inside
    obtain ⟨-, high⟩ : 0 ≤ i ∧ i < 0 + 1 := touches
    obtain ⟨low, -⟩ : 5 ≤ i ∧ i < 5 + 2 := inside
    omega

end Memory

end Flyweight.Wire
