import Flyweight.Proofs.Wire.History
import Flyweight.Proofs.Wire.Use

/- A transfer of many values, against one transfer for each of them.

   The values of an array stand one after the other, so no two of them share a byte and the
   calls that put them one by one can be made in any order (`after_perm`). What is proved:

     1. an array is put exactly where its whole region is inside the memory. The memory is
        then that after its values were put one by one, in whichever order, and each of these
        calls succeeds as well; the values are read back one by one and all at once;
     2. an array that does not fit is not put in part, whatever of it would have fitted;
     3. a destination is filled exactly where its region is inside the memory, which holds for
        an empty destination too. Every single value can then be read, and is what the
        destination gets; otherwise the destination stays as it was. -/

namespace Flyweight.Wire.Memory

/-! ## Calls in any order -/

/-- No byte is shared by the regions of two calls. -/
def Call.Separate (p q : Call) : Prop := p.Apart q.offset q.size

theorem Call.Separate.symm {p q : Call} (h : p.Separate q) : q.Separate p :=
  fun i touches inside => h i inside touches

/-- Calls that are pairwise separate leave the same memory in any order. -/
theorem after_perm {calls others : List Call} (perm : calls.Perm others)
    (separate : calls.Pairwise Call.Separate) (m : Memory) : after calls m = after others m := by
  induction perm generalizing m with
  | nil => rfl
  | cons call _ ih =>
    apply ih
    exact (List.pairwise_cons.mp separate).2
  | swap p q rest =>
    have first : q.Separate p := (List.pairwise_cons.mp separate).1 p List.mem_cons_self
    show after ([q, p] ++ rest) m = after ([p, q] ++ rest) m
    rw [after_append, after_append, after_swap first]
  | trans left _ ih ih' =>
    rw [ih separate]
    apply ih'
    exact left.pairwise separate Call.Separate.symm

/-! ## The calls of an array -/

/-- The calls that put the values of an array one by one. -/
def valueCalls [Scalar α] (offset : Nat) (order : ByteOrder) (source : List α) : List Call :=
  source.mapIdx fun i a => .value (offset + i * Scalar.width α) order a

section Values
variable [Scalar α] (order : ByteOrder)

theorem valueCalls_cons (offset : Nat) (a : α) (rest : List α) :
    valueCalls offset order (a :: rest) =
      .value offset order a :: valueCalls (offset + Scalar.width α) order rest := by
  have step (i : Nat) : offset + (i + 1) * Scalar.width α =
      offset + Scalar.width α + i * Scalar.width α := by
    rw [Nat.succ_mul]
    omega
  simp only [valueCalls, List.mapIdx_cons, Nat.zero_mul, Nat.add_zero, step]

/-- The calls stay inside the region of the array. -/
theorem bounds_of_mem {offset : Nat} {source : List α} {call : Call}
    (listed : call ∈ valueCalls offset order source) :
    offset ≤ call.offset ∧
      call.offset + call.size ≤ offset + source.length * Scalar.width α := by
  induction source generalizing offset with
  | nil => simp [valueCalls] at listed
  | cons a rest ih =>
    rw [valueCalls_cons] at listed
    rw [List.length_cons, Nat.succ_mul]
    rcases List.mem_cons.mp listed with rfl | later
    · simp only [Call.offset, Call.size]
      omega
    · have := ih later
      omega

theorem separate_valueCalls (offset : Nat) (source : List α) :
    (valueCalls offset order source).Pairwise Call.Separate := by
  induction source generalizing offset with
  | nil => simp [valueCalls]
  | cons a rest ih =>
    rw [valueCalls_cons]
    apply List.Pairwise.cons _ (ih _)
    intro call listed i touches inside
    have := bounds_of_mem order listed
    simp only [Call.Touches, Call.offset, Call.size] at touches
    omega

/-- Storing the values one after the other is making their calls in that order. -/
theorem storeEach_after {m : Memory} {offset : Nat} {source : List α}
    (fits : offset + source.length * Scalar.width α ≤ m.length) :
    (storeEach order offset source).outcome m =
      (.ok (), after (valueCalls offset order source) m) := by
  induction source generalizing offset m with
  | nil => rfl
  | cons a rest ih =>
    rw [List.length_cons, Nat.succ_mul] at fits
    have early : offset + Scalar.width α ≤ m.length := by omega
    have stored : (store offset order a).outcome m =
        (.ok (), ((Call.value offset order a).access.outcome m).2) := by
      show (store offset order a).outcome m = (.ok (), ((store offset order a).outcome m).2)
      rw [outcome_store, if_pos early]
    have late : offset + Scalar.width α + rest.length * Scalar.width α ≤
        ((Call.value offset order a).access.outcome m).2.length := by
      rw [length_step]
      omega
    rw [valueCalls_cons, storeEach, Access.outcome_bind, stored]
    exact ih late

/-- Either all values are put, by their calls in their order, or the memory stays. -/
theorem outcome_storeArray (offset : Nat) (source : List α) (m : Memory) :
    (storeArray offset order source).outcome m =
      if offset + source.length * Scalar.width α ≤ m.length then
        (.ok (), after (valueCalls offset order source) m)
      else (.error (.bufferOverflow offset (source.length * Scalar.width α) m.length), m) := by
  rw [storeArray, Access.outcome_bind, outcome_checkRange]
  by_cases fits : offset + source.length * Scalar.width α ≤ m.length
  · simp only [if_pos fits]
    exact storeEach_after order fits
  · simp only [if_neg fits]

/-- Each of the calls succeeds, whichever of the others were made before. -/
theorem succeeds_of_perm {m : Memory} {offset : Nat} {source : List α}
    (fits : offset + source.length * Scalar.width α ≤ m.length) {calls before rest : List Call}
    {call : Call} (perm : calls.Perm (valueCalls offset order source))
    (cut : calls = before ++ call :: rest) :
    (call.access.outcome (after before m)).1 = .ok () := by
  have listed : call ∈ valueCalls offset order source := by
    apply perm.mem_iff.mp
    simp [cut]
  have := bounds_of_mem order listed
  rw [Call.succeeds_iff, length_after]
  omega

/-! ## Reading values -/

/-- Every value of an array that is in the memory is loaded from its place. -/
theorem Holds.load {m : Memory} {offset i : Nat} {values : List α} {a : α}
    (holds : m.Holds offset (packed order values)) (found : values[i]? = some a) :
    (Memory.load (offset + i * Scalar.width α) order : Access Memory α).outcome m = (.ok a, m) := by
  induction values generalizing offset i with
  | nil => simp at found
  | cons value rest ih =>
    obtain ⟨⟨inside, same⟩, late⟩ := holds_append.mp (packed_cons order value rest ▸ holds)
    rw [Scalar.length_encode] at inside same late
    cases i with
    | zero =>
      obtain rfl : value = a := by simpa using found
      rw [Nat.zero_mul, Nat.add_zero, outcome_load, if_pos inside, same, Scalar.decode_encode]
    | succ i =>
      have behind : offset + (i + 1) * Scalar.width α =
          offset + Scalar.width α + i * Scalar.width α := by
        rw [Nat.succ_mul]
        omega
      rw [behind]
      apply ih late
      simpa using found

/-- The values of an array are in the memory after their calls. -/
theorem holds_after {m : Memory} {offset : Nat} {source : List α}
    (fits : offset + source.length * Scalar.width α ≤ m.length) :
    Holds (after (valueCalls offset order source) m) offset (packed order source) := by
  have twice := (storeEach_after order fits).symm.trans (storeEach_eq order fits)
  have written : after (valueCalls offset order source) m =
      Region.write m offset (packed order source) := congrArg Prod.snd twice
  rw [written]
  apply holds_write
  rwa [length_packed]

/-- Where there is room for values, they are there. -/
theorem holds_packed {m : Memory} {offset : Nat} (count : Nat)
    (fits : offset + count * Scalar.width α ≤ m.length) :
    ∃ values : List α, values.length = count ∧ m.Holds offset (packed order values) := by
  induction count generalizing offset with
  | zero => exact ⟨[], rfl, by simpa [packed] using fits, rfl⟩
  | succ count ih =>
    rw [Nat.succ_mul] at fits
    have early : offset + Scalar.width α ≤ m.length := by omega
    have late : offset + Scalar.width α + count * Scalar.width α ≤ m.length := by omega
    obtain ⟨a, first⟩ := holds_encode (α := α) order early
    obtain ⟨rest, size, others⟩ := ih late
    refine ⟨a :: rest, by simp [size], ?_⟩
    rw [packed_cons, holds_append, Scalar.length_encode]
    exact ⟨first, others⟩

theorem loadArray_eq {m : Memory} {offset : Nat} {values target : List α}
    (holds : m.Holds offset (packed order values)) (size : target.length = values.length) :
    (loadArray offset order).outcome (m, target) = (.ok (), m, values) := by
  have fits := holds.inside
  rw [length_packed, ← size] at fits
  simp only [loadArray, Access.outcome_bind, Access.outcome_get, Access.outcome_focus, Lens.first,
    outcome_checkRange, if_pos fits, Access.outcome_ofOutcome, fill_eq order size holds]

theorem loadArray_refuses {m : Memory} {offset : Nat} {target : List α}
    (outside : ¬ offset + target.length * Scalar.width α ≤ m.length) :
    (loadArray offset order).outcome (m, target) =
      (.error (.bufferOverflow offset (target.length * Scalar.width α) m.length), m, target) := by
  simp only [loadArray, Access.outcome_bind, Access.outcome_get, Access.outcome_focus, Lens.first,
    outcome_checkRange, if_neg outside]

end Values

/-! ## Transfers of arrays -/

/-- A transfer of an array does what transfers of its values do, or nothing. It is put exactly
where all of it fits, and then as by the calls for its values in any order, each of which
succeeds; its values are read back. A destination is filled exactly where each value can be
loaded and all of them fit, with the values that are loaded. Whatever fails changes neither the
memory nor the destination. -/
theorem transfers_valuewise [Scalar α] (order : ByteOrder) (offset : Nat) (m : Memory) :
    (∀ source : List α,
      let stored := (storeArray offset order source).outcome m
      (stored.1 = .ok () ↔ offset + source.length * Scalar.width α ≤ m.length) ∧
      (stored.1 = .ok () →
        (∀ calls : List Call, calls.Perm (valueCalls offset order source) →
          stored.2 = after calls m ∧
            ∀ before call rest, calls = before ++ call :: rest →
              (call.access.outcome (after before m)).1 = .ok ()) ∧
        (∀ i a, source[i]? = some a →
          (load (offset + i * Scalar.width α) order : Access Memory α).outcome stored.2 =
            (.ok a, stored.2)) ∧
        ∀ target : List α, target.length = source.length →
          (loadArray offset order).outcome (stored.2, target) = (.ok (), stored.2, source)) ∧
      ∀ e, stored.1 = .error e → stored.2 = m) ∧
    ∀ target : List α,
      let loaded := (loadArray offset order).outcome (m, target)
      (loaded.1 = .ok () ↔
        (∀ i, i < target.length → ∃ a,
          (load (offset + i * Scalar.width α) order : Access Memory α).outcome m = (.ok a, m)) ∧
        offset + target.length * Scalar.width α ≤ m.length) ∧
      (loaded.1 = .ok () →
        loaded.2.1 = m ∧ loaded.2.2.length = target.length ∧
          ∀ i a, loaded.2.2[i]? = some a →
            (load (offset + i * Scalar.width α) order : Access Memory α).outcome m = (.ok a, m)) ∧
      ∀ e, loaded.1 = .error e → loaded.2 = (m, target) := by
  refine ⟨?_, ?_⟩
  · intro source stored
    by_cases fits : offset + source.length * Scalar.width α ≤ m.length
    · have outcome : stored = (.ok (), after (valueCalls offset order source) m) :=
        (outcome_storeArray order offset source m).trans (if_pos fits)
      have holds := holds_after order fits
      rw [outcome]
      refine ⟨iff_of_true rfl fits, fun _ => ⟨?_, ?_, ?_⟩, fun e failed => nomatch failed⟩
      · intro calls perm
        refine ⟨?_, fun before call rest cut => succeeds_of_perm order fits perm cut⟩
        exact after_perm perm.symm (separate_valueCalls order offset source) m
      · intro i a found
        exact holds.load order found
      · intro target size
        exact loadArray_eq order holds size
    · have outcome : stored =
          (.error (.bufferOverflow offset (source.length * Scalar.width α) m.length), m) :=
        (outcome_storeArray order offset source m).trans (if_neg fits)
      have failed : stored.1 ≠ .ok () := by
        rw [outcome]
        intro succeeded
        cases succeeded
      refine ⟨iff_of_false failed fits, fun succeeded => absurd succeeded failed, fun e _ => ?_⟩
      rw [outcome]
  · intro target loaded
    by_cases fits : offset + target.length * Scalar.width α ≤ m.length
    · obtain ⟨values, size, holds⟩ := holds_packed (α := α) order target.length fits
      have outcome : loaded = (.ok (), m, values) := loadArray_eq order holds size.symm
      rw [outcome]
      refine ⟨iff_of_true rfl ⟨?_, fits⟩, fun _ => ⟨rfl, size, ?_⟩, fun e failed => nomatch failed⟩
      · intro i inside
        rw [← size] at inside
        exact ⟨values[i], holds.load order (List.getElem?_eq_getElem inside)⟩
      · intro i a found
        exact holds.load order found
    · have outcome : loaded =
          (.error (.bufferOverflow offset (target.length * Scalar.width α) m.length), m, target) :=
        loadArray_refuses order fits
      have failed : loaded.1 ≠ .ok () := by
        rw [outcome]
        intro succeeded
        cases succeeded
      refine ⟨iff_of_false failed ?_, fun succeeded => absurd succeeded failed, fun e _ => ?_⟩
      · intro both
        exact fits both.2
      · rw [outcome]

/-- Three words at the second of eight bytes, put last one first; and where only two of them
would have fitted. -/
theorem transfers_valuewise_words :
    let m : Memory := List.replicate 8 0
    let source : List UInt16 := [0x0102, 0x0304, 0x0506]
    let put (i : Nat) (a : UInt16) : Call := .value (1 + i * 2) .bigEndian a
    ((storeArray 1 .bigEndian source).outcome m).1 = .ok () ∧
    ((storeArray 1 .bigEndian source).outcome m).2 =
      after [put 2 0x0506, put 1 0x0304, put 0 0x0102] m ∧
    ((load 3 .bigEndian : Access Memory UInt16).outcome
      ((storeArray 1 .bigEndian source).outcome m).2).1 = .ok 0x0304 ∧
    ((storeArray 3 .bigEndian source).outcome m).2 = m ∧
    ((loadArray 3 .bigEndian).outcome (m, source)).2 = (m, source) ∧
    ((loadArray 9 .bigEndian).outcome (m, ([] : List UInt16))).2 = (m, []) := by
  intro m source put
  obtain ⟨puts, -⟩ := transfers_valuewise (α := UInt16) .bigEndian 1 m
  obtain ⟨puts', fills'⟩ := transfers_valuewise (α := UInt16) .bigEndian 3 m
  obtain ⟨-, fills''⟩ := transfers_valuewise (α := UInt16) .bigEndian 9 m
  have fits : ((storeArray 1 .bigEndian source).outcome m).1 = .ok () :=
    (puts source).1.mpr (by decide)
  obtain ⟨orders, singly, -⟩ := (puts source).2.1 fits
  refine ⟨fits, (orders _ ?_).1, ?_, ?_, ?_, ?_⟩
  · exact List.reverse_perm [put 0 0x0102, put 1 0x0304, put 2 0x0506]
  · rw [show (3 : Nat) = 1 + 1 * Scalar.width UInt16 from rfl, singly 1 0x0304 rfl]
  · exact (puts' source).2.2 (.bufferOverflow 3 6 8) rfl
  · exact (fills' source).2.2 (.bufferOverflow 3 6 8) rfl
  · exact (fills'' []).2.2 (.bufferOverflow 9 0 8) rfl

end Flyweight.Wire.Memory
