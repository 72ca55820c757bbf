import Mathlib.Data.List.Pairwise
import Flyweight.Proofs.Session.Invariant
import Flyweight.Proofs.Wire.Kept
import Flyweight.Proofs.Wire.Slot

/- The members of the root block of a car.

   A car that was bound once keeps its root block inside the memory, whatever is done with it
   until it is bound again (`Session.blockFits_of_leads`). In the table of the members of that
   block, no two members overlap but for the choices and the word of all of them
   (`pairwise_single`), and all end inside the block. From these two facts about numbers it
   follows for any use of any member that

   1. it does not run out of bytes, and no byte outside the block and neither the place nor
      the position of the message is changed;
   2. what any other member answers is what it answered before;
   3. the value that a slot was set to is got from it, the other slots of the same member
      answer what they answered before, and so do transfers in bulk, item by item;
   4. through flyweights that are kept for the blocks nested in the root block, the same
      happens to the memory that the car is bound to now, and nothing to any other. -/

namespace Flyweight

open Wire

/-! ## After a binding -/

namespace Session

/-- The sessions that come about from `s` by operations, failing ones among them, while others
may write in the memory. -/
inductive Leads (s : Session t) : Session t → Prop where
  | refl : Leads s s
  | performed {s' s'' : Session t} (led : Leads s s') (op : Op s'.part τ β) (slice : τ)
    (result : (s'.perform op slice).2.1 = s'') : Leads s s''
  | rewritten {s' s'' : Session t} (led : Leads s s') (memory : Memory)
    (size : memory.length = s'.message.memory.length)
    (result : s'.sharing memory s'.message.position = s'') : Leads s s''

/-- A message that stays keeps its root block. -/
theorem BlockFits.stays {s s' : Session t} (h : s.BlockFits) (stays : s.message.Stays s'.message) :
    s'.BlockFits := by
  rw [BlockFits, stays.offset, stays.length]
  exact h

/-- No operation leaves the root block outside the memory. -/
theorem blockFits_of_leads {s s' : Session t} (invariant : s.Invariant) (fits : s.BlockFits)
    (led : s.Leads s') : s'.Invariant ∧ s'.BlockFits := by
  induction led with
  | refl => exact ⟨invariant, fits⟩
  | @performed τ β s' s'' _ op slice result ih =>
    obtain ⟨holds, fits⟩ := ih
    rcases perform_settles holds op slice with
      ⟨e, failed⟩ | ⟨answer, after, filled, succeeded, holds', where_, -⟩
    · rw [failed] at result
      exact result ▸ ⟨holds, fits⟩
    · rw [succeeded] at result
      subst result
      refine ⟨holds', ?_⟩
      rcases where_ with stays | bound
      · exact fits.stays stays
      · exact bound
  | @rewritten s' s'' _ memory size result ih =>
    obtain ⟨holds, fits⟩ := ih
    have stays : s'.message.Stays { s'.message with memory } :=
      (Message.advances_memory holds.room size).toStays
    obtain ⟨same, holds'⟩ := sharing_spec holds stays
    subst result
    refine ⟨holds', fits.stays ?_⟩
    rw [same]
    exact stays

/-- A binding that succeeds has its root block inside the memory, whatever the flyweight was
bound to before. -/
theorem bound_of_reset {earlier : Message} {memory : Memory} {offset : Nat} {s : Session t}
    (reset : perform ⟨earlier, []⟩ (.reset memory offset) () = (.ok (), s, ())) :
    s.Invariant ∧ s.BlockFits := by
  have some : 0 < t.blockLength := by cases t <;> decide
  simp only [perform, onMessage, Message.outcome_reset] at reset
  split at reset
  · rename_i inside
    obtain ⟨rfl, -⟩ := Prod.mk.inj (Prod.mk.inj reset).2
    have fits : offset + t.blockLength ≤ memory.length := by omega
    refine ⟨⟨fits, ?_⟩, fits⟩
    intro c listed
    cases listed
  · cases (Prod.mk.inj reset).1

end Session

namespace Car

/-! ## The table of members -/

/-- The word of all choices. -/
def rawExtras : Member := .nested 38 (.scalar UInt8 OptionalExtras.raw)

/-- The members without the word of all choices. -/
def single : List Member := members.take 6 ++ members.drop 7

theorem mem_single {M : Member} (offered : M ∈ members) (other : M ≠ rawExtras) : M ∈ single := by
  have split : members = members.take 6 ++ rawExtras :: members.drop 7 := rfl
  rw [split, List.mem_append, List.mem_cons] at offered
  rw [single, List.mem_append]
  rcases offered with front | raw | back
  · exact .inl front
  · exact absurd raw other
  · exact .inr back

theorem pairwise_single : (single.map Member.extent).Pairwise Extent.Apart := by decide

/-- Two members other than the word of all choices are apart. -/
theorem apart_of_ne {M N : Member} (offered : M ∈ members) (offered' : N ∈ members)
    (differ : M ≠ N) (one : M ≠ rawExtras) (other : N ≠ rawExtras) : M.extent.Apart N.extent := by
  have symmetric : Std.Symm fun M N : Member => M.extent.Apart N.extent :=
    ⟨fun _ _ apart => apart.symm⟩
  have pairwise := List.pairwise_map.mp pairwise_single
  exact pairwise.forall (mem_single offered one) (mem_single offered' other) differ

theorem all_members :
    members.all (fun M => M.sound && decide (M.room ≤ blockLength)) = true := by decide

theorem sound_of_mem {M : Member} (offered : M ∈ members) :
    M.sound = true ∧ M.room ≤ blockLength := by
  have listed := List.all_eq_true.mp all_members M offered
  rw [Bool.and_eq_true, decide_eq_true_eq] at listed
  exact listed

/-! ## Uses of the root block -/

/-- What a use of a member of the root block does to a car without an open cursor. -/
def used (m : Message) {M : Member} (offered : M ∈ members) (use : M.Use τ β) (slice : τ) :
    Except AccessError β × Session .car × τ :=
  Session.perform ⟨m, []⟩ (.use (.member offered use)) slice

/-- The use answers in the message `m'` what it answers in `m`, and fills the slice of the
caller with the same. -/
def Unaffected (m m' : Message) {M : Member} (offered : M ∈ members) (use : M.Use τ β) : Prop :=
  ∀ slice, (used m' offered use slice).1 = (used m offered use slice).1 ∧
    (used m' offered use slice).2.2 = (used m offered use slice).2.2

section Used
variable {m : Message} {M N : Member} (offered : M ∈ members)

/-- A use answers what it answers at the root block, and changes at most the memory. -/
theorem used_eq {use : M.Use τ β} {slice filled : τ} {answer : Except AccessError β} {w : Memory}
    (h : use.access.outcome (Message.root.get m, slice) =
      (answer, { Message.root.get m with memory := w }, filled)) :
    used m offered use slice = (answer, ⟨{ m with memory := w }, []⟩, filled) := by
  have focused : (Access.focus (Message.root.beside τ) use.access).outcome (m, slice) =
      (answer, { m with memory := w }, filled) := by
    rw [Access.outcome_focus]
    show ((use.access.outcome (Message.root.get m, slice)).1,
      (Message.root.beside τ).put (use.access.outcome (Message.root.get m, slice)).2 (m, slice)) = _
    rw [h]
    rfl
  show (match (Access.focus (Message.root.beside τ) use.access).outcome (m, slice) with
    | (answer, m, filled) => (answer, (⟨m, []⟩ : Session .car), filled)) = _
  rw [focused]

/-- A use changes no bits but those of its extent. -/
theorem used_spec (use : M.Use τ β) (slice : τ) :
    ∃ answer w filled, used m offered use slice = (answer, ⟨{ m with memory := w }, []⟩, filled) ∧
      Memory.SameOn (fun i j => ¬ (use.extent.moved m.offset).Has i j) m.memory w := by
  obtain ⟨sound, -⟩ := sound_of_mem offered
  obtain ⟨w, after, same⟩ := (use.confined sound slice).frame (Message.root.get m)
  have stays : (use.access.outcome (Message.root.get m, slice)).2.1 =
      { Message.root.get m with memory := w } := after
  refine ⟨(use.access.outcome (Message.root.get m, slice)).1, w,
    (use.access.outcome (Message.root.get m, slice)).2.2, ?_, same⟩
  apply used_eq
  rw [← stays]

/-- What is written in one part of the block is not seen in a part that is apart from it. -/
theorem unaffected_of_apart {e f : Extent} (apart : e.Apart f) {use : M.Use τ β} {slice : τ}
    (confined : Block.Confined e (Block.reporting use.access slice)) {answer : Except AccessError β}
    {w : Memory} {filled : τ} (outcome : used m offered use slice =
      (answer, ⟨{ m with memory := w }, []⟩, filled)) (offered' : N ∈ members)
    {other : N.Use τ' β'}
    (confined' : ∀ slice', Block.Confined f (Block.reporting other.access slice')) :
    Unaffected m { m with memory := w } offered' other := by
  intro slice'
  have after : (Block.reporting use.access slice (Message.root.get m)).2 =
      { Message.root.get m with memory := w } := by
    obtain ⟨w', after, -⟩ := confined.frame (Message.root.get m)
    have memory : (Block.reporting use.access slice (Message.root.get m)).2.memory = w :=
      congrArg (fun r => r.2.1.message.memory) outcome
    rw [after] at memory ⊢
    rw [show w' = w from memory]
  have report := confined.independent (confined' slice') apart (Message.root.get m)
  rw [after] at report
  exact Prod.mk.inj report

include offered in
/-- No bit of the extent of a member is outside the root block. -/
theorem extent_inside (use : M.Use τ β) {i j : Nat} (held : (use.extent.moved m.offset).Has i j) :
    m.offset ≤ i ∧ i < m.offset + blockLength := by
  obtain ⟨sound, small⟩ := sound_of_mem offered
  obtain ⟨low, high, -⟩ := Extent.has_moved use.extent_within held
  have ends := Member.extent_le_room sound
  simp only [Extent.moved] at low high
  omega

end Used

/-! ## Independence -/

/-- The members of the root block of a car are in bounds and independent. -/
structure Independent (m : Message) : Prop where
  /-- No use runs out of bytes; it changes no byte outside the root block, and no answer about
  another member. -/
  uses {M : Member} (offered : M ∈ members) {τ β : Type} (use : M.Use τ β) (slice : τ) :
    ∃ answer w filled, used m offered use slice = (answer, ⟨{ m with memory := w }, []⟩, filled) ∧
      Roomy answer ∧ w.length = m.memory.length ∧
      (∀ i, i < m.offset ∨ m.offset + blockLength ≤ i → w[i]? = m.memory[i]?) ∧
      ∀ {N : Member} (offered' : N ∈ members), M ≠ N → M ≠ rawExtras → N ≠ rawExtras →
        ∀ {τ' β' : Type} (other : N.Use τ' β'), Unaffected m { m with memory := w } offered' other
  /-- What a slot is set to is got from it; the other slots of the member keep what they have. -/
  slots {M : Member} (offered : M ∈ members) {β : Type} (slot : M.Slot β) (value : β) :
    ∃ w, used m offered (slot.set value) () = (.ok (), ⟨{ m with memory := w }, []⟩, ()) ∧
      used { m with memory := w } offered slot.get () =
        (.ok value, ⟨{ m with memory := w }, []⟩, ()) ∧
      ∀ other : M.Slot β, other ≠ slot → Unaffected m { m with memory := w } offered other.get
  /-- Items that are put in bulk are got one by one; the items behind them stay. -/
  puts {M : Member} (offered : M ∈ members) {α : Type} (items : M.Items α)
    {start count : Nat} (starts : start < items.length) (few : count ≤ items.length)
    {source : List α} (inside : start + count ≤ source.length) :
    ∃ w, used m offered (items.putFrom source start count) () =
        (.ok (), ⟨{ m with memory := w }, []⟩, ()) ∧
      (∀ i value, ∀ within : i < count, source[start + i]? = some value →
        used { m with memory := w } offered
            (items.slot i (Nat.lt_of_lt_of_le within few)).get () =
          (.ok value, ⟨{ m with memory := w }, []⟩, ())) ∧
      ∀ i, ∀ behind : i < items.length, count ≤ i →
        Unaffected m { m with memory := w } offered (items.slot i behind).get
  /-- Items that are got in bulk are those that are got one by one. -/
  gets {M : Member} (offered : M ∈ members) {α : Type} (items : M.Items α)
    {start count : Nat} (starts : start < items.length) (few : count ≤ items.length)
    {slice : List α} (inside : start + count ≤ slice.length) :
    ∃ values : List α, values.length = count ∧
      used m offered (items.getInto start count) slice =
        (.ok (), ⟨m, []⟩, Region.write slice start values) ∧
      ∀ i value, ∀ within : i < items.length, values[i]? = some value →
        used m offered (items.slot i within).get () = (.ok value, ⟨m, []⟩, ())
  /-- Through flyweights that are kept for the nested blocks, bound to whatever they may be,
  the same happens to the message, and nothing to another memory. -/
  kept (pool : Pool) (kept : Kept) (bound : Handle.message.get (pool, kept []) = m) {M : Member}
    (offered : M ∈ members) {τ β : Type} (use : M.Use τ β) (slice : τ) :
    let answered := used m offered use slice
    let reached := use.reach.outcome ((pool, kept), slice)
    reached.1 = answered.1 ∧ reached.2.2 = answered.2.2 ∧
      Handle.message.get (reached.2.1.1, reached.2.1.2 []) = answered.2.1.message ∧
      ∀ other, other ≠ (kept []).memory → reached.2.1.1.memory other = pool.memory other

theorem room_of_fits {m : Message} (fits : m.offset + blockLength ≤ m.memory.length) {M : Member}
    (offered : M ∈ members) :
    (Message.root.get m).offset + M.room ≤ (Message.root.get m).memory.length := by
  obtain ⟨-, small⟩ := sound_of_mem offered
  show m.offset + M.room ≤ m.memory.length
  omega

/-- A car whose root block is inside the memory has its members in bounds and independent. -/
theorem independent_of_fits {m : Message} (fits : m.offset + blockLength ≤ m.memory.length) :
    Independent m where
  uses {M} offered τ β use slice := by
    obtain ⟨answer, w, filled, outcome, same⟩ := used_spec offered use slice
    refine ⟨answer, w, filled, outcome, ?_, same.length, ?_, ?_⟩
    · have first : (used m offered use slice).1 =
          (use.access.outcome (Message.root.get m, slice)).1 := rfl
      rw [outcome] at first
      rw [show answer = _ from first]
      exact use.roomy (room_of_fits fits offered) slice
    · intro i outside
      apply same.getElem?
      intro j held
      have := extent_inside offered use held
      omega
    · intro N offered' differ one another τ' β' other
      have apart := apart_of_ne offered offered' differ one another
      have confined := (use.confined (sound_of_mem offered).1 slice).mono use.extent_within
      apply unaffected_of_apart offered apart confined outcome offered'
      intro slice'
      exact (other.confined (sound_of_mem offered').1 slice').mono other.extent_within
  slots {M} offered β slot value := by
    obtain ⟨sound, -⟩ := sound_of_mem offered
    obtain ⟨w, written, read⟩ := slot.get_set sound value (room_of_fits fits offered)
    have outcome := used_eq offered written
    refine ⟨w, outcome, ?_, ?_⟩
    · exact used_eq (m := { m with memory := w }) offered read
    · intro other differ
      have apart := (Member.Slot.apart differ).symm
      have confined := (slot.set value).confined sound ()
      rw [slot.extent_set] at confined
      exact unaffected_of_apart offered apart confined outcome offered (other.get.confined sound)
  puts {M} offered α items start count starts few source inside := by
    obtain ⟨sound, -⟩ := sound_of_mem offered
    obtain ⟨w, written, read⟩ := items.get_putFrom starts few inside (room_of_fits fits offered)
    have outcome := used_eq offered written
    refine ⟨w, outcome, ?_, ?_⟩
    · intro i value within found
      exact used_eq (m := { m with memory := w }) offered (read i value within found)
    · intro i behind late
      have apart := (items.apart behind late).1 source start
      have confined := (items.putFrom source start count).confined sound ()
      exact unaffected_of_apart offered apart confined outcome offered
        ((items.slot i behind).get.confined sound)
  gets {M} offered α items start count starts few slice inside := by
    obtain ⟨values, size, filled, read⟩ :=
      items.get_getInto starts few inside (room_of_fits fits offered)
    refine ⟨values, size, used_eq offered filled, ?_⟩
    intro i value within found
    exact used_eq offered (read i value within found)
  kept pool kept bound {M} offered τ β use slice := by
    intro answered reached
    subst bound
    obtain ⟨answer, written, stays, filled⟩ := use.reach_follows pool kept slice
    obtain ⟨answer', w, slice', outcome, same⟩ :=
      used_spec (m := Handle.message.get (pool, kept [])) offered use slice
    have memory : (use.access.outcome (Handle.block.get (pool, kept []), slice)).2.1.memory = w :=
      congrArg (fun r => r.2.1.message.memory) outcome
    rw [memory] at written
    refine ⟨answer, filled, ?_, ?_⟩
    · show Handle.message.get (reached.2.1.1, reached.2.1.2 []) = answered.2.1.message
      rw [show answered = _ from outcome, show reached.2.1.1 = _ from written,
        show reached.2.1.2 [] = _ from stays]
      have put : (pool.put (kept []).memory w).memory (kept []).memory = w :=
        Pool.memory_put same.length
      simp only [Handle.message, put]
    · intro other differ
      rw [show reached.2.1.1 = _ from written]
      exact Pool.memory_put_other differ

/-- Once a car was bound, its root block is in bounds and the members of it are independent,
whatever the flyweight was bound to before and whatever was done since. -/
theorem independent_of_reset {earlier m : Message} {memory : Memory} {offset : Nat}
    {bound : Session .car}
    (reset : Session.perform ⟨earlier, []⟩ (.reset memory offset) () = (.ok (), bound, ()))
    (later : bound.Leads ⟨m, []⟩) : Independent m := by
  obtain ⟨invariant, inside⟩ := Session.bound_of_reset reset
  obtain ⟨-, fits⟩ := Session.blockFits_of_leads invariant inside later
  exact independent_of_fits fits

/-- A flyweight of a message at another place is bound to 60 bytes, and its position is moved. -/
theorem independent_of_reset_moved :
    let earlier : Message := { memory := [1, 2, 3], offset := 1, position := 2 }
    let m : Message := { memory := List.replicate 60 0, offset := 2, position := 7 }
    ∃ bound : Session .car,
      Session.perform ⟨earlier, []⟩ (.reset m.memory 2) () = (.ok (), bound, ()) ∧
      bound.Leads ⟨m, []⟩ ∧ Independent m := by
  intro earlier m
  have reset : Session.perform ⟨earlier, []⟩ (.reset m.memory 2) () =
      (.ok (), (⟨{ m with position := 57 }, []⟩ : Session .car), ()) := rfl
  have later : Session.Leads (⟨{ m with position := 57 }, []⟩ : Session .car) ⟨m, []⟩ :=
    .performed .refl (.setPosition 7) () rfl
  exact ⟨_, reset, later, independent_of_reset reset later⟩

end Car

end Flyweight
