import Flyweight.Proofs.Session.Invariant

/- Variable-length data, got into slices of any length.

   Whether the data is got, and where the position is afterwards, is settled by the length
   that the memory holds; the slice of the caller only says how much of the data is copied
   (`Got`). So two runs from one session with different slices fail alike or go on alike.
   This holds of the messages and of the cursors at once: both get the data by way of the
   message (`perform_at_message`). -/

namespace Flyweight

open Wire

namespace Session
variable {t : Template} {s : Session t}

/-- A use of the message alone does to the session what it does to the message. -/
theorem perform_at_message (holds : s.Invariant) {u : s.part.Use τ β}
    {access : Access (Message × τ) β} {slice filled : τ} {result : Except AccessError β}
    {m : Message}
    (uses : ∀ {σ : Type} (block : Lens σ Block) (message : Lens σ Message),
      u.access block message = Access.focus (message.beside τ) access)
    (ran : access.outcome (s.message, slice) = (result, m, filled))
    (place : m.offset = s.message.offset) :
    s.perform (.use u) slice = (result, s.sharing m.memory m.position, filled) := by
  have at_message {σ : Type} (block : Lens σ Block) (message : Lens σ Message) (whole : σ)
      (here : message.get whole = s.message) :
      (u.access block message).outcome (whole, slice) = (result, message.put m whole, filled) := by
    rw [uses, Access.outcome_focus]
    simp only [Lens.beside, Lens.prod, here, ran]
  obtain ⟨message, cursors⟩ := s
  obtain ⟨memory, offset, position⟩ := m
  subst place
  cases cursors with
  | nil =>
    have used := at_message Message.root { get := fun m => m, put := fun m _ => m } message rfl
    exact congrArg (fun r => (r.1, (⟨r.2.1, []⟩ : Session t), r.2.2)) used
  | cons c rest =>
    have same : c.cursor.message = message := (holds.cursors c List.mem_cons_self).message
    have used := at_message Cursor.block Cursor.messagePart c.cursor same
    subst same
    exact congrArg (fun r => (r.1, through _ { c with cursor := r.2.1 } rest, r.2.2)) used

/-- Data of `size` bytes behind a length of `width` bytes, got from `s` into `target`. -/
structure Got (s : Session t) (width size : Nat) (target : List UInt8)
    (run : Except AccessError Nat × Session t × List UInt8) : Prop where
  answer : run.1 = .ok (min target.length size)
  /-- The position is past the data, however much of it was copied, and nothing else of the
  session has changed, its memory included. -/
  passed : run.2.1 = s.sharing s.message.memory (s.message.position + width + size)
  /-- The slice starts with what it has room for of the data. -/
  copied : run.2.2.take (min target.length size) =
    (Region.read s.message.memory (s.message.offset + s.message.position + width) size).take
      (min target.length size)
  kept : run.2.2.drop (min target.length size) = target.drop (min target.length size)
  length_same : run.2.2.length = target.length

section Data
variable (holds : s.Invariant) {d : Data} (offered : d ∈ s.part.data)
include holds

theorem perform_length {result : Except AccessError Nat}
    (told : d.data.length.outcome s.message = (result, s.message)) :
    s.perform (.use (.length d offered)) () = (result, s, ()) := by
  have ran : (Access.focus (.first Message Unit) d.data.length).outcome (s.message, ()) =
      (result, s.message, ()) := by
    rw [Access.outcome_focus]
    simp only [Lens.first, told]
  rw [perform_at_message holds (fun _ _ => rfl) ran rfl, sharing_self holds]

theorem perform_get_got
    (room : s.message.HasRoom (Scalar.width d.α + d.data.wireLength s.message))
    (target : List UInt8) :
    s.Got (Scalar.width d.α) (d.data.wireLength s.message) target
      (s.perform (.use (.get d offered)) target) := by
  let size := d.data.wireLength s.message
  let start := s.message.offset + (s.message.position + Scalar.width d.α)
  let part := Region.read s.message.memory start (min target.length size)
  have inside : start + size ≤ s.message.memory.length := by
    unfold Message.HasRoom at room
    omega
  have width : part.length = min target.length size := Region.length_read (by omega)
  have front : part = (Region.read s.message.memory start size).take (min target.length size) := by
    rw [Region.read, List.take_take, Nat.min_eq_left (Nat.min_le_right _ _)]
    rfl
  -- A region at the start of the slice is its front.
  have filled : Region.write target 0 part = part ++ target.drop (min target.length size) := by
    rw [Region.write, width, List.take_zero, List.nil_append, Nat.zero_add]
  rw [perform_at_message holds (fun _ _ => rfl) (d.data.get_eq room target) rfl]
  constructor
  case answer => rfl
  case passed => simp only [Message.passed, Nat.add_assoc]
  case copied =>
    show (Region.write target 0 part).take (min target.length size) = _
    rw [filled, List.take_left' width, front, Nat.add_assoc]
  case kept =>
    show (Region.write target 0 part).drop (min target.length size) = _
    rw [filled, List.drop_left' width]
  case length_same => exact Region.length_write (by rw [width]; omega)

theorem perform_get_error
    (room : ¬ s.message.HasRoom (Scalar.width d.α + d.data.wireLength s.message)) :
    ∃ e, ∀ target, s.perform (.use (.get d offered)) target = (.error e, s, target) := by
  obtain ⟨e, refused⟩ := d.data.get_refuses_alike holds.room.offset_le room
  refine ⟨e, fun target => ?_⟩
  rw [perform_at_message holds (fun _ _ => rfl) (refused target) rfl, sharing_self holds]

end Data

/-- Data is got into slices of any length alike. Of any two runs from one session both fail with
one error and change nothing, or both get the data whose length the session tells. They get it
where its length can be read and the data ends inside the memory. -/
theorem get_independent_of_target {s : Session t} (reached : s.Reachable) (d : Data)
    (offered : d ∈ s.part.data) :
    let width := Scalar.width d.α
    let start := s.message.offset + s.message.position + width
    let stored := s.perform (.use (.length d offered)) ()
    let got (target : List UInt8) := s.perform (.use (.get d offered)) target
    (∀ target target' : List UInt8,
      (∃ e, got target = (.error e, s, target) ∧ got target' = (.error e, s, target')) ∨
      (∃ size, stored = (.ok size, s, ()) ∧
        s.Got width size target (got target) ∧ s.Got width size target' (got target'))) ∧
    (∀ target, (∃ answer, (got target).1 = .ok answer) ↔
      ∃ size, stored.1 = .ok size ∧ start + size ≤ s.message.memory.length) ∧
    ((∃ size, stored.1 = .ok size) ↔ start ≤ s.message.memory.length) := by
  intro width start stored got
  have holds := invariant_of_reachable reached
  let size := d.data.wireLength s.message
  have ends : s.message.HasRoom (width + size) ↔ start + size ≤ s.message.memory.length :=
    Message.hasRoom_iff
  have told (room : s.message.HasRoom width) : stored = (.ok size, s, ()) :=
    perform_length holds offered (d.data.length_eq room)
  refine ⟨fun target target' => ?_, fun target => ?_, ?_⟩
  · by_cases room : s.message.HasRoom (width + size)
    · exact .inr ⟨size, told (room.mono (by omega)), perform_get_got holds offered room target,
        perform_get_got holds offered room target'⟩
    · obtain ⟨e, refused⟩ := perform_get_error holds offered room
      exact .inl ⟨e, refused target, refused target'⟩
  · constructor
    · rintro ⟨answer, succeeded⟩
      by_cases room : s.message.HasRoom (width + size)
      · exact ⟨size, congrArg Prod.fst (told (room.mono (by omega))), ends.mp room⟩
      · obtain ⟨e, refused⟩ := perform_get_error holds offered room
        rw [show got target = _ from refused target] at succeeded
        nomatch succeeded
    · rintro ⟨size', known, inside⟩
      have room : s.message.HasRoom width := by
        unfold Message.HasRoom
        omega
      rw [told room] at known
      cases known
      exact ⟨_, (perform_get_got holds offered (ends.mpr inside) target).answer⟩
  · constructor
    · rintro ⟨size', known⟩
      by_cases room : s.message.HasRoom width
      · exact room
      · obtain ⟨e, refused⟩ := d.data.length_refuses room
        rw [show stored = _ from perform_length holds offered refused] at known
        nomatch known
    · intro room
      exact ⟨size, congrArg Prod.fst (told room)⟩

/-- A car in whose only fuel figure the description of three bytes is next. -/
def described : Session .car :=
  let bytes := List.replicate 57 0 ++ [6, 0, 1] ++ List.replicate 6 0 ++ [3, 65, 66, 67]
  let message : Message := ⟨bytes, 0, 66⟩
  ⟨message, [⟨.fuelFigures, ⟨message, 60, 6, 1, 1⟩, 1⟩]⟩

theorem reachable_described : described.Reachable := by
  let bytes : Memory := List.replicate 57 0 ++ [6, 0, 1] ++ List.replicate 6 0 ++ [3, 65, 66, 67]
  let place (position : Nat) : Message := ⟨bytes, 0, position⟩
  have bound : Reachable (t := .car) ⟨place 57, []⟩ :=
    .performed .unbound (.reset bytes 0) () rfl
  have opened : Reachable (t := .car) ⟨place 60, [⟨.fuelFigures, ⟨place 60, 60, 6, 1, 0⟩, 0⟩]⟩ :=
    .performed bound (.openAs .fuelFigures (by decide) .decode) () rfl
  exact .performed opened .next () rfl

theorem get_independent_of_target_described :
    let d : Data := ⟨UInt8, Car.FuelFigures.usageDescription⟩
    ∃ offered : d ∈ described.part.data, described.Reachable ∧
      described.Got 1 3 [9, 9] (described.perform (.use (.get d offered)) [9, 9]) ∧
      described.Got 1 3 [9, 9, 9, 9, 9] (described.perform (.use (.get d offered)) [9, 9, 9, 9, 9]) := by
  intro d
  have offered : d ∈ described.part.data := List.mem_singleton_self d
  obtain ⟨runs, -, -⟩ := get_independent_of_target reachable_described d offered
  have stored : described.perform (.use (.length d offered)) () = (.ok 3, described, ()) := rfl
  have answer : (described.perform (.use (.get d offered)) [9, 9]).1 = .ok 2 := rfl
  refine ⟨offered, reachable_described, ?_⟩
  rcases runs [9, 9] [9, 9, 9, 9, 9] with ⟨e, failed, -⟩ | ⟨size, told, short, long⟩
  · nomatch answer.symm.trans (congrArg Prod.fst failed)
  · rw [stored] at told
    cases told
    exact ⟨short, long⟩

end Session

end Flyweight
