import Flyweight.Proofs.Session.Operation

/- What holds in every session, however it came about.

   The position stays inside the memory, and every open cursor agrees with the message
   about the memory, the place of the message and the position (`Session.Invariant`). One
   lemma, `perform_spec`, says what a single operation can do to a session for which this
   holds: fail and leave everything as it was, or succeed and keep the invariant. That
   every reachable session has it follows by induction on how it came about. -/

namespace Flyweight

open Wire

/-- What a cursor keeps to while the message of the session is `m`. -/
structure OpenCursor.Sound (c : OpenCursor) (m : Message) : Prop where
  message : c.cursor.message = m
  index_le : c.cursor.index ≤ c.cursor.count
  entered : c.cursor.index = c.entered
  element_le : c.cursor.element ≤ m.memory.length

/-- The position is inside the memory, and the cursors keep to the message. -/
structure Session.Invariant (s : Session t) : Prop where
  room : s.message.HasRoom 0
  cursors : ∀ c ∈ s.cursors, c.Sound s.message

/-- The block of the element that was entered last ends at the position. -/
def Session.Entered (s : Session t) : Prop :=
  ∃ c rest, s.cursors = c :: rest ∧
    c.cursor.element + c.cursor.blockLength = s.message.offset + s.message.position

/-! ## Uses -/

/-- Where the block and the message of a flyweight are in it: the block is in the memory
of the message, and the flyweight keeps everything else. -/
structure Within (block : Lens σ Block) (message : Lens σ Message) : Prop where
  memory : ∀ s, (block.get s).memory = (message.get s).memory
  put : ∀ b s, block.put b s = message.put { message.get s with memory := b.memory } s
  put_get : ∀ s, message.put (message.get s) s = s

theorem Within.root : Within Message.root { get := fun m => m, put := fun m _ => m } where
  memory _ := rfl
  put _ _ := rfl
  put_get _ := rfl

theorem Within.cursor : Within Cursor.block Cursor.messagePart where
  memory _ := rfl
  put _ _ := rfl
  put_get _ := rfl

section Uses
variable {block : Lens σ Block} {message : Lens σ Message} (within : Within block message)
include within

/-- An access at the position, with a slice that is filled. -/
theorem Within.at_position {access : Access (Message × τ) β} {s : σ} {slice : τ}
    (h : AllOrNothing access (message.get s, slice) (fun _ r => (message.get s).Advances r.1)) :
    AllOrNothing (Access.focus (message.beside τ) access) (s, slice)
      (fun _ r => ∃ m, (message.get s).Advances m ∧ r.1 = message.put m s) := by
  have same : (message.beside τ).put ((message.beside τ).get (s, slice)) (s, slice) =
      (s, slice) := congrArg (fun s => (s, slice)) (within.put_get s)
  refine (AllOrNothing.focus (message.beside τ) (s, slice) same h).mono ?_
  intro answer r given
  obtain ⟨after, advances, rfl⟩ := given
  exact ⟨after.1, advances, rfl⟩

/-- A use of a flyweight changes nothing of it but its message, and moves the position at
most on. -/
theorem Part.Use.spec (use : Part.Use p τ β) (s : σ) (slice : τ)
    (placed : (message.get s).HasRoom 0) :
    AllOrNothing (use.access block message) (s, slice)
      (fun _ r => ∃ m, (message.get s).Advances m ∧ r.1 = message.put m s) := by
  cases use with
  | member offered use =>
    have same : (block.beside τ).put ((block.beside τ).get (s, slice)) (s, slice) = (s, slice) := by
      refine congrArg (fun s => (s, slice)) ?_
      show block.put (block.get s) s = s
      rw [within.put, within.memory]
      exact within.put_get s
    have used := AllOrNothing.focus (block.beside τ) (s, slice) same (use.spec (block.get s) slice)
    refine used.mono ?_
    intro answer r given
    obtain ⟨⟨b, _⟩, alike, rfl⟩ := given
    have size := alike.length
    rw [within.memory] at size
    exact ⟨_, Message.advances_memory placed size, within.put _ _⟩
  | length d offered =>
    refine within.at_position (((d.data.length_spec _).first _).mono ?_)
    intro answer r unchanged
    rw [unchanged]
    exact Message.advances_memory placed rfl
  | get d offered => exact within.at_position (d.data.get_spec placed _)
  | put d offered source => exact within.at_position ((d.data.put_spec source placed).first _)

end Uses

/-! ## Sharing -/

namespace Session

/-- What the caller leaves when it succeeds or fails with an operation. -/
def Follows (s : Session t) (op : Op p τ β) (slice : τ)
    (result : Except AccessError β × Session t × τ) : Prop :=
  (∃ e, result = (.error e, s, slice)) ∨
    ∃ answer s' slice', result = (.ok answer, s', slice') ∧ s'.Invariant ∧
      (op.placesPosition = false → s.message.position ≤ s'.message.position) ∧
      (op.isNext = true → s'.Entered)

/-- The root block of the message is inside the memory. -/
def BlockFits (s : Session t) : Prop :=
  s.message.offset + t.blockLength ≤ s.message.memory.length

/-- What `Follows` says, and where the message is after a success: it stayed, or it was bound
with its root block inside the memory. -/
def Settles (s : Session t) (op : Op p τ β) (slice : τ)
    (result : Except AccessError β × Session t × τ) : Prop :=
  (∃ e, result = (.error e, s, slice)) ∨
    ∃ answer s' slice', result = (.ok answer, s', slice') ∧ s'.Invariant ∧
      (s.message.Stays s'.message ∨ s'.BlockFits) ∧
      (op.placesPosition = false → s.message.position ≤ s'.message.position) ∧
      (op.isNext = true → s'.Entered)

theorem Settles.follows {s : Session t} {op : Op p τ β} {slice : τ}
    {result : Except AccessError β × Session t × τ} (h : s.Settles op slice result) :
    s.Follows op slice result := by
  rcases h with refused | ⟨answer, s', slice', succeeded, holds, -, moved⟩
  · exact .inl refused
  · exact .inr ⟨answer, s', slice', succeeded, holds, moved⟩

/-- Cursors that agree with the message have nothing new to see in it. -/
theorem sharing_self {s : Session t} (h : s.Invariant) :
    s.sharing s.message.memory s.message.position = s := by
  obtain ⟨m, cursors⟩ := s
  refine congrArg (Session.mk m) ?_
  refine (List.map_congr_left ?_).trans (List.map_id cursors)
  intro c mem
  have same := (h.cursors c mem).message
  simp only at same
  subst same
  rfl

theorem through_self {m : Message} {c : OpenCursor} {rest : List OpenCursor}
    (h : Invariant (t := t) ⟨m, c :: rest⟩) : through (t := t) m c rest = ⟨m, c :: rest⟩ := by
  have same := (h.cursors c List.mem_cons_self).message
  rw [through, same]
  exact sharing_self h

/-- When the message stays where it is, the cursors that see its memory and its position
agree with it again. -/
theorem sharing_spec {s : Session t} (h : s.Invariant) {m : Message} (stays : s.message.Stays m) :
    (s.sharing m.memory m.position).message = m ∧ (s.sharing m.memory m.position).Invariant := by
  have same : (⟨m.memory, s.message.offset, m.position⟩ : Message) = m := by
    rw [← stays.offset]
  refine ⟨same, ?_, ?_⟩
  · rw [sharing, same]
    exact stays.room
  · intro c mem
    obtain ⟨d, inside, rfl⟩ := List.mem_map.mp mem
    have sound := h.cursors d inside
    refine ⟨?_, sound.index_le, sound.entered, ?_⟩
    · rw [sharing, sound.message]
    · rw [sharing, same, stays.length]
      exact sound.element_le

/-- After an access through the innermost cursor, all agree with that cursor. -/
theorem through_spec {m : Message} {c c' : OpenCursor} {rest : List OpenCursor}
    (h : Invariant (t := t) ⟨m, c :: rest⟩) (stays : m.Stays c'.cursor.message)
    (sound : c'.Sound c'.cursor.message) :
    (through (t := t) m c' rest).message = c'.cursor.message ∧
      (through (t := t) m c' rest).Invariant ∧
        ∃ others, (through (t := t) m c' rest).cursors = c' :: others := by
  have outer : Invariant (t := t) ⟨m, rest⟩ :=
    ⟨h.room, fun d mem => h.cursors d (List.mem_cons_of_mem c mem)⟩
  obtain ⟨same, kept⟩ := sharing_spec outer stays
  refine ⟨same, ⟨?_, ?_⟩, _, rfl⟩
  · exact kept.room
  · -- The cursor itself is what it was set to; the ones behind it follow its message.
    intro d mem
    have agreed : (through (t := t) m c' rest).message = c'.cursor.message := same
    rcases List.mem_cons.mp mem with rfl | inside
    · rw [agreed]
      exact sound
    · exact kept.cursors d inside

/-- A cursor that has just been opened is sound. -/
theorem withCursor_invariant {s : Session t} (h : s.Invariant) (g : Group)
    (blockLength count : Nat) :
    (s.withCursor g (GroupLayout.cursorAt s.message blockLength count)).Invariant := by
  refine ⟨h.room, ?_⟩
  intro c mem
  rcases List.mem_cons.mp mem with rfl | inside
  · exact ⟨rfl, Nat.zero_le _, rfl, h.room⟩
  · exact h.cursors c inside

/-! ## Single operations -/

theorem onMessage_spec {m : Message} (placed : m.HasRoom 0) (op : Op (.message t) τ β) (slice : τ) :
    Settles ⟨m, []⟩ op slice (onMessage m op slice) := by
  have alone (m' : Message) (room : m'.HasRoom 0) : Invariant (t := t) ⟨m', []⟩ :=
    ⟨room, fun c mem => nomatch mem⟩
  cases op with
  | use u =>
    rcases u.spec Within.root m slice placed with
      ⟨e, refused⟩ | ⟨answer, r, succeeded, after, advances, same⟩
    · exact .inl ⟨e, by simp only [onMessage, refused]⟩
    · refine .inr ⟨answer, ⟨after, []⟩, r.2, ?_, alone after advances.room,
        .inl advances.toStays, fun _ => advances.position, fun next => nomatch next⟩
      simp only [onMessage, succeeded, same]
  | setPosition position =>
    rcases Message.setPosition_spec position placed with ⟨e, refused⟩ | ⟨_, after, succeeded, stays⟩
    · exact .inl ⟨e, by simp only [onMessage, refused]⟩
    · refine .inr ⟨(), ⟨after, []⟩, slice, ?_, alone after stays.room, .inl stays,
        fun placing => (nomatch placing), fun next => nomatch next⟩
      simp only [onMessage, succeeded]
  | openAs g offered how =>
    rcases GroupLayout.openAs_spec g.layout_standard how placed with
      ⟨e, refused⟩ | ⟨cursor, after, succeeded, advances, blockLength, count, rfl⟩
    · exact .inl ⟨e, by simp only [onMessage, refused]⟩
    · refine .inr ⟨(), _, slice, ?_,
        withCursor_invariant (alone after advances.room) g blockLength count,
        .inl advances.toStays, fun _ => advances.position, fun next => nomatch next⟩
      simp only [onMessage, succeeded]
  | reset memory offset =>
    -- No block is empty: past the end of a memory an empty block would be bound.
    have some : 0 < t.blockLength := by cases t <;> decide
    rcases Message.reset_spec some memory offset m with
      ⟨e, refused⟩ | ⟨_, after, succeeded, room, behind⟩
    · exact .inl ⟨e, by simp only [onMessage, refused]⟩
    · have fits : BlockFits (t := t) ⟨after, []⟩ := by
        rw [BlockFits, ← behind]
        exact room
      refine .inr ⟨(), ⟨after, []⟩, slice, ?_, alone after room, .inr fits,
        fun placing => (nomatch placing), fun next => nomatch next⟩
      simp only [onMessage, succeeded]

theorem onCursor_spec {m : Message} {c : OpenCursor} {rest : List OpenCursor}
    (h : Invariant (t := t) ⟨m, c :: rest⟩) (op : Op (.cursor c.group) τ β) (slice : τ) :
    Settles ⟨m, c :: rest⟩ op slice (onCursor (t := t) m c rest op slice) := by
  have here := h.cursors c List.mem_cons_self
  have same : c.cursor.message = m := here.message
  have placed : c.cursor.message.HasRoom 0 := by
    rw [same]
    exact h.room
  have back := through_self h
  -- An access that keeps to the message leaves a cursor that is as sound as before.
  have kept (m' : Message) (stays : c.cursor.message.Stays m') :
      OpenCursor.Sound { c with cursor := Cursor.messagePart.put m' c.cursor } m' :=
    ⟨rfl, here.index_le, here.entered, by rw [stays.length, same]; exact here.element_le⟩
  cases op with
  | use u =>
    rcases u.spec Within.cursor c.cursor slice placed with
      ⟨e, refused⟩ | ⟨answer, ⟨after, filled⟩, succeeded, m', advances, rfl⟩
    · exact .inl ⟨e, by simp only [onCursor, refused, back]⟩
    · obtain ⟨agreed, holds, _⟩ := through_spec h (same ▸ advances.toStays) (kept m' advances.toStays)
      refine .inr ⟨answer, _, filled, by simp only [onCursor, succeeded], holds, .inl ?_, ?_,
        fun next => nomatch next⟩
      · rw [agreed]
        exact same ▸ advances.toStays
      · intro _
        rw [agreed]
        exact same ▸ advances.position
  | setPosition position =>
    rcases (Message.setPosition_spec position placed).focus Cursor.messagePart c.cursor rfl with
      ⟨e, refused⟩ | ⟨answer, after, succeeded, m', stays, rfl⟩
    · exact .inl ⟨e, by simp only [onCursor, refused, back]⟩
    · obtain ⟨agreed, holds, _⟩ := through_spec h (same ▸ stays) (kept m' stays)
      refine .inr ⟨answer, _, slice, by simp only [onCursor, succeeded], holds, .inl ?_,
        fun placing => (nomatch placing), fun next => nomatch next⟩
      rw [agreed]
      exact same ▸ stays
  | openAs g offered how =>
    rcases (GroupLayout.openAs_spec g.layout_standard how placed).focus Cursor.messagePart c.cursor
      rfl with ⟨e, refused⟩ | ⟨answer, after, succeeded, m', ⟨advances, blockLength, count, rfl⟩, rfl⟩
    · exact .inl ⟨e, by simp only [onCursor, refused, back]⟩
    · obtain ⟨agreed, holds, _⟩ := through_spec h (same ▸ advances.toStays) (kept m' advances.toStays)
      have opened := withCursor_invariant holds g blockLength count
      rw [show (through m _ rest).message = m' from agreed] at opened
      refine .inr ⟨(), _, slice, by simp only [onCursor, succeeded], opened, .inl ?_, ?_,
        fun next => nomatch next⟩
      · show m.Stays (through m _ rest).message
        rw [agreed]
        exact same ▸ advances.toStays
      · intro _
        show m.position ≤ (through m _ rest).message.position
        rw [agreed]
        exact same ▸ advances.position
  | next =>
    rcases Cursor.next_spec placed with
      ⟨e, refused⟩ | ⟨answer, after, succeeded, advances, ends, _, index, index_le⟩
    · exact .inl ⟨e, by simp only [onCursor, refused, back]⟩
    · -- The element that was entered ends at the new position, so it starts inside.
      have sound : OpenCursor.Sound
          { c with cursor := after, entered := c.entered + 1 } after.message := by
        refine ⟨rfl, index_le, index.trans (congrArg Nat.succ here.entered), ?_⟩
        have room := advances.room
        unfold Message.HasRoom at room
        simp only
        omega
      obtain ⟨agreed, holds, others, innermost⟩ := through_spec h (same ▸ advances.toStays) sound
      refine .inr ⟨answer, _, slice, by simp only [onCursor, succeeded], holds, .inl ?_, ?_, ?_⟩
      · rw [agreed]
        exact same ▸ advances.toStays
      · intro _
        rw [agreed]
        exact same ▸ advances.position
      · intro _
        refine ⟨_, others, innermost, ?_⟩
        rw [agreed]
        exact ends
  | close =>
    have outer : Invariant (t := t) ⟨m, rest⟩ :=
      ⟨h.room, fun d mem => h.cursors d (List.mem_cons_of_mem c mem)⟩
    exact .inr ⟨(), ⟨m, rest⟩, slice, rfl, outer, .inl ⟨rfl, rfl, h.room⟩,
      fun _ => Nat.le_refl _, fun next => nomatch next⟩

theorem perform_settles {s : Session t} (h : s.Invariant) (op : Op s.part τ β) (slice : τ) :
    Settles s op slice (s.perform op slice) := by
  -- The type of the operation depends on whether a cursor is open.
  obtain ⟨m, cursors⟩ := s
  cases cursors with
  | nil => exact onMessage_spec h.room op slice
  | cons c rest => exact onCursor_spec h op slice

/-- An operation fails and leaves everything as it was, or it succeeds and keeps the
invariant. -/
theorem perform_spec {s : Session t} (h : s.Invariant) (op : Op s.part τ β) (slice : τ) :
    Follows s op slice (s.perform op slice) :=
  (perform_settles h op slice).follows

/-! ## Reachable sessions -/

theorem invariant_unbound : Invariant (t := t) {} :=
  ⟨Nat.le_refl _, fun _ mem => nomatch mem⟩

theorem invariant_of_reachable {s : Session t} (h : s.Reachable) : s.Invariant := by
  induction h with
  | unbound => exact invariant_unbound
  | @performed τ β s s' _ op slice result ih =>
    rcases perform_spec ih op slice with ⟨e, failed⟩ | ⟨answer, after, filled, succeeded, holds, _⟩
    · rw [failed] at result
      exact result ▸ ih
    · rw [succeeded] at result
      exact result ▸ holds
  | @rewritten s s' _ memory size result ih =>
    -- Other bytes in a memory of the same length: nothing that is claimed depends on bytes.
    have stays : s.message.Stays { s.message with memory } :=
      (Message.advances_memory ih.room size).toStays
    exact result ▸ (sharing_spec ih stays).2

/-- A car in whose only performance figure an acceleration has been entered. -/
def nested : Session .car :=
  let bytes := List.replicate 57 0 ++ [1, 0, 1, 95, 6, 0, 1] ++ List.replicate 6 0
  let message : Message := ⟨bytes, 0, 70⟩
  ⟨message, [⟨.acceleration, ⟨message, 64, 6, 1, 1⟩, 1⟩,
    ⟨.performanceFigures, ⟨message, 60, 1, 1, 1⟩, 1⟩]⟩

theorem reachable_nested : nested.Reachable := by
  let bytes : Memory := List.replicate 57 0 ++ [1, 0, 1, 95, 6, 0, 1] ++ List.replicate 6 0
  let place (position : Nat) : Message := ⟨bytes, 0, position⟩
  have bound : Reachable (t := .car) ⟨place 57, []⟩ :=
    .performed .unbound (.reset bytes 0) () rfl
  have outer : Reachable (t := .car) ⟨place 60, [⟨.performanceFigures, ⟨place 60, 60, 1, 1, 0⟩, 0⟩]⟩ :=
    .performed bound (.openAs .performanceFigures (by decide) .decode) () rfl
  have entered : Reachable (t := .car)
      ⟨place 61, [⟨.performanceFigures, ⟨place 61, 60, 1, 1, 1⟩, 1⟩]⟩ :=
    .performed outer .next () rfl
  have inner : Reachable (t := .car) ⟨place 64, [⟨.acceleration, ⟨place 64, 64, 6, 1, 0⟩, 0⟩,
      ⟨.performanceFigures, ⟨place 64, 60, 1, 1, 1⟩, 1⟩]⟩ :=
    .performed entered (.openAs .acceleration (by decide) .decode) () rfl
  exact .performed inner .next () rfl

/-- In every reachable session the position is inside the memory; every open cursor has
the message's place, memory and position, has entered as many elements as its index says
and no more than there are, and stands inside the memory. No operation but those that are
told a position moves it back, and a step to the next element leaves that element's block
before the position. -/
theorem reachable_spec {s : Session t} (h : s.Reachable) :
    s.message.offset + s.message.position ≤ s.message.memory.length ∧
      (∀ c ∈ s.cursors,
        c.cursor.message.offset = s.message.offset ∧
          c.cursor.message.position = s.message.position ∧
          c.cursor.message.memory = s.message.memory ∧
          c.cursor.index ≤ c.cursor.count ∧ c.cursor.index = c.entered ∧
          c.cursor.element ≤ s.message.memory.length) ∧
      ∀ {τ β : Type} (op : Op s.part τ β) (slice : τ),
        (op.placesPosition = false →
          s.message.position ≤ (s.perform op slice).2.1.message.position) ∧
        (∀ answer, op.isNext = true → (s.perform op slice).1 = .ok answer →
          ∃ c rest, (s.perform op slice).2.1.cursors = c :: rest ∧
            c.cursor.element + c.cursor.blockLength =
              c.cursor.message.offset + c.cursor.message.position ∧
            c.cursor.element + c.cursor.blockLength ≤ c.cursor.message.memory.length) := by
  have holds := invariant_of_reachable h
  refine ⟨holds.room, ?_, ?_⟩
  · intro c mem
    have sound := holds.cursors c mem
    refine ⟨?_, ?_, ?_, sound.index_le, sound.entered, sound.element_le⟩
    all_goals rw [sound.message]
  · intro τ β op slice
    rcases perform_spec holds op slice with
      ⟨e, failed⟩ | ⟨answer, s', filled, succeeded, after, moved, entered⟩
    · rw [failed]
      exact ⟨fun _ => Nat.le_refl _, fun answer _ ok => nomatch ok⟩
    · rw [succeeded]
      refine ⟨moved, ?_⟩
      intro _ next _
      obtain ⟨c, rest, innermost, ends⟩ := entered next
      have sound := after.cursors c (innermost ▸ List.mem_cons_self)
      have room : s'.message.offset + s'.message.position ≤ s'.message.memory.length := after.room
      refine ⟨c, rest, innermost, ?_, ?_⟩
      · rw [sound.message]
        exact ends
      · rw [sound.message]
        exact Nat.le_trans (Nat.le_of_eq ends) room

theorem reachable_spec_nested :
    nested.Reachable ∧
      (nested.perform .next ()).2.1.message.position ≥ nested.message.position := by
  have spec := reachable_spec reachable_nested
  exact ⟨reachable_nested, (spec.2.2 .next ()).1 rfl⟩

/-- An operation that fails leaves the memory, the message, the cursors and the slice of
the caller as they were. -/
theorem perform_error {s : Session t} (h : s.Reachable) {τ β : Type} (op : Op s.part τ β)
    (slice : τ) {e : AccessError} (failed : (s.perform op slice).1 = .error e) :
    (s.perform op slice).2 = (s, slice) := by
  rcases perform_spec (invariant_of_reachable h) op slice with
    ⟨e', refused⟩ | ⟨answer, s', filled, succeeded, _⟩
  · rw [refused]
  · rw [succeeded] at failed
    exact nomatch failed

theorem perform_error_nested :
    nested.Reachable ∧ (nested.perform .next ()).1 = .error (.indexOutOfRange 1 1) ∧
      (nested.perform .next ()).2 = (nested, ()) :=
  ⟨reachable_nested, rfl, perform_error reachable_nested .next () rfl⟩

end Session

end Flyweight
