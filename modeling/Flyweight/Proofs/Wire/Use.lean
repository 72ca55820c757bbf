import Flyweight.Proofs.Wire.Position

/- All that a caller can do with a member of a block, with data, or with a group.

   Each access either fails and leaves everything as it was, the slice of the caller
   included, or succeeds and then has kept the size of the memory (`AllOrNothing`). The
   accesses in several steps check before the first step whatever a later one could
   trip over; that the later steps then succeed is what is proved about them. -/

namespace Flyweight.Wire

/-- The access fails and leaves `s` as it is, or it succeeds with an answer and a state
that are as said. -/
def AllOrNothing (access : Access σ α) (s : σ) (done : α → σ → Prop) : Prop :=
  Refuses access s ∨ ∃ a s', access.outcome s = (.ok a, s') ∧ done a s'

namespace AllOrNothing

theorem mono {access : Access σ α} {s : σ} {done more : α → σ → Prop}
    (h : AllOrNothing access s done) (imp : ∀ a s', done a s' → more a s') :
    AllOrNothing access s more := by
  rcases h with refused | ⟨a, s', succeeded, holds⟩
  · exact .inl refused
  · exact .inr ⟨a, s', succeeded, imp a s' holds⟩

/-- An access to a part leaves the whole as it is when the part is put back unchanged. -/
theorem focus (part : Lens σ τ) {access : Access τ α} (s : σ) {done : α → τ → Prop}
    (same : part.put (part.get s) s = s) (h : AllOrNothing access (part.get s) done) :
    AllOrNothing (Access.focus part access) s
      (fun a s' => ∃ t, done a t ∧ s' = part.put t s) := by
  rcases h with ⟨e, refused⟩ | ⟨a, t, succeeded, holds⟩
  · refine .inl ⟨e, ?_⟩
    rw [Access.outcome_focus, refused, same]
  · refine .inr ⟨a, part.put t s, ?_, t, holds, rfl⟩
    rw [Access.outcome_focus, succeeded]

theorem first {access : Access σ α} {s : σ} {done : α → σ → Prop}
    (h : AllOrNothing access s done) (t : τ) :
    AllOrNothing (Access.focus (.first σ τ) access) (s, t) (fun a s' => done a s'.1) := by
  refine (focus (.first σ τ) (s, t) rfl h).mono ?_
  intro a s' given
  obtain ⟨after, holds, rfl⟩ := given
  exact holds

/-- A sequence whose first access changes nothing. -/
theorem bind {first : Access σ α} {next : α → Access σ β} {s : σ} {done : β → σ → Prop}
    (hf : AllOrNothing first s (fun _ s' => s' = s)) (hn : ∀ a, AllOrNothing (next a) s done) :
    AllOrNothing (first >>= next) s done := by
  rcases hf with ⟨e, refused⟩ | ⟨a, s', succeeded, unchanged⟩
  · refine .inl ⟨e, ?_⟩
    rw [Access.outcome_bind, refused]
  · -- A second access that fails leaves what the first one has left alone.
    subst unchanged
    rcases hn a with ⟨e, refused⟩ | ⟨b, after, finished, holds⟩
    · refine .inl ⟨e, ?_⟩
      rw [Access.outcome_bind, succeeded]
      exact refused
    · refine .inr ⟨b, after, ?_, holds⟩
      rw [Access.outcome_bind, succeeded]
      exact finished

theorem done (a : α) (s : σ) : AllOrNothing (pure a : Access σ α) s (fun _ s' => s' = s) :=
  .inr ⟨a, s, rfl, rfl⟩

theorem answer (result : Except AccessError α) (s : σ) :
    AllOrNothing (liftM result : Access σ α) s (fun _ s' => s' = s) := by
  cases result with
  | error e => exact .inl ⟨e, rfl⟩
  | ok a => exact .inr ⟨a, s, rfl, rfl⟩

end AllOrNothing

/-! ## Transfers -/

namespace Memory

theorem load_spec [Scalar α] (offset : Nat) (order : ByteOrder) (m : Memory) :
    AllOrNothing (load offset order : Access Memory α) m (fun _ m' => m' = m) := by
  rw [AllOrNothing, Refuses, outcome_load]
  split
  · exact .inr ⟨_, m, rfl, rfl⟩
  · exact .inl ⟨_, rfl⟩

theorem store_spec [Scalar α] (offset : Nat) (order : ByteOrder) (a : α) (m : Memory) :
    AllOrNothing (store offset order a) m (fun _ m' => m'.length = m.length) := by
  have width := Scalar.length_encode order a
  rw [AllOrNothing, Refuses, outcome_store]
  split
  · exact .inr ⟨(), _, rfl, Region.length_write (by rwa [width])⟩
  · exact .inl ⟨_, rfl⟩

/-- Where all values fit, each of them is loaded. -/
theorem fill_ok [Scalar α] (order : ByteOrder) {m : Memory} {start : Nat} {slots : List α}
    (h : start + slots.length * Scalar.width α ≤ m.length) :
    ∃ values, fill order m start slots = (.ok (), values) ∧ values.length = slots.length := by
  induction slots generalizing start with
  | nil => exact ⟨[], rfl, rfl⟩
  | cons slot rest ih =>
    rw [List.length_cons, Nat.succ_mul] at h
    have fits : start + Scalar.width α ≤ m.length := by omega
    obtain ⟨values, filled, size⟩ := @ih (start + Scalar.width α) (by omega)
    rw [fill, outcome_load, if_pos fits]
    simp only [filled]
    exact ⟨_, rfl, congrArg Nat.succ size⟩

/-- The range is checked before the first value is loaded. -/
theorem loadArray_spec [Scalar α] (offset : Nat) (order : ByteOrder) (m : Memory)
    (target : List α) :
    AllOrNothing (loadArray offset order) (m, target)
      (fun _ s => s.1 = m ∧ s.2.length = target.length) := by
  by_cases fits : offset + target.length * Scalar.width α ≤ m.length
  · obtain ⟨values, filled, size⟩ := fill_ok order fits
    refine .inr ⟨(), (m, values), ?_, rfl, size⟩
    simp only [loadArray, Access.outcome_bind, Access.outcome_get, Access.outcome_focus, Lens.first,
      outcome_checkRange, if_pos fits, Access.outcome_ofOutcome, filled]
  · refine .inl ⟨.bufferOverflow offset (target.length * Scalar.width α) m.length, ?_⟩
    simp only [loadArray, Access.outcome_bind, Access.outcome_get, Access.outcome_focus, Lens.first,
      outcome_checkRange, if_neg fits]

/-- The range is checked before the first value is stored. -/
theorem storeArray_spec [Scalar α] (offset : Nat) (order : ByteOrder) (source : List α)
    (m : Memory) :
    AllOrNothing (storeArray offset order source) m (fun _ m' => m'.length = m.length) := by
  by_cases fits : offset + source.length * Scalar.width α ≤ m.length
  · refine .inr ⟨(), Region.write m offset (packed order source), ?_, Region.length_write ?_⟩
    · rw [storeArray, Access.outcome_bind, outcome_checkRange, if_pos fits]
      exact storeEach_eq order fits
    · rwa [length_packed]
  · refine .inl ⟨.bufferOverflow offset (source.length * Scalar.width α) m.length, ?_⟩
    rw [storeArray, Access.outcome_bind, outcome_checkRange, if_neg fits]

theorem testChoice_spec (α : Type) [Word α] (offset : Nat) (order : ByteOrder) (bit : Nat)
    (m : Memory) :
    AllOrNothing (testChoice α offset order bit) m (fun _ m' => m' = m) :=
  (load_spec offset order m).bind fun _ => .done _ _

/-- The word that a choice is part of is loaded and stored in the same place. -/
theorem setChoice_spec (α : Type) [Word α] (offset : Nat) (order : ByteOrder) (bit : Nat)
    (value : Bool) (m : Memory) :
    AllOrNothing (setChoice α offset order bit value) m (fun _ m' => m'.length = m.length) :=
  (load_spec offset order m).bind fun _ => store_spec _ _ _ _

end Memory

/-! ## Members of a block -/

/-- The blocks start at the same place of memories of the same length. -/
structure Block.Alike (b b' : Block) : Prop where
  offset : b'.offset = b.offset
  length : b'.memory.length = b.memory.length

theorem Block.alike_of_eq {b b' : Block} (h : b' = b) : b.Alike b' := by
  subst h
  exact ⟨rfl, rfl⟩

/-- Nothing but the memory of a block is written by an access to its memory. -/
theorem Block.inMemory_spec {access : Nat → Access Memory α} {b : Block}
    {done : α → Memory → Prop} (h : AllOrNothing (access b.offset) b.memory done) :
    AllOrNothing (Block.inMemory access) b
      (fun a b' => ∃ m, done a m ∧ b' = { b with memory := m }) := by
  rcases h with ⟨e, refused⟩ | ⟨a, m, succeeded, holds⟩
  · refine .inl ⟨e, ?_⟩
    rw [Block.outcome_inMemory, refused]
  · refine .inr ⟨a, { b with memory := m }, ?_, m, holds, rfl⟩
    rw [Block.outcome_inMemory, succeeded]

theorem Block.reads_spec {access : Nat → Access Memory α} {b : Block}
    (h : AllOrNothing (access b.offset) b.memory (fun _ m => m = b.memory)) :
    AllOrNothing (Block.inMemory access) b (fun _ b' => b' = b) := by
  refine (Block.inMemory_spec h).mono ?_
  intro a b' given
  obtain ⟨m, rfl, rfl⟩ := given
  rfl

theorem Block.writes_spec {access : Nat → Access Memory α} {b : Block}
    (h : AllOrNothing (access b.offset) b.memory (fun _ m => m.length = b.memory.length)) :
    AllOrNothing (Block.inMemory access) b (fun _ b' => b.Alike b') := by
  refine (Block.inMemory_spec h).mono ?_
  intro a b' given
  obtain ⟨m, size, rfl⟩ := given
  exact ⟨rfl, size⟩

theorem ScalarField.get_spec [Scalar α] (f : ScalarField α) (b : Block) :
    AllOrNothing f.get b (fun _ b' => b' = b) :=
  Block.reads_spec (Memory.load_spec _ _ _)

theorem ScalarField.set_spec [Scalar α] (f : ScalarField α) (a : α) (b : Block) :
    AllOrNothing (f.set a) b (fun _ b' => b.Alike b') :=
  Block.writes_spec (Memory.store_spec _ _ _ _)

theorem CodeField.get_spec [Enumeration ε] (f : CodeField ε) (b : Block) :
    AllOrNothing f.get b (fun _ b' => b' = b) :=
  (f.codeField.get_spec b).bind fun _ => .answer _ _

theorem CodeField.set_spec [Enumeration ε] (f : CodeField ε) (v : ε) (b : Block) :
    AllOrNothing (f.set v) b (fun _ b' => b.Alike b') :=
  f.codeField.set_spec _ b

namespace FixedArray

theorem checkIndex_spec (a : FixedArray α) (index : Nat) (s : σ) :
    AllOrNothing (a.checkIndex index) s (fun _ s' => s' = s) := by
  rw [checkIndex]
  split
  · exact .done () s
  · exact .inl ⟨_, rfl⟩

theorem get_spec [Scalar α] (a : FixedArray α) (index : Nat) (b : Block) :
    AllOrNothing (a.get index) b (fun _ b' => b' = b) :=
  (a.checkIndex_spec index b).bind fun _ => (a.item index).get_spec b

theorem set_spec [Scalar α] (a : FixedArray α) (index : Nat) (value : α) (b : Block) :
    AllOrNothing (a.set index value) b (fun _ b' => b.Alike b') :=
  (a.checkIndex_spec index b).bind fun _ => (a.item index).set_spec value b

/-- A transfer is let through where it starts inside the array, is not longer than that, and
stays inside the slice of the caller. No refusal is for want of bytes. -/
theorem checkTransfer_iff (a : FixedArray α) (start count available : Nat) (σ : Type) :
    (∃ e, (∀ offset size capacity, e ≠ .bufferOverflow offset size capacity) ∧
        (a.checkTransfer start count available : Access σ Unit) = throw e) ∨
      (start < a.length ∧ count ≤ a.length ∧ start + count ≤ available) ∧
        (a.checkTransfer start count available : Access σ Unit) = pure () := by
  rw [checkTransfer]
  split
  · exact .inl ⟨_, by simp, rfl⟩
  · split
    · exact .inl ⟨_, by simp, rfl⟩
    · split
      · exact .inl ⟨_, by simp, rfl⟩
      · exact .inr ⟨by omega, rfl⟩

/-- A transfer that is let through stays inside the slice of the caller. -/
theorem checkTransfer_cases (a : FixedArray α) (start count available : Nat) (σ : Type) :
    (∃ e, (a.checkTransfer start count available : Access σ Unit) = throw e) ∨
      start + count ≤ available ∧
        (a.checkTransfer start count available : Access σ Unit) = pure () := by
  rcases a.checkTransfer_iff start count available σ with ⟨e, -, refused⟩ | ⟨inside, passed⟩
  · exact .inl ⟨e, refused⟩
  · exact .inr ⟨inside.2.2, passed⟩

theorem getInto_spec [Scalar α] (a : FixedArray α) (start count : Nat) (b : Block)
    (target : List α) :
    AllOrNothing (a.getInto start count) (b, target) (fun _ s => s.1 = b) := by
  rcases a.checkTransfer_cases start count target.length (Block × List α) with
    ⟨e, refused⟩ | ⟨inside, passed⟩
  · refine .inl ⟨e, ?_⟩
    simp only [getInto, Access.outcome_bind, Access.outcome_get, refused, Access.outcome_throw]
  · -- The slice is put back into the caller's list, which changes nothing if it was not
    -- filled.
    have same : (Block.memoryPart.prod (.region start count)).put
        ((Block.memoryPart.prod (.region start count)).get (b, target)) (b, target) =
          (b, target) :=
      congrArg (Prod.mk b) (Region.write_read_self inside)
    have loaded := AllOrNothing.focus (Block.memoryPart.prod (.region start count)) (b, target) same
      (Memory.loadArray_spec (b.offset + a.offset) a.order b.memory
        (Region.read target start count))
    have shape : (a.getInto start count).outcome (b, target) =
        (Access.focus (Block.memoryPart.prod (.region start count))
          (Memory.loadArray (b.offset + a.offset) a.order)).outcome (b, target) := by
      rw [getInto, Access.outcome_bind, Access.outcome_get]
      simp only [Access.outcome_bind, passed, Access.outcome_pure]
    rw [AllOrNothing, Refuses, shape]
    refine loaded.mono ?_
    intro answer s' given
    obtain ⟨t, ⟨kept, _⟩, rfl⟩ := given
    show ({ b with memory := t.1 } : Block) = b
    rw [kept]

theorem putFrom_spec [Scalar α] (a : FixedArray α) (source : List α) (start count : Nat)
    (b : Block) : AllOrNothing (a.putFrom source start count) b (fun _ b' => b.Alike b') := by
  have checked : AllOrNothing (a.checkTransfer start count source.length) b
      (fun _ b' => b' = b) := by
    rcases a.checkTransfer_cases start count source.length Block with ⟨e, refused⟩ | ⟨_, passed⟩
    · exact .inl ⟨e, by rw [refused]; rfl⟩
    · exact .inr ⟨(), b, by rw [passed]; rfl, rfl⟩
  exact checked.bind fun _ => Block.writes_spec (Memory.storeArray_spec _ _ _ _)

end FixedArray

theorem Choice.get_spec [Word α] (c : Choice α) (b : Block) :
    AllOrNothing c.get b (fun _ b' => b' = b) :=
  Block.reads_spec (Memory.testChoice_spec _ _ _ _ _)

theorem Choice.set_spec [Word α] (c : Choice α) (value : Bool) (b : Block) :
    AllOrNothing (c.set value) b (fun _ b' => b.Alike b') :=
  Block.writes_spec (Memory.setChoice_spec _ _ _ _ _ _)

/-- A member of a block, of whatever type. -/
inductive Member : Type 1 where
  | scalar (α : Type) [Scalar α] (field : ScalarField α)
  | coded (ε : Type) [Enumeration ε] (field : CodeField ε)
  | array (α : Type) [Scalar α] (field : FixedArray α)
  | choice (α : Type) [Word α] (field : Choice α)
  /-- a member of a block that is inside the block -/
  | nested (place : Nat) (member : Member)

/-- What a caller does with a member; `τ` is the type of the slice that is filled, `β`
that of the answer. -/
inductive Member.Use : Member → Type → Type → Type 1 where
  | get [Scalar α] {field : ScalarField α} : Use (.scalar α field) Unit α
  | set [Scalar α] {field : ScalarField α} (value : α) : Use (.scalar α field) Unit Unit
  | getCode [Enumeration ε] {field : CodeField ε} : Use (.coded ε field) Unit ε
  | setCode [Enumeration ε] {field : CodeField ε} (value : ε) : Use (.coded ε field) Unit Unit
  | getItem [Scalar α] {field : FixedArray α} (index : Nat) : Use (.array α field) Unit α
  | setItem [Scalar α] {field : FixedArray α} (index : Nat) (value : α) :
    Use (.array α field) Unit Unit
  | getInto [Scalar α] {field : FixedArray α} (start count : Nat) :
    Use (.array α field) (List α) Unit
  | putFrom [Scalar α] {field : FixedArray α} (source : List α) (start count : Nat) :
    Use (.array α field) Unit Unit
  | test [Word α] {field : Choice α} : Use (.choice α field) Unit Bool
  | choose [Word α] {field : Choice α} (value : Bool) : Use (.choice α field) Unit Unit
  | nested {place : Nat} (use : Use member τ β) : Use (.nested place member) τ β

/-- A part of a state, with something else along with it. -/
def Lens.beside (part : Lens σ σ') (τ : Type) : Lens (σ × τ) (σ' × τ) :=
  part.prod { get := fun t => t, put := fun t _ => t }

/-- The access to the block that a use stands for. -/
def Member.Use.access : Member.Use member τ β → Access (Block × τ) β
  | @get _ _ field => Access.focus (.first _ _) field.get
  | @set _ _ field value => Access.focus (.first _ _) (field.set value)
  | @getCode _ _ field => Access.focus (.first _ _) field.get
  | @setCode _ _ field value => Access.focus (.first _ _) (field.set value)
  | @getItem _ _ field index => Access.focus (.first _ _) (field.get index)
  | @setItem _ _ field index value => Access.focus (.first _ _) (field.set index value)
  | @getInto _ _ field start count => field.getInto start count
  | @putFrom _ _ field source start count =>
    Access.focus (.first _ _) (field.putFrom source start count)
  | @test _ _ field => Access.focus (.first _ _) field.get
  | @choose _ _ field value => Access.focus (.first _ _) (field.set value)
  | @nested _ τ _ place use => Access.focus ((Block.nested place).beside τ) use.access

/-- Whatever is done with a member, the block stays where it is. -/
theorem Member.Use.spec (use : Use member τ β) (b : Block) (slice : τ) :
    AllOrNothing use.access (b, slice) (fun _ s => b.Alike s.1) := by
  -- A member of a nested block is used through a block at another offset.
  induction use generalizing b with
  | get => exact ((ScalarField.get_spec _ b).first _).mono fun _ _ => Block.alike_of_eq
  | set value => exact (ScalarField.set_spec _ value b).first _
  | getCode => exact ((CodeField.get_spec _ b).first _).mono fun _ _ => Block.alike_of_eq
  | setCode value => exact (CodeField.set_spec _ value b).first _
  | getItem index =>
    exact ((FixedArray.get_spec _ index b).first _).mono fun _ _ => Block.alike_of_eq
  | setItem index value => exact (FixedArray.set_spec _ index value b).first _
  | getInto start count =>
    exact (FixedArray.getInto_spec _ start count b slice).mono fun _ _ => Block.alike_of_eq
  | putFrom source start count => exact (FixedArray.putFrom_spec _ source start count b).first _
  | test => exact ((Choice.get_spec _ b).first _).mono fun _ _ => Block.alike_of_eq
  | choose value => exact (Choice.set_spec _ value b).first _
  | @nested _ τ _ place use ih =>
    have inner := ih { b with offset := b.offset + place } slice
    refine (AllOrNothing.focus ((Block.nested place).beside τ) (b, slice) rfl inner).mono ?_
    intro answer s' given
    obtain ⟨t, alike, rfl⟩ := given
    exact ⟨rfl, alike.length⟩

/-! ## Messages -/

/-- The message is in the same place of a memory of the same length, and its position is
inside of that. -/
structure Message.Stays (m m' : Message) : Prop where
  offset : m'.offset = m.offset
  length : m'.memory.length = m.memory.length
  room : m'.HasRoom 0

/-- The message stays, and its position has at most moved on. -/
structure Message.Advances (m m' : Message) : Prop extends m.Stays m' where
  position : m.position ≤ m'.position

namespace Message

theorem advances_emitted {m : Message} {bytes : List UInt8} (h : m.HasRoom bytes.length) :
    m.Advances (m.emitted bytes) where
  offset := rfl
  length := length_emitted h
  position := Nat.le_add_right _ _
  room := h.emitted

theorem advances_passed {m : Message} {count : Nat} (h : m.HasRoom count) :
    m.Advances (m.passed count) where
  offset := rfl
  length := rfl
  position := Nat.le_add_right _ _
  room := by
    unfold HasRoom at *
    simp only [passed]
    omega

/-- The memory of a message is written in. -/
theorem advances_memory {m : Message} {memory : Memory} (room : m.HasRoom 0)
    (h : memory.length = m.memory.length) : m.Advances { m with memory } where
  offset := rfl
  length := h
  position := Nat.le_refl _
  room := by
    unfold HasRoom at *
    simp only [h]
    omega

end Message

/-- A position that is taken is inside the memory. -/
theorem Message.setPosition_spec (position : Nat) {m : Message} (placed : m.HasRoom 0) :
    AllOrNothing (setPosition position) m (fun _ m' => m.Stays m') := by
  have start := placed.offset_le
  rw [AllOrNothing, Refuses, outcome_setPosition]
  split
  · refine .inr ⟨(), _, rfl, rfl, rfl, ?_⟩
    unfold HasRoom
    simp only
    omega
  · exact .inl ⟨_, rfl⟩

/-- A root block of at least one byte is not bound past the end of the memory, where the
limit of the position is zero. The position is behind the block. -/
theorem Message.reset_spec {blockLength : Nat} (some : 0 < blockLength) (memory : Memory)
    (offset : Nat) (m : Message) :
    AllOrNothing (reset blockLength memory offset) m
      (fun _ m' => m'.HasRoom 0 ∧ m'.position = blockLength) := by
  rw [AllOrNothing, Refuses, outcome_reset]
  split
  · refine .inr ⟨(), _, rfl, ?_, rfl⟩
    unfold HasRoom
    simp only
    omega
  · exact .inl ⟨_, rfl⟩

theorem VarData.length_spec [Word α] (v : VarData α) (m : Message) :
    AllOrNothing v.length m (fun _ m' => m' = m) := by
  by_cases room : m.HasRoom (Scalar.width α)
  · exact .inr ⟨_, m, v.length_eq room, rfl⟩
  · exact .inl (v.length_refuses room)

/-- The position is checked and moved before anything is written, and then nothing can
fail. -/
theorem VarData.put_spec [Word α] (v : VarData α) (source : List UInt8) {m : Message}
    (placed : m.HasRoom 0) : AllOrNothing (v.put source) m (fun _ m' => m.Advances m') := by
  by_cases fits : source.length ≤ Word.greatest α ∧ m.HasRoom (Scalar.width α + source.length)
  · refine .inr ⟨(), _, v.put_eq fits.1 fits.2, Message.advances_emitted ?_⟩
    rw [length_bytes]
    exact fits.2
  · exact .inl (v.put_refuses placed.offset_le fits)

theorem VarData.get_spec [Word α] (v : VarData α) {m : Message} (placed : m.HasRoom 0)
    (target : List UInt8) :
    AllOrNothing v.get (m, target) (fun _ s => m.Advances s.1) := by
  by_cases room : m.HasRoom (Scalar.width α + v.wireLength m)
  · exact .inr ⟨_, _, v.get_eq room target, Message.advances_passed room⟩
  · exact .inl (v.get_refuses placed.offset_le room target)

/-- How a group is opened. -/
inductive Opening where
  | decode
  | encode (count : Nat)
  deriving DecidableEq, Repr

/-- Opens a group in one of the two ways. -/
def GroupLayout.openAs (g : GroupLayout) : Opening → Access Message Cursor
  | .decode => g.decode
  | .encode count => g.encode count

/-- The header is checked to fit before its first member is written, and then nothing
can fail. -/
theorem GroupLayout.openAs_spec {g : GroupLayout} (std : g.Standard) (how : Opening) {m : Message}
    (placed : m.HasRoom 0) :
    AllOrNothing (g.openAs how) m
      (fun c m' => m.Advances m' ∧ ∃ blockLength count, c = cursorAt m' blockLength count) := by
  cases how with
  | decode =>
    by_cases room : m.HasRoom 3
    · exact .inr ⟨_, _, decode_eq std room, Message.advances_passed room, _, _, rfl⟩
    · exact .inl (decode_refuses std room)
  | encode count =>
    by_cases fits : count ≤ 255 ∧ m.HasRoom 3
    · refine .inr ⟨_, _, encode_eq std fits.1 fits.2, Message.advances_emitted ?_, _, _, rfl⟩
      rw [length_header]
      exact fits.2
    · exact .inl (encode_refuses std placed.offset_le fits)

/-- The element that was entered ends at the position. -/
theorem Cursor.next_spec {c : Cursor} (placed : c.message.HasRoom 0) :
    AllOrNothing next c (fun _ c' => c.message.Advances c'.message ∧
      c'.element + c'.blockLength = c'.message.offset + c'.message.position ∧
        c'.count = c.count ∧ c'.index = c.index + 1 ∧ c'.index ≤ c'.count) := by
  by_cases fits : c.index < c.count ∧ c.message.HasRoom c.blockLength
  · exact .inr ⟨(), _, next_eq fits.1 fits.2, Message.advances_passed fits.2, Nat.add_assoc _ _ _,
      rfl, rfl, fits.1⟩
  · exact .inl (next_refuses placed.offset_le fits)

end Flyweight.Wire
