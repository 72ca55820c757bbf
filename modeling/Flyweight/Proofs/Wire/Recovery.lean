import Flyweight.Proofs.Wire.Emission

/- What a reading that succeeds has found in the memory.

   These are the converses of `Reads`, `Takes` and `TakesElement`: there the bytes are
   given and the answer follows, here the answer is given and the bytes follow. Which bytes
   an answer shows is a relation, since a word of choices has bits that no answer tells. A
   group shows its records only if its header has the block length of the layout, so it is
   opened by an access that insists on that (`GroupLayout.decodeExact`). -/

namespace Flyweight.Wire

/-! ## Success -/

/-- A sequence that succeeds is two accesses that succeed. -/
theorem Access.bind_ok {access : Access σ α} {next : α → Access σ β} {s s'' : σ} {c : β}
    (h : (access >>= next).outcome s = (.ok c, s'')) :
    ∃ a s', access.outcome s = (.ok a, s') ∧ (next a).outcome s' = (.ok c, s'') := by
  rw [outcome_bind] at h
  rcases outcome : access.outcome s with ⟨e | a, s'⟩
  · simp [outcome] at h
  · rw [outcome] at h
    exact ⟨a, s', rfl, h⟩

theorem Access.pure_ok {a c : α} {s s' : σ} (h : (pure a : Access σ α).outcome s = (.ok c, s')) :
    c = a ∧ s' = s := by
  simp only [outcome_pure, Prod.mk.injEq, Except.ok.injEq] at h
  exact ⟨h.1.symm, h.2.symm⟩

theorem Access.focus_ok {part : Lens σ τ} {access : Access τ α} {s s' : σ} {a : α}
    (h : (focus part access).outcome s = (.ok a, s')) :
    ∃ t, access.outcome (part.get s) = (.ok a, t) ∧ s' = part.put t s := by
  rw [outcome_focus] at h
  simp only [Prod.mk.injEq] at h
  obtain ⟨answer, rfl⟩ := h
  exact ⟨_, Prod.ext answer rfl, rfl⟩

theorem Refuses.not_ok {access : Access σ α} {s s' : σ} {a : α} (refused : Refuses access s) :
    access.outcome s ≠ (.ok a, s') := by
  obtain ⟨e, failed⟩ := refused
  simp [failed]

/-- Whenever the access succeeds, it has left the block as it is, and bytes that the answer
shows are at the offset. -/
def Recovers (access : Access Block α) (offset : Nat) (shows : α → List UInt8 → Prop) : Prop :=
  ∀ b a b', b.offset + offset ≤ b.memory.length → access.outcome b = (.ok a, b') →
    b' = b ∧ ∃ bytes, shows a bytes ∧ b.memory.Holds (b.offset + offset) bytes

/-- Whenever the access succeeds, bytes that the answer shows are at the position, and the
access has moved past them and done nothing else. -/
def RecoversHere (access : Access Message α) (shows : α → List UInt8 → Prop) : Prop :=
  ∀ m a m', m.HasRoom 0 → access.outcome m = (.ok a, m') →
    ∃ bytes, shows a bytes ∧ m.memory.Holds (m.offset + m.position) bytes ∧
      m' = m.passed bytes.length

/-- The same for an access that enters the next element of a group. -/
def RecoversElement (access : Access Cursor α) (blockLength : Nat)
    (shows : α → List UInt8 → Prop) : Prop :=
  ∀ c a c', c.blockLength = blockLength → c.message.HasRoom 0 → access.outcome c = (.ok a, c') →
    ∃ bytes element, shows a bytes ∧
      c.message.memory.Holds (c.message.offset + c.message.position) bytes ∧
      c' = { c with message := c.message.passed bytes.length, element, index := c.index + 1 }

theorem Memory.holds_nil {m : Memory} {start : Nat} (h : start ≤ m.length) : m.Holds start [] :=
  ⟨h, by simp [Region.read]⟩

/-- The bytes that are there, where there is room for them. -/
theorem Memory.holds_read {m : Memory} {start count : Nat} (h : start + count ≤ m.length) :
    m.Holds start (Region.read m start count) := by
  have size := Region.length_read h
  exact ⟨by rwa [size], by rw [size]⟩

theorem Memory.Holds.getElem? {m : Memory} {start i : Nat} {bytes : List UInt8}
    (h : m.Holds start bytes) (inside : i < bytes.length) : m[start + i]? = bytes[i]? := by
  have found := Region.getElem?_read m start bytes.length i
  rw [h.same, if_pos inside] at found
  exact found.symm

/-! ## Sequences -/

namespace Recovers

theorem done {c : α} {offset : Nat} {shows : α → List UInt8 → Prop} (h : shows c []) :
    Recovers (pure c) offset shows := by
  intro b a b' placed succeeded
  obtain ⟨rfl, rfl⟩ := Access.pure_ok succeeded
  exact ⟨rfl, [], h, Memory.holds_nil placed⟩

theorem bind {first : Access Block α} {second : α → Access Block β} {offset next : Nat}
    {front : α → List UInt8 → Prop} {shows : β → List UInt8 → Prop}
    (hf : Recovers first offset front)
    (adjacent : ∀ a bytes, front a bytes → offset + bytes.length = next)
    (hs : ∀ a bytes, front a bytes →
      Recovers (second a) next fun c back => shows c (bytes ++ back)) :
    Recovers (first >>= second) offset shows := by
  intro b c b' placed succeeded
  obtain ⟨a, s, began, ended⟩ := Access.bind_ok succeeded
  obtain ⟨rfl, bytes, shown, early⟩ := hf b a s placed began
  have place := adjacent a bytes shown
  have inside := early.inside
  obtain ⟨rfl, back, shown', late⟩ := hs a bytes shown s c b' (by omega) ended
  refine ⟨rfl, bytes ++ back, shown', Memory.holds_append.mpr ⟨early, ?_⟩⟩
  rwa [Nat.add_assoc, place]

/-- The front is the bytes of the value that is found. -/
theorem append {first : Access Block α} {second : α → Access Block β} {offset next : Nat}
    {front : α → List UInt8} {shows : β → List UInt8 → Prop}
    (hf : Recovers first offset fun a bytes => bytes = front a)
    (adjacent : ∀ a, offset + (front a).length = next)
    (hs : ∀ a, Recovers (second a) next fun c back => shows c (front a ++ back)) :
    Recovers (first >>= second) offset shows :=
  hf.bind (fun a _ same => same ▸ adjacent a) fun a _ same => same ▸ hs a

theorem map {access : Access Block α} {offset : Nat} {front : α → List UInt8 → Prop}
    {shows : β → List UInt8 → Prop} (h : Recovers access offset front) (f : α → β)
    (hf : ∀ a bytes, front a bytes → shows (f a) bytes) :
    Recovers (access >>= fun a => pure (f a)) offset shows := by
  intro b c b' placed succeeded
  obtain ⟨a, s, began, ended⟩ := Access.bind_ok succeeded
  obtain ⟨rfl, rfl⟩ := Access.pure_ok ended
  obtain ⟨same, bytes, shown, holds⟩ := h b a b' placed began
  exact ⟨same, bytes, hf a bytes shown, holds⟩

/-- A block inside the block. -/
theorem nested {access : Access Block α} {offset place : Nat} {shows : α → List UInt8 → Prop}
    (h : Recovers access offset shows) :
    Recovers (Access.focus (Block.nested place) access) (place + offset) shows := by
  intro b a b' placed succeeded
  obtain ⟨t, began, rfl⟩ := Access.focus_ok succeeded
  have inside : ((Block.nested place).get b).offset + offset ≤
      ((Block.nested place).get b).memory.length := by
    show b.offset + place + offset ≤ b.memory.length
    omega
  obtain ⟨rfl, bytes, shown, holds⟩ := h _ a t inside began
  refine ⟨rfl, bytes, shown, ?_⟩
  rw [← Nat.add_assoc]
  exact holds

/-- The root block of a message. -/
theorem root {access : Access Block α} {shows : α → List UInt8 → Prop}
    (h : Recovers access 0 shows) {m m' : Message} {a : α} (placed : m.offset ≤ m.memory.length)
    (succeeded : (Access.focus Message.root access).outcome m = (.ok a, m')) :
    m' = m ∧ ∃ bytes, shows a bytes ∧ m.memory.Holds m.offset bytes := by
  obtain ⟨t, began, rfl⟩ := Access.focus_ok succeeded
  obtain ⟨rfl, bytes, shown, holds⟩ := h _ a t placed began
  exact ⟨rfl, bytes, shown, holds⟩

end Recovers

namespace RecoversHere

theorem done {c : α} {shows : α → List UInt8 → Prop} (h : shows c []) :
    RecoversHere (pure c) shows := by
  intro m a m' placed succeeded
  obtain ⟨rfl, rfl⟩ := Access.pure_ok succeeded
  exact ⟨[], h, Memory.holds_nil placed, rfl⟩

theorem bind {first : Access Message α} {second : α → Access Message β}
    {front : α → List UInt8 → Prop} {shows : β → List UInt8 → Prop}
    (hf : RecoversHere first front)
    (hs : ∀ a bytes, front a bytes →
      RecoversHere (second a) fun c back => shows c (bytes ++ back)) :
    RecoversHere (first >>= second) shows := by
  intro m c m' placed succeeded
  obtain ⟨a, s, began, ended⟩ := Access.bind_ok succeeded
  obtain ⟨bytes, shown, early, rfl⟩ := hf m a s placed began
  have room : m.HasRoom bytes.length := early.inside
  obtain ⟨back, shown', late, rfl⟩ := hs a bytes shown _ c m' room.passed ended
  refine ⟨bytes ++ back, shown', Memory.holds_append.mpr ⟨early, ?_⟩, ?_⟩
  · rw [Nat.add_assoc]
    exact late
  · simp only [Message.passed, List.length_append, Nat.add_assoc]

theorem map {access : Access Message α} {front : α → List UInt8 → Prop}
    {shows : β → List UInt8 → Prop} (h : RecoversHere access front) (f : α → β)
    (hf : ∀ a bytes, front a bytes → shows (f a) bytes) :
    RecoversHere (access >>= fun a => pure (f a)) shows :=
  h.bind fun a bytes shown => .done (by rw [List.append_nil]; exact hf a bytes shown)

end RecoversHere

namespace RecoversElement

/-- An element that is a block alone. -/
theorem ofBlock {read : Access Block α} {blockLength : Nat} {shows : α → List UInt8 → Prop}
    (h : Recovers read 0 shows) (size : ∀ a bytes, shows a bytes → bytes.length = blockLength) :
    RecoversElement (Cursor.inNext read) blockLength shows := by
  intro c a c' length placed succeeded
  obtain ⟨_, entered, began, ended⟩ := Access.bind_ok succeeded
  by_cases left : c.index < c.count ∧ c.message.HasRoom c.blockLength
  · rw [Cursor.next_eq left.1 left.2] at began
    simp only [Prod.mk.injEq, true_and] at began
    subst began
    obtain ⟨t, found, rfl⟩ := Access.focus_ok ended
    obtain ⟨rfl, bytes, shown, holds⟩ :=
      h ⟨c.message.memory, c.message.offset + c.message.position⟩ a t placed found
    refine ⟨bytes, c.message.offset + c.message.position, shown, holds, ?_⟩
    rw [size a bytes shown, ← length]
    rfl
  · exact absurd began (Cursor.next_refuses placed.offset_le left).not_ok

/-- An element that goes on at the position of the message. -/
theorem bind {first : Access Cursor α} {second : α → Access Message β} {blockLength : Nat}
    {front : α → List UInt8 → Prop} {shows : β → List UInt8 → Prop}
    (hf : RecoversElement first blockLength front)
    (hs : ∀ a bytes, front a bytes →
      RecoversHere (second a) fun c back => shows c (bytes ++ back)) :
    RecoversElement (first >>= fun a => Access.focus Cursor.messagePart (second a)) blockLength
      shows := by
  intro c d c' length placed succeeded
  obtain ⟨a, s, began, ended⟩ := Access.bind_ok succeeded
  obtain ⟨bytes, element, shown, early, rfl⟩ := hf c a s length placed began
  obtain ⟨t, found, rfl⟩ := Access.focus_ok ended
  have room : c.message.HasRoom bytes.length := early.inside
  obtain ⟨back, shown', late, rfl⟩ := hs a bytes shown _ d t room.passed found
  refine ⟨bytes ++ back, element, shown', Memory.holds_append.mpr ⟨early, ?_⟩, ?_⟩
  · rw [Nat.add_assoc]
    exact late
  · simp only [Cursor.messagePart, Message.passed, List.length_append, Nat.add_assoc]

end RecoversElement

/-! ## Members of a block -/

theorem ScalarField.recovers [Scalar α] (f : ScalarField α) :
    Recovers f.get f.offset fun a bytes => bytes = f.bytes a := by
  intro b a b' _ succeeded
  rw [outcome_get] at succeeded
  by_cases fits : b.offset + f.offset + Scalar.width α ≤ b.memory.length
  · rw [if_pos fits] at succeeded
    simp only [Prod.mk.injEq, Except.ok.injEq] at succeeded
    obtain ⟨rfl, rfl⟩ := succeeded
    refine ⟨rfl, _, rfl, ?_⟩
    show b.memory.Holds _ (Scalar.encode f.order (Scalar.decode f.order _))
    rw [Scalar.encode_decode _ (Region.length_read fits)]
    exact Memory.holds_read fits
  · simp [if_neg fits] at succeeded

/-- A code that stands for a variant is the variant's. -/
theorem Enumeration.code_of_ofCode [Enumeration ε] {c : UInt8} {v : ε}
    (h : ofCode ε c = .ok v) : code v = c := by
  unfold ofCode at h
  split at h
  · rename_i w found
    obtain rfl := Except.ok.inj h
    simpa using List.find?_some found
  · cases h

theorem CodeField.recovers [Enumeration ε] (f : CodeField ε) :
    Recovers f.get f.offset fun v bytes => bytes = f.bytes v := by
  intro b v b' placed succeeded
  obtain ⟨c, s, began, ended⟩ := Access.bind_ok succeeded
  rw [Access.outcome_liftM] at ended
  simp only [Prod.mk.injEq] at ended
  obtain ⟨known, rfl⟩ := ended
  obtain ⟨same, bytes, rfl, holds⟩ := f.codeField.recovers b c s placed began
  refine ⟨same, f.codeField.bytes c, ?_, holds⟩
  exact congrArg f.codeField.bytes (Enumeration.code_of_ofCode known).symm

namespace FixedArray

theorem recovers_item [Scalar α] (a : FixedArray α) (index : Nat) :
    Recovers (a.get index) (a.offset + index * Scalar.width α)
      fun value bytes => bytes = Scalar.encode a.order value := by
  intro b value b' placed succeeded
  obtain ⟨_, s, began, ended⟩ := Access.bind_ok succeeded
  rw [checkIndex] at began
  by_cases inside : index < a.length
  · rw [if_pos inside] at began
    obtain ⟨-, rfl⟩ := Access.pure_ok began
    exact (a.item index).recovers s value b' placed ended
  · simp [if_neg inside] at began

/-- Items that are read one by one stand one after the other. -/
theorem recovers_from [Scalar α] (a : FixedArray α) (index count : Nat) :
    Recovers (a.getFrom index count) (a.offset + index * Scalar.width α)
      fun values bytes => values.length = count ∧ bytes = a.bytes values := by
  induction count generalizing index with
  | zero => exact .done ⟨rfl, rfl⟩
  | succ count ih =>
    have next := ih (index + 1)
    rw [Nat.succ_mul, ← Nat.add_assoc] at next
    have adjacent (value : α) (bytes : List UInt8) (shown : bytes = Scalar.encode a.order value) :
        a.offset + index * Scalar.width α + bytes.length =
          a.offset + index * Scalar.width α + Scalar.width α := by
      rw [shown, Scalar.length_encode]
    refine (a.recovers_item index).bind adjacent ?_
    rintro value _ rfl
    refine next.map (value :: ·) ?_
    rintro rest _ ⟨size, rfl⟩
    exact ⟨congrArg Nat.succ size, (Memory.packed_cons _ _ _).symm⟩

/-- What fills a destination stands one value after the other. -/
theorem packed_of_fill [Scalar α] (order : ByteOrder) {m : Memory} {start : Nat}
    {slots values : List α} (placed : start ≤ m.length)
    (h : Memory.fill order m start slots = (.ok (), values)) :
    values.length = slots.length ∧ m.Holds start (Memory.packed order values) := by
  induction slots generalizing start values with
  | nil =>
    obtain rfl : [] = values := by simpa [Memory.fill] using h
    exact ⟨rfl, Memory.holds_nil placed⟩
  | cons slot rest ih =>
    rw [Memory.fill, Memory.outcome_load] at h
    by_cases fits : start + Scalar.width α ≤ m.length
    · rw [if_pos fits] at h
      rcases filled : Memory.fill order m (start + Scalar.width α) rest with ⟨result, others⟩
      simp only [filled, Prod.mk.injEq] at h
      obtain ⟨rfl, rfl⟩ := h
      obtain ⟨size, late⟩ := ih fits filled
      refine ⟨congrArg Nat.succ size, ?_⟩
      rw [Memory.packed_cons, Memory.holds_append]
      rw [Scalar.encode_decode order (Region.length_read fits), Region.length_read fits]
      exact ⟨Memory.holds_read fits, late⟩
    · simp [if_neg fits] at h

theorem recovers_whole [Scalar α] (a : FixedArray α) (some : 0 < a.length) :
    Recovers a.getAll a.offset fun values bytes =>
      values.length = a.length ∧ bytes = a.bytes values := by
  intro b values b' placed succeeded
  have size : (List.replicate a.length (Scalar.ofCode 0 : α)).length = a.length :=
    List.length_replicate
  by_cases fits : b.offset + a.offset + a.length * Scalar.width α ≤ b.memory.length
  · rcases filled : Memory.fill a.order b.memory (b.offset + a.offset)
        (List.replicate a.length (Scalar.ofCode 0 : α)) with ⟨result, items⟩
    have got : (a.getInto 0 a.length).outcome (b, List.replicate a.length (Scalar.ofCode 0)) =
        (result, b, Region.write (List.replicate a.length (Scalar.ofCode 0)) 0 items) := by
      simp only [getInto, Access.outcome_bind, Access.outcome_get, size,
        checkTransfer_whole a some, Access.outcome_pure, Access.outcome_focus, Lens.prod,
        Lens.region, Lens.first, Block.memoryPart, Region.read_all size, Memory.loadArray,
        Memory.outcome_checkRange, if_pos fits, Access.outcome_ofOutcome, filled]
    rw [getAll, Access.outcome_bind, Access.along, Access.outcome_ofOutcome] at succeeded
    simp only [got] at succeeded
    cases result with
    | error e => simp at succeeded
    | ok _ =>
      obtain ⟨count, holds⟩ := packed_of_fill a.order placed filled
      rw [size] at count
      rw [Region.write_all (by rw [count, size])] at succeeded
      obtain ⟨rfl, rfl⟩ := Access.pure_ok succeeded
      exact ⟨rfl, _, ⟨count, rfl⟩, holds⟩
  · have refused : (a.getInto 0 a.length).outcome (b, List.replicate a.length (Scalar.ofCode 0)) =
        (.error (.bufferOverflow (b.offset + a.offset) (a.length * Scalar.width α)
          b.memory.length), b, Region.write (List.replicate a.length (Scalar.ofCode 0)) 0
            (List.replicate a.length (Scalar.ofCode 0))) := by
      simp only [getInto, Access.outcome_bind, Access.outcome_get, size,
        checkTransfer_whole a some, Access.outcome_pure, Access.outcome_focus, Lens.prod,
        Lens.region, Lens.first, Block.memoryPart, Region.read_all size, Memory.loadArray,
        Memory.outcome_checkRange, if_neg fits]
    rw [getAll, Access.outcome_bind, Access.along, Access.outcome_ofOutcome] at succeeded
    simp [refused] at succeeded

end FixedArray

/-- Whether a choice is made shows one bit of a word. -/
theorem Choice.recovers [Word α] (c : Choice α) :
    Recovers c.get 0 fun made bytes =>
      ∃ word : α, bytes = Scalar.encode c.order word ∧ made = Word.testBit word c.bit := by
  intro b made b' _ succeeded
  by_cases fits : b.offset + Scalar.width α ≤ b.memory.length
  · obtain ⟨word, holds⟩ := Memory.holds_encode (α := α) c.order fits
    rw [c.reads word b holds] at succeeded
    simp only [Prod.mk.injEq, Except.ok.injEq] at succeeded
    exact ⟨succeeded.2.symm, _, ⟨word, rfl, succeeded.1.symm⟩, holds⟩
  · simp [Choice.get, Memory.testChoice, Memory.outcome_load, if_neg fits] at succeeded

/-! ## Variable-length data -/

theorem VarData.recovers [Word α] (v : VarData α) (spare : Nat) :
    RecoversHere (v.read spare) fun source bytes =>
      source.length ≤ Word.greatest α ∧ bytes = v.bytes source := by
  intro m source m' placed succeeded
  obtain ⟨size, s, began, ended⟩ := Access.bind_ok succeeded
  by_cases narrow : m.HasRoom (Scalar.width α)
  · rw [v.length_eq narrow] at began
    simp only [Prod.mk.injEq, Except.ok.injEq] at began
    obtain ⟨rfl, rfl⟩ := began
    rw [Access.outcome_bind, Access.along, Access.outcome_ofOutcome] at ended
    by_cases room : m.HasRoom (Scalar.width α + v.wireLength m)
    · have copied : min (v.wireLength m + spare) (v.wireLength m) = v.wireLength m := by omega
      have inside := room
      unfold Message.HasRoom at inside
      have back : m.offset + m.position + Scalar.width α + v.wireLength m ≤ m.memory.length := by
        omega
      have count := Region.length_read back
      simp only [v.get_eq room, List.length_replicate, copied, Access.outcome_pure, Prod.mk.injEq,
        Except.ok.injEq, Region.write, List.take_zero, List.nil_append, ← Nat.add_assoc] at ended
      obtain ⟨rfl, rfl⟩ := ended
      rw [List.take_left' count]
      have front : (Region.read m.memory (m.offset + m.position) (Scalar.width α)).length =
          Scalar.width α := Region.length_read (by omega)
      have word : v.bytes (Region.read m.memory (m.offset + m.position + Scalar.width α)
          (v.wireLength m)) = Region.read m.memory (m.offset + m.position)
            (Scalar.width α + v.wireLength m) := by
        rw [VarData.bytes, count, wireLength, Scalar.ofCode_code, Scalar.encode_decode _ front,
          Region.read_add]
      refine ⟨_, ⟨?_, rfl⟩, ?_, ?_⟩
      · rw [count]
        have small := Scalar.code_lt (Scalar.decode v.order
          (Region.read m.memory (m.offset + m.position) (Scalar.width α)) : α)
        unfold Word.greatest wireLength
        omega
      · rw [word]
        exact Memory.holds_read (by omega)
      · rw [word, Region.length_read (by omega)]
    · obtain ⟨e, refused⟩ := v.get_refuses placed.offset_le room
        (List.replicate (v.wireLength m + spare) 0)
      simp [refused] at ended
  · exact absurd began (v.length_refuses narrow).not_ok

/-! ## Groups -/

namespace GroupLayout

variable {ρ : Type}

/-- Opens the group at the position, and fails unless the block length on the wire is that of
the layout. -/
def decodeExact (g : GroupLayout) : Access Message Cursor := do
  let c ← g.decode
  if c.blockLength = g.blockLength then return c
  else throw (.lengthOutOfRange c.blockLength g.blockLength)

/-- Reads a group to its end; `opened` is how a group is opened. -/
def readAllBy (opened : GroupLayout → Access Message Cursor) (g : GroupLayout)
    (read : Access Cursor ρ) : Access Message (List ρ) :=
  walk (opened g) do readEach read (← get).count

theorem decodeExact_ok {g : GroupLayout} (std : g.Standard) {m m' : Message} {c : Cursor}
    (succeeded : g.decodeExact.outcome m = (.ok c, m')) :
    ∃ count, count ≤ 255 ∧ m.memory.Holds (m.offset + m.position) (g.header count) ∧
      m' = m.passed 3 ∧ c = cursorAt (m.passed 3) g.blockLength count := by
  obtain ⟨opened, s, began, ended⟩ := Access.bind_ok succeeded
  by_cases room : m.HasRoom 3
  · rw [decode_eq std room] at began
    simp only [Prod.mk.injEq, Except.ok.injEq] at began
    obtain ⟨rfl, rfl⟩ := began
    let length : UInt16 := Scalar.decode .littleEndian
      (Region.read m.memory (m.offset + m.position) 2)
    let count : UInt8 := Scalar.decode .littleEndian
      (Region.read m.memory (m.offset + m.position + 2) 1)
    by_cases same : length.toNat = g.blockLength
    · have inside := room
      unfold Message.HasRoom at inside
      have first : Scalar.encode .littleEndian length =
          Region.read m.memory (m.offset + m.position) 2 :=
        Scalar.encode_decode _ (Region.length_read (by omega))
      have second : Scalar.encode .littleEndian count =
          Region.read m.memory (m.offset + m.position + 2) 1 :=
        Scalar.encode_decode _ (Region.length_read (by omega))
      have header : g.header count.toNat = Region.read m.memory (m.offset + m.position) 3 := by
        rw [GroupLayout.header, ← same, UInt16.ofNat_toNat, UInt8.ofNat_toNat, first, second]
        exact (Region.read_add m.memory (m.offset + m.position) 2 1).symm
      have small := count.toNat_lt
      rw [if_pos (show (cursorAt (m.passed 3) length.toNat count.toNat).blockLength =
        g.blockLength from same)] at ended
      obtain ⟨rfl, rfl⟩ := Access.pure_ok ended
      refine ⟨count.toNat, by omega, ?_, rfl, by rw [← same]⟩
      rw [header]
      exact Memory.holds_read inside
    · rw [if_neg (show ¬ (cursorAt (m.passed 3) length.toNat count.toNat).blockLength =
        g.blockLength from same)] at ended
      simp at ended
  · exact absurd began (decode_refuses std room).not_ok

theorem recovers_each {read : Access Cursor ρ} {blockLength : Nat} {bytes : ρ → List UInt8}
    {fits : ρ → Prop}
    (each : RecoversElement read blockLength fun r front => front = bytes r ∧ fits r)
    {c c' : Cursor} {count : Nat} {records : List ρ} (length : c.blockLength = blockLength)
    (placed : c.message.HasRoom 0)
    (succeeded : (readEach read count).outcome c = (.ok records, c')) :
    records.length = count ∧ (∀ r ∈ records, fits r) ∧
      c.message.memory.Holds (c.message.offset + c.message.position) (records.flatMap bytes) ∧
      c'.message = c.message.passed (records.flatMap bytes).length := by
  induction count generalizing c records with
  | zero =>
    obtain ⟨rfl, rfl⟩ := Access.pure_ok succeeded
    exact ⟨rfl, by simp, Memory.holds_nil placed, rfl⟩
  | succ count ih =>
    obtain ⟨r, s, began, continued⟩ := Access.bind_ok succeeded
    obtain ⟨rest, s', walked, ended⟩ := Access.bind_ok continued
    obtain ⟨rfl, rfl⟩ := Access.pure_ok ended
    obtain ⟨front, element, ⟨rfl, fit⟩, early, rfl⟩ := each c r s length placed began
    have room : c.message.HasRoom (bytes r).length := early.inside
    obtain ⟨size, all, late, moved⟩ := ih (c := { c with
      message := c.message.passed (bytes r).length, element, index := c.index + 1 })
      length room.passed walked
    refine ⟨congrArg Nat.succ size, ?_, ?_, ?_⟩
    · intro r' listed
      rcases List.mem_cons.mp listed with rfl | listed
      · exact fit
      · exact all r' listed
    · rw [List.flatMap_cons, Memory.holds_append]
      refine ⟨early, ?_⟩
      rw [Nat.add_assoc]
      exact late
    · rw [moved, List.flatMap_cons, List.length_append]
      simp only [Message.passed, Nat.add_assoc]

/-- A group whose header has the block length of the layout shows its records. -/
theorem recovers {g : GroupLayout} (std : g.Standard) {read : Access Cursor ρ}
    {bytes : ρ → List UInt8} {fits : ρ → Prop}
    (each : RecoversElement read g.blockLength fun r front => front = bytes r ∧ fits r) :
    RecoversHere (g.readAllBy decodeExact read) fun records front =>
      front = g.header records.length ++ records.flatMap bytes ∧ records.length ≤ 255 ∧
        ∀ r ∈ records, fits r := by
  intro m records m' placed succeeded
  obtain ⟨c, s, began, ended⟩ := Access.bind_ok succeeded
  obtain ⟨count, small, front, rfl, rfl⟩ := decodeExact_ok std began
  have room : m.HasRoom 3 := by
    have inside := front.inside
    rwa [length_header] at inside
  rcases walked : (readEach read count).outcome (cursorAt (m.passed 3) g.blockLength count) with
    ⟨result, c'⟩
  have counted : (cursorAt (m.passed 3) g.blockLength count).count = count := rfl
  simp only [Access.outcome_bind, Access.outcome_get, counted, walked, Access.outcome_set,
    Access.outcome_liftM, Prod.mk.injEq] at ended
  obtain ⟨rfl, rfl⟩ := ended
  obtain ⟨size, all, back, moved⟩ := recovers_each each rfl room.passed walked
  refine ⟨_, ⟨rfl, by omega, all⟩, ?_, ?_⟩
  · rw [size, Memory.holds_append, length_header]
    refine ⟨front, ?_⟩
    rw [Nat.add_assoc]
    exact back
  · rw [moved, List.length_append, length_header]
    simp only [cursorAt, Message.passed, Nat.add_assoc]

end GroupLayout

end Flyweight.Wire
