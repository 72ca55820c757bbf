import Flyweight.Proofs.Wire.Recovery
import Flyweight.Proofs.Car.RoundTrip

/- What is decoded as a car is encoded as the bytes that it was decoded from.

   A car that is read to its end, from groups whose headers have the block lengths of the
   schema, fits, and its bytes are in the memory. No answer tells the upper bits of the byte
   of choices, so they have to be zero for the writing, which clears them, to restore that
   byte; every other byte is told by one answer. -/

namespace Flyweight

open Wire

namespace OptionalExtras

/-- The choices that are read are those of the word that is there. -/
theorem recovers : Recovers read 0 fun r bytes =>
    ∃ word, bytes = raw.bytes word ∧ r.word word = word := by
  intro b r b' placed succeeded
  obtain ⟨sun, s, began, continued⟩ := Access.bind_ok succeeded
  obtain ⟨rfl, bytes, ⟨word, rfl, rfl⟩, holds⟩ := sunRoof.recovers b sun s placed began
  simp only [Access.outcome_bind, sportsPack.reads word s holds, cruiseControl.reads word s holds,
    Access.outcome_pure, Prod.mk.injEq, Except.ok.injEq] at continued
  obtain ⟨rfl, rfl⟩ := continued
  refine ⟨rfl, _, ⟨word, rfl, ?_⟩, holds⟩
  simp [Record.word, Word.withBit, sunRoof, sportsPack, cruiseControl]

theorem bytes_raw (word : UInt8) : raw.bytes word = [word] :=
  congrArg ([·]) UInt8.ofNat_toNat

/-- A word with no bit above the choices is made from cleared choices. -/
theorem word_zero {r : Record} {word : UInt8} (small : word < 8) (same : r.word word = word) :
    r.word 0 = word := by
  have all : ∀ sun sports cruise : Bool, ∀ low : Fin 8,
      Record.word ⟨sun, sports, cruise⟩ (UInt8.ofNat low) = UInt8.ofNat low →
        Record.word ⟨sun, sports, cruise⟩ 0 = UInt8.ofNat low := by decide
  have found := all r.sunRoof r.sportsPack r.cruiseControl ⟨word.toNat, small⟩
  rw [UInt8.ofNat_toNat] at found
  exact found same

end OptionalExtras

/-! ## Composites -/

theorem Booster.recovers : Recovers read 0 fun r bytes => bytes = r.bytes :=
  boostType.recovers.append (fun _ => rfl) fun boostType =>
    horsePower.recovers.map (Record.mk boostType) fun _ _ same => same ▸ rfl

theorem Engine.recovers : Recovers read 0 fun r bytes => bytes = r.bytes ∧ r.Fits := by
  have letters := manufacturerCode.recovers_from 0 manufacturerCode.length
  have adjacent (values : List UInt8) (bytes : List UInt8)
      (h : values.length = manufacturerCode.length ∧ bytes = manufacturerCode.bytes values) :
      manufacturerCode.offset + bytes.length = efficiency.offset := by
    rw [h.2, FixedArray.length_bytes, h.1]
    rfl
  exact capacity.recovers.append (fun _ => rfl) fun capacity =>
    numCylinders.recovers.append (fun _ => rfl) fun numCylinders =>
    letters.bind adjacent fun letters _ h =>
    efficiency.recovers.append (fun _ => rfl) fun efficiency =>
    booleanType.recovers.append (fun _ => rfl) fun booleanType =>
    Booster.recovers.nested.map (Record.mk capacity numCylinders letters efficiency booleanType)
      fun _ _ same => ⟨by rw [same, h.2]; rfl, h.1⟩

namespace Car

/-! ## The root block -/

theorem recovers_root : Recovers readRoot 0 fun r bytes =>
    r.Fits ∧ ∃ word, bytes = r.bytes word ∧ r.extras.word word = word := by
  have numbers := someNumbers.recovers_from 0 someNumbers.length
  have letters := vehicleCode.recovers_whole (by decide)
  have choices : Recovers (Access.focus extras OptionalExtras.read) 38 _ :=
    OptionalExtras.recovers.nested
  have figures : Recovers (Access.focus engine Engine.read) 39 _ := Engine.recovers.nested
  have behind_numbers (values : List UInt32) (bytes : List UInt8)
      (h : values.length = someNumbers.length ∧ bytes = someNumbers.bytes values) :
      someNumbers.offset + bytes.length = vehicleCode.offset := by
    rw [h.2, FixedArray.length_bytes, h.1]
    rfl
  have behind_letters (values : List UInt8) (bytes : List UInt8)
      (h : values.length = vehicleCode.length ∧ bytes = vehicleCode.bytes values) :
      vehicleCode.offset + bytes.length = 38 := by
    rw [h.2, FixedArray.length_bytes, h.1]
    rfl
  have behind_choices (r : OptionalExtras.Record) (bytes : List UInt8)
      (h : ∃ word, bytes = OptionalExtras.raw.bytes word ∧ r.word word = word) :
      38 + bytes.length = 39 := by
    obtain ⟨word, rfl, -⟩ := h
    rfl
  have behind_figures (r : Engine.Record) (bytes : List UInt8) (h : bytes = r.bytes ∧ r.Fits) :
      39 + bytes.length = seqNumber.offset := by
    rw [h.1, Engine.length_bytes h.2]
    rfl
  exact serialNumber.recovers.append (fun _ => rfl) fun serialNumber =>
    modelYear.recovers.append (fun _ => rfl) fun modelYear =>
    available.recovers.append (fun _ => rfl) fun available =>
    code.recovers.append (fun _ => rfl) fun code =>
    numbers.bind behind_numbers fun numbers _ hn =>
    letters.bind behind_letters fun letters _ hl =>
    choices.bind behind_choices fun choices _ hc =>
    figures.bind behind_figures fun figures _ hf =>
    seqNumber.recovers.append (fun _ => rfl) fun seqNumber =>
    weight.recovers.map (Root.mk serialNumber modelYear available code numbers letters choices
      figures seqNumber) fun weight _ same => by
        obtain ⟨word, rfl, settled⟩ := hc
        refine ⟨⟨hn.1, hl.1, hf.2⟩, word, ?_, settled⟩
        rw [same, hn.2, hl.2, hf.1]
        simp only [Root.bytes, Root.front, Root.back, settled, List.append_assoc]

/-- The byte of choices is the thirty-ninth of the root block. -/
theorem Root.getElem?_choices {r : Root} (fits : r.Fits) (old : UInt8) (behind : List UInt8) :
    (r.bytes old ++ behind)[38]? = some (r.extras.word old) := by
  have size := Root.length_front fits
  rw [Root.bytes, List.append_assoc, List.append_assoc, List.getElem?_append_right (by omega), size,
    OptionalExtras.bytes_raw]
  rfl

/-! ## Groups -/

theorem FuelFigures.recovers (spare : Nat) :
    RecoversElement (read spare) fuelFigures.blockLength fun r bytes =>
      bytes = r.bytes ∧ r.Fits := by
  have block : Recovers (do
      let speed ← speed.get
      let mpg ← mpg.get
      return (speed, mpg)) 0 fun figures bytes =>
        bytes = speed.bytes figures.1 ++ mpg.bytes figures.2 :=
    speed.recovers.append (fun _ => rfl) fun speed =>
      mpg.recovers.map (Prod.mk speed) fun _ _ same => same ▸ rfl
  have element : RecoversElement _ fuelFigures.blockLength _ :=
    .ofBlock block fun _ _ same => same ▸ rfl
  exact element.bind fun figures _ shown =>
    (usageDescription.recovers spare).map (Record.mk figures.1 figures.2) fun _ _ h =>
      ⟨by rw [shown, h.2]; rfl, h.1⟩

theorem PerformanceFigures.Acceleration.recovers :
    RecoversElement read acceleration.blockLength fun r bytes => bytes = r.bytes ∧ True :=
  .ofBlock (mph.recovers.append (fun _ => rfl) fun mph =>
    seconds.recovers.map (Record.mk mph) fun _ _ same => ⟨same ▸ rfl, trivial⟩)
    fun _ _ shown => shown.1 ▸ rfl

/-- Enters the next element, and reads a performance figure; `opened` is how the group in it
is opened. -/
def PerformanceFigures.readBy (opened : GroupLayout → Access Message Cursor) :
    Access Cursor Record := do
  let octaneRating ← Cursor.inNext octaneRating.get
  Access.focus Cursor.messagePart do
    let accelerations ← acceleration.readAllBy opened Acceleration.read
    return { octaneRating, accelerations }

theorem PerformanceFigures.recovers :
    RecoversElement (readBy GroupLayout.decodeExact) performanceFigures.blockLength
      fun r bytes => bytes = r.bytes ∧ r.Fits := by
  have element : RecoversElement _ performanceFigures.blockLength _ :=
    .ofBlock octaneRating.recovers fun _ _ same => same ▸ rfl
  exact element.bind fun rating _ shown =>
    (GroupLayout.recovers acceleration_standard Acceleration.recovers).map (Record.mk rating)
      fun _ _ h => ⟨by rw [shown, h.1]; rfl, h.2.1⟩

/-! ## The car -/

/-- Reads what stands behind the root block; `opened` is how a group is opened. -/
def readTailBy (opened : GroupLayout → Access Message Cursor) (spare : Nat) (root : Root) :
    Access Message Record := do
  let fuelFigures ← fuelFigures.readAllBy opened (FuelFigures.read spare)
  let performanceFigures ←
    performanceFigures.readAllBy opened (PerformanceFigures.readBy opened)
  let manufacturer ← manufacturer.read spare
  let model ← model.read spare
  return { root, fuelFigures, performanceFigures, manufacturer, model }

/-- Reads the car at an offset of a memory; `opened` is how a group is opened. -/
def decodeBy (opened : GroupLayout → Access Message Cursor) (spare : Nat) (memory : Memory)
    (offset : Nat) : Access Message Record := do
  reset memory offset
  let root ← Access.focus Message.root readRoot
  readTailBy opened spare root

theorem decodeBy_decode : decodeBy GroupLayout.decode = decode := rfl

theorem recovers_tail (spare : Nat) {root : Root} (fits : root.Fits) :
    RecoversHere (readTailBy GroupLayout.decodeExact spare root) fun v bytes =>
      v.root = root ∧ v.Fits ∧ bytes = v.tail := by
  have fuel := GroupLayout.recovers fuelFigures_standard (FuelFigures.recovers spare)
  have performance := GroupLayout.recovers performanceFigures_standard PerformanceFigures.recovers
  exact fuel.bind fun fuel _ hf => performance.bind fun performance _ hp =>
    (manufacturer.recovers spare).bind fun letters _ hm =>
    (model.recovers spare).map (Record.mk root fuel performance letters) fun model _ h =>
      ⟨rfl, ⟨fits, hf.2.1, hf.2.2, hp.2.1, hp.2.2, hm.1, h.1⟩, by
        rw [hf.1, hp.1, hm.2, h.2]
        simp only [Record.tail, List.append_assoc]⟩

/-- A car that is read fits, its bytes are at the offset, and the flyweight is bound to them. -/
theorem holds_of_decode {spare : Nat} {memory : Memory} {offset : Nat} {m after : Message}
    {v : Record}
    (decoded : (decodeBy GroupLayout.decodeExact spare memory offset).outcome m =
      (.ok v, after)) :
    v.Fits ∧ after = ⟨memory, offset, v.size⟩ ∧ ∃ word, v.root.extras.word word = word ∧
      memory.Holds offset (v.root.bytes word ++ v.tail) := by
  obtain ⟨_, bound, placed, continued⟩ := Access.bind_ok decoded
  rw [reset, Message.outcome_reset] at placed
  by_cases room : blockLength ≤ memory.length - offset
  · rw [if_pos room] at placed
    simp only [Prod.mk.injEq, true_and] at placed
    subst placed
    have positive : 0 < blockLength := by decide
    obtain ⟨root, s, began, ended⟩ := Access.bind_ok continued
    obtain ⟨rfl, bytes, ⟨fits, word, rfl, settled⟩, front⟩ :=
      recovers_root.root (by simp only; omega) began
    have size := Root.length_bytes fits word
    obtain ⟨back, ⟨rfl, fits, rfl⟩, late, rfl⟩ := recovers_tail spare fits _ v after
      (by unfold Message.HasRoom; simp only; omega) ended
    refine ⟨fits, ?_, word, settled, Memory.holds_append.mpr ⟨front, ?_⟩⟩
    · rw [Message.passed, Nat.add_comm, v.length_tail]
    · rw [size]
      exact late
  · simp [if_neg room] at placed

/-- Where a car was read to its end from groups with the block lengths of the schema, and
its byte of choices has no bit above those, the car is written again as it was, over
whatever was there. -/
theorem encode_of_decode {spare : Nat} {memory other : Memory} {offset : Nat}
    {m after : Message} {v : Record} {choices : UInt8}
    (decoded : (decodeBy GroupLayout.decodeExact spare memory offset).outcome m = (.ok v, after))
    (chosen : memory[offset + 38]? = some choices) (low : choices < 8)
    (room : offset + after.position ≤ other.length) (fresh : Message) :
    (decode spare memory offset).outcome m = (.ok v, after) ∧
      ∃ again, (encode true v other offset).outcome fresh = (.ok (), again) ∧
        again.position = after.position ∧
        Region.read again.memory offset after.position =
          Region.read memory offset after.position := by
  obtain ⟨fits, rfl, word, settled, holds⟩ := holds_of_decode decoded
  obtain ⟨old, cleared, written⟩ := encode_over fits true fresh room
  obtain rfl := cleared rfl
  have size := length_bytes fits 0
  have same : v.root.bytes 0 = v.root.bytes word := by
    have inside : 38 < (v.root.bytes word ++ v.tail).length := by
      rw [length_bytes fits, Record.size]
      omega
    have found := holds.getElem? inside
    rw [chosen, Root.getElem?_choices fits.root, settled] at found
    obtain rfl := Option.some.inj found
    rw [Root.bytes, Root.bytes, settled, OptionalExtras.word_zero low settled]
  have place : offset + 0 + (v.root.bytes 0 ++ v.tail).length ≤ other.length := by
    rw [size]
    exact room
  have whole := Region.read_write_self place
  rw [size] at whole
  have origin := holds.same
  rw [length_bytes fits, ← same] at origin
  exact ⟨decode_eq fits spare m holds, _, written, (Nat.zero_add _).trans size,
    whole.trans origin.symm⟩

/-- The bytes of `roadster`, behind eight others. -/
def parked : Memory := List.replicate 8 255 ++ (roadster.root.bytes 0 ++ roadster.tail)

theorem encode_of_decode_roadster :
    (decodeBy GroupLayout.decodeExact 3 parked 8).outcome {} = (.ok roadster, ⟨parked, 8, 115⟩) ∧
      parked[8 + 38]? = some 5 ∧ (5 : UInt8) < 8 ∧
      ∃ again, (encode true roadster (List.replicate 130 170) 8).outcome {} = (.ok (), again) ∧
        again.position = 115 ∧ Region.read again.memory 8 115 = Region.read parked 8 115 := by
  have decoded : (decodeBy GroupLayout.decodeExact 3 parked 8).outcome {} =
      (.ok roadster, ⟨parked, 8, 115⟩) := by
    have answer : ((decodeBy GroupLayout.decodeExact 3 parked 8).outcome {}).1.toOption =
        some roadster := by decide +kernel
    have left : ((decodeBy GroupLayout.decodeExact 3 parked 8).outcome {}).2 =
        ⟨parked, 8, 115⟩ := by decide +kernel
    rcases outcome : (decodeBy GroupLayout.decodeExact 3 parked 8).outcome {} with ⟨e | v, after⟩
    · rw [outcome] at answer
      cases answer
    · rw [outcome] at answer left
      obtain rfl := Option.some.inj answer
      obtain rfl : after = ⟨parked, 8, 115⟩ := left
      rfl
  have chosen : parked[8 + 38]? = some 5 := by decide +kernel
  have room : 8 + 115 ≤ (List.replicate 130 (170 : UInt8)).length := by
    rw [List.length_replicate]
    omega
  obtain ⟨_, again, written, position, same⟩ :=
    encode_of_decode decoded chosen (by decide) room {}
  exact ⟨decoded, chosen, by decide, again, written, position, same⟩

end Car

end Flyweight
