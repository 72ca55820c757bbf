import Flyweight.Car
import Flyweight.Proofs.Wire.Emission

/- Cars as values.

   A `Car.Record` has a value for every field of a car, at every depth; floats are
   their bits. It is written and read in the order of the schema, with the accessors of
   the flyweights alone. `Car.Record.bytes` are the bytes of a car: they depend on what
   was there before in one byte alone, whose upper bits no choice stands for. -/

namespace Flyweight

open Wire

/-! ## Choices -/

namespace OptionalExtras

/-- Which choices are made. -/
structure Record where
  sunRoof : Bool
  sportsPack : Bool
  cruiseControl : Bool
  deriving DecidableEq, Repr

/-- The word with the choices made or unmade in it. -/
def Record.word (r : Record) (old : UInt8) : UInt8 :=
  Word.withBit (Word.withBit (Word.withBit old 0 r.sunRoof) 1 r.sportsPack) 2 r.cruiseControl

/-- Makes or unmakes every choice. -/
def choose (r : Record) : Access Block Unit := do
  sunRoof.set r.sunRoof
  sportsPack.set r.sportsPack
  cruiseControl.set r.cruiseControl

/-- Makes or unmakes every choice; `clearing` says whether all are unmade first. -/
def write (clearing : Bool) (r : Record) : Access Block Unit :=
  if clearing then do
    clear
    choose r
  else choose r

/-- The choices that are made. -/
def read : Access Block Record := do
  let sunRoof ← sunRoof.get
  let sportsPack ← sportsPack.get
  let cruiseControl ← cruiseControl.get
  return { sunRoof, sportsPack, cruiseControl }

theorem choose_eq (r : Record) {b : Block} {old : UInt8}
    (holds : b.memory.Holds b.offset (raw.bytes old)) :
    (choose r).outcome b = (.ok (), b.written 0 (raw.bytes (r.word old))) := by
  have fits : b.offset + 0 + 1 ≤ b.memory.length := holds.inside
  -- Every choice is written over the whole byte, so the last word stays.
  have after (word : UInt8) :
      (b.written 0 (raw.bytes word)).memory.Holds b.offset (raw.bytes word) :=
    Memory.holds_write fits
  have again (first second : UInt8) :
      (b.written 0 (raw.bytes first)).written 0 (raw.bytes second) =
        b.written 0 (raw.bytes second) := Block.written_written rfl fits
  have sun : (sunRoof.set r.sunRoof).outcome b =
      (.ok (), b.written 0 (raw.bytes (Word.withBit old 0 r.sunRoof))) := sunRoof.set_eq _ holds
  have sports (word : UInt8) :
      (sportsPack.set r.sportsPack).outcome (b.written 0 (raw.bytes word)) =
        (.ok (), b.written 0 (raw.bytes (Word.withBit word 1 r.sportsPack))) := by
    rw [sportsPack.set_eq _ (after word)]
    exact congrArg (Prod.mk _) (again _ _)
  have cruise (word : UInt8) :
      (cruiseControl.set r.cruiseControl).outcome (b.written 0 (raw.bytes word)) =
        (.ok (), b.written 0 (raw.bytes (Word.withBit word 2 r.cruiseControl))) := by
    rw [cruiseControl.set_eq _ (after word)]
    exact congrArg (Prod.mk _) (again _ _)
  rw [choose, Access.outcome_bind, sun]
  simp only [Access.outcome_bind, sports, cruise]
  rfl

/-- The choices are written over a byte that was there or has been cleared. -/
theorem write_eq (clearing : Bool) (r : Record) {b : Block}
    (room : b.offset + encodedLength ≤ b.memory.length) :
    ∃ old, (clearing = true → old = 0) ∧
      (write clearing r).outcome b = (.ok (), b.written 0 (raw.bytes (r.word old))) := by
  cases clearing with
  | false =>
    obtain ⟨old, holds⟩ := Memory.holds_encode (α := UInt8) raw.order room
    exact ⟨old, nofun, choose_eq r holds⟩
  | true =>
    have fits : b.offset + 0 + (raw.bytes 0).length ≤ b.memory.length := room
    have chosen := choose_eq r (b := b.written 0 (raw.bytes 0)) (Memory.holds_write fits)
    refine ⟨0, fun _ => rfl, ?_⟩
    rw [write, if_pos rfl, Access.outcome_bind, clear, raw.fills 0 b fits]
    exact chosen.trans (congrArg _ (Block.written_written rfl fits))

theorem reads (r : Record) (old : UInt8) : Reads read 0 (raw.bytes (r.word old)) r := by
  intro b holds
  have sun : Word.testBit (r.word old) sunRoof.bit = r.sunRoof := by
    simp [Record.word, sunRoof, Word.testBit_withBit, Scalar.width]
  have sports : Word.testBit (r.word old) sportsPack.bit = r.sportsPack := by
    simp [Record.word, sportsPack, Word.testBit_withBit, Scalar.width]
  have cruise : Word.testBit (r.word old) cruiseControl.bit = r.cruiseControl := by
    simp [Record.word, cruiseControl, Word.testBit_withBit, Scalar.width]
  rw [read, Access.outcome_bind, sunRoof.reads _ b holds]
  simp only [Access.outcome_bind, sportsPack.reads _ b holds, cruiseControl.reads _ b holds,
    Access.outcome_pure, sun, sports, cruise]

end OptionalExtras

/-! ## Composites -/

namespace Booster

/-- The values of a booster. -/
structure Record where
  boostType : BoostType
  horsePower : UInt8
  deriving DecidableEq, Repr

def write (r : Record) : Access Block Unit := do
  boostType.set r.boostType
  horsePower.set r.horsePower

def read : Access Block Record := do
  let boostType ← boostType.get
  let horsePower ← horsePower.get
  return { boostType, horsePower }

def Record.bytes (r : Record) : List UInt8 :=
  Booster.boostType.bytes r.boostType ++ Booster.horsePower.bytes r.horsePower

@[simp]
theorem Record.length_bytes (r : Record) : r.bytes.length = 2 := by
  simp [bytes]
  rfl

theorem fills (r : Record) : Fills (write r) 0 r.bytes :=
  (boostType.fills _).append rfl (horsePower.fills _)

theorem reads (r : Record) : Reads read 0 r.bytes r :=
  (boostType.reads _).bind rfl ((horsePower.reads _).map _)

end Booster

namespace Engine

/-- The values of an engine. -/
structure Record where
  capacity : UInt16
  numCylinders : UInt8
  manufacturerCode : List UInt8
  efficiency : Int8
  booleanType : BooleanType
  booster : Booster.Record
  deriving DecidableEq, Repr

def write (r : Record) : Access Block Unit := do
  capacity.set r.capacity
  numCylinders.set r.numCylinders
  manufacturerCode.setFrom 0 r.manufacturerCode
  efficiency.set r.efficiency
  booleanType.set r.booleanType
  Access.focus booster (Booster.write r.booster)

def read : Access Block Record := do
  let capacity ← capacity.get
  let numCylinders ← numCylinders.get
  let manufacturerCode ← manufacturerCode.getFrom 0 manufacturerCode.length
  let efficiency ← efficiency.get
  let booleanType ← booleanType.get
  let booster ← Access.focus booster Booster.read
  return { capacity, numCylinders, manufacturerCode, efficiency, booleanType, booster }

def Record.bytes (r : Record) : List UInt8 :=
  Engine.capacity.bytes r.capacity ++ (Engine.numCylinders.bytes r.numCylinders ++
    (Engine.manufacturerCode.bytes r.manufacturerCode ++ (Engine.efficiency.bytes r.efficiency ++
      (Engine.booleanType.bytes r.booleanType ++ r.booster.bytes))))

/-- The code of the manufacturer has the length of its array. -/
def Record.Fits (r : Record) : Prop := r.manufacturerCode.length = Engine.manufacturerCode.length

theorem length_bytes {r : Record} (h : r.Fits) : r.bytes.length = encodedLength := by
  have code := Engine.manufacturerCode.length_bytes r.manufacturerCode
  rw [h] at code
  simp only [Record.bytes, List.length_append, ScalarField.length_bytes, CodeField.length_bytes,
    Booster.Record.length_bytes, code]
  rfl

theorem fills {r : Record} (h : r.Fits) : Fills (write r) 0 r.bytes := by
  have code : Engine.manufacturerCode.offset +
      (Engine.manufacturerCode.bytes r.manufacturerCode).length = efficiency.offset := by
    rw [FixedArray.length_bytes, h]
    rfl
  exact (capacity.fills _).append rfl ((numCylinders.fills _).append rfl
    ((manufacturerCode.fills_from (by rw [h]; decide)).append code ((efficiency.fills _).append rfl
      ((booleanType.fills _).append rfl (Booster.fills _).nested))))

theorem reads {r : Record} (h : r.Fits) : Reads read 0 r.bytes r := by
  have code : Engine.manufacturerCode.offset +
      (Engine.manufacturerCode.bytes r.manufacturerCode).length = efficiency.offset := by
    rw [FixedArray.length_bytes, h]
    rfl
  have items := Engine.manufacturerCode.reads_from 0 r.manufacturerCode (by rw [h]; decide)
  rw [h] at items
  exact (capacity.reads _).bind rfl ((numCylinders.reads _).bind rfl
    (items.bind code ((efficiency.reads _).bind rfl
      ((booleanType.reads _).bind rfl ((Booster.reads _).nested.map _)))))

end Engine

/-! ## The root block -/

namespace Car

/-- The values of the root block. -/
structure Root where
  serialNumber : UInt64
  modelYear : UInt16
  available : BooleanType
  code : Model
  someNumbers : List UInt32
  vehicleCode : List UInt8
  extras : OptionalExtras.Record
  engine : Engine.Record
  seqNumber : UInt32
  weight : Binary32
  deriving DecidableEq, Repr

/-- Writes what stands before the choices. -/
def writeFront (r : Root) : Access Block Unit := do
  serialNumber.set r.serialNumber
  modelYear.set r.modelYear
  available.set r.available
  code.set r.code
  someNumbers.setFrom 0 r.someNumbers
  vehicleCode.putFrom r.vehicleCode 0 vehicleCode.length

/-- Writes what stands behind the choices. -/
def writeBack (r : Root) : Access Block Unit := do
  Access.focus engine (Engine.write r.engine)
  seqNumber.set r.seqNumber
  weight.set r.weight

/-- Writes the root block. -/
def writeRoot (clearing : Bool) (r : Root) : Access Block Unit := do
  writeFront r
  Access.focus extras (OptionalExtras.write clearing r.extras)
  writeBack r

/-- Reads the root block. -/
def readRoot : Access Block Root := do
  let serialNumber ← serialNumber.get
  let modelYear ← modelYear.get
  let available ← available.get
  let code ← code.get
  let someNumbers ← someNumbers.getFrom 0 someNumbers.length
  let vehicleCode ← vehicleCode.getAll
  let extras ← Access.focus extras OptionalExtras.read
  let engine ← Access.focus engine Engine.read
  let seqNumber ← seqNumber.get
  let weight ← weight.get
  return ⟨serialNumber, modelYear, available, code, someNumbers, vehicleCode, extras, engine,
    seqNumber, weight⟩

/-- The arrays have their lengths. -/
structure Root.Fits (r : Root) : Prop where
  someNumbers : r.someNumbers.length = Car.someNumbers.length
  vehicleCode : r.vehicleCode.length = Car.vehicleCode.length
  engine : r.engine.Fits

/-- The bytes before the choices. -/
def Root.front (r : Root) : List UInt8 :=
  Car.serialNumber.bytes r.serialNumber ++ (Car.modelYear.bytes r.modelYear ++
    (Car.available.bytes r.available ++ (Car.code.bytes r.code ++
      (Car.someNumbers.bytes r.someNumbers ++ Car.vehicleCode.bytes r.vehicleCode))))

/-- The bytes behind the choices. -/
def Root.back (r : Root) : List UInt8 :=
  r.engine.bytes ++ (Car.seqNumber.bytes r.seqNumber ++ Car.weight.bytes r.weight)

/-- The bytes of the root block, over a byte of choices. -/
def Root.bytes (r : Root) (old : UInt8) : List UInt8 :=
  r.front ++ (OptionalExtras.raw.bytes (r.extras.word old) ++ r.back)

section Root
variable {r : Root} (fits : r.Fits)
include fits

theorem length_someNumbers : (someNumbers.bytes r.someNumbers).length = 20 := by
  rw [FixedArray.length_bytes, fits.someNumbers]
  rfl

theorem length_vehicleCode : (vehicleCode.bytes r.vehicleCode).length = 6 := by
  rw [FixedArray.length_bytes, fits.vehicleCode]
  rfl

theorem Root.length_front : r.front.length = 38 := by
  simp only [front, List.length_append, ScalarField.length_bytes, CodeField.length_bytes,
    length_someNumbers fits, length_vehicleCode fits]
  rfl

theorem Root.length_back : r.back.length = 18 := by
  simp only [back, List.length_append, ScalarField.length_bytes, Engine.length_bytes fits.engine]
  rfl

theorem Root.length_bytes (old : UInt8) : (r.bytes old).length = blockLength := by
  simp only [bytes, List.length_append, ScalarField.length_bytes, length_front fits,
    length_back fits]
  rfl

theorem fills_front : Fills (writeFront r) 0 r.front := by
  have numbers : Fills (someNumbers.setFrom 0 r.someNumbers) 12 _ :=
    someNumbers.fills_from (by rw [fits.someNumbers]; decide)
  have letters := vehicleCode.fills_whole (by decide) fits.vehicleCode
  exact (serialNumber.fills _).append rfl ((modelYear.fills _).append rfl
    ((available.fills _).append rfl ((code.fills _).append rfl
      (numbers.append (by rw [length_someNumbers fits]; rfl) letters))))

theorem fills_back : Fills (writeBack r) 39 r.back :=
  (Engine.fills fits.engine).nested.append (by rw [Engine.length_bytes fits.engine]; rfl)
    ((seqNumber.fills _).append rfl (weight.fills _))

/-- The root block is filled; its byte of choices is written over. -/
theorem writeRoot_eq (clearing : Bool) {b : Block}
    (room : b.offset + blockLength ≤ b.memory.length) :
    ∃ old, (clearing = true → old = 0) ∧
      (writeRoot clearing r).outcome b = (.ok (), b.written 0 (r.bytes old)) := by
  have size : blockLength = 57 := rfl
  have front := Root.length_front fits
  have back := Root.length_back fits
  -- Which byte the choices are written over depends on the memory unless they are cleared,
  -- so it is only said that there is one.
  have between : (b.written 0 r.front).offset + 38 + OptionalExtras.encodedLength ≤
      (b.written 0 r.front).memory.length := by
    rw [Block.length_written (by omega)]
    show b.offset + 38 + 1 ≤ _
    omega
  obtain ⟨old, cleared, chosen⟩ := OptionalExtras.write_eq clearing r.extras
    (b := extras.get (b.written 0 r.front)) between
  have one : (OptionalExtras.raw.bytes (r.extras.word old)).length = 1 :=
    OptionalExtras.raw.length_bytes _
  have head : (r.front ++ OptionalExtras.raw.bytes (r.extras.word old)).length = 39 := by
    rw [List.length_append, front, one]
  have middle : (Access.focus extras (OptionalExtras.write clearing r.extras)).outcome
      (b.written 0 r.front) =
        (.ok (), b.written 0 (r.front ++ OptionalExtras.raw.bytes (r.extras.word old))) := by
    have joined : (b.written 0 r.front).written 38 (OptionalExtras.raw.bytes (r.extras.word old)) =
        b.written 0 (r.front ++ OptionalExtras.raw.bytes (r.extras.word old)) :=
      Block.written_append (by rw [front]) (by omega)
    rw [Access.outcome_focus, chosen, ← joined]
    rfl
  have rest := fills_back fits
    (b.written 0 (r.front ++ OptionalExtras.raw.bytes (r.extras.word old))) (by
      rw [Block.length_written (by omega), back]
      show b.offset + 39 + 18 ≤ _
      omega)
  refine ⟨old, cleared, ?_⟩
  calc (writeRoot clearing r).outcome b
      = (.ok (), (b.written 0 (r.front ++ OptionalExtras.raw.bytes (r.extras.word old))).written 39
          r.back) := by
        rw [writeRoot, Access.outcome_bind, fills_front fits b (by omega)]
        simp only [Access.outcome_bind, middle, rest]
    _ = (.ok (), b.written 0 (r.bytes old)) := by
        rw [Block.written_append (by rw [head]) (by omega), List.append_assoc]
        rfl

/-- The root block is read back, whatever byte of choices it was written over. -/
theorem reads_root (old : UInt8) : Reads readRoot 0 (r.bytes old) r := by
  have numbers := someNumbers.reads_from 0 r.someNumbers (by rw [fits.someNumbers]; decide)
  have letters := vehicleCode.reads_whole (by decide) fits.vehicleCode
  rw [fits.someNumbers] at numbers
  have choices : Reads (Access.focus extras OptionalExtras.read) 38 _ r.extras :=
    (OptionalExtras.reads r.extras old).nested
  have figures : Reads (Access.focus engine Engine.read) 39 _ r.engine :=
    (Engine.reads fits.engine).nested
  -- The bytes are regrouped the way they are read, one member after the other.
  rw [Root.bytes, Root.front, Root.back]
  simp only [List.append_assoc]
  exact (serialNumber.reads _).bind rfl ((modelYear.reads _).bind rfl
    ((available.reads _).bind rfl ((code.reads _).bind rfl
      (numbers.bind (by rw [length_someNumbers fits]; rfl)
        (letters.bind (by rw [length_vehicleCode fits]; rfl)
          (choices.bind rfl (figures.bind (by rw [Engine.length_bytes fits.engine]; rfl)
            ((seqNumber.reads _).bind rfl ((weight.reads _).map _)))))))))

end Root

/-! ## Groups -/

namespace FuelFigures

/-- The values of a fuel figure. -/
structure Record where
  speed : UInt16
  mpg : Binary32
  usageDescription : List UInt8
  deriving DecidableEq, Repr

/-- Enters the next element, and writes a fuel figure. -/
def write (r : Record) : Access Cursor Unit := do
  Cursor.inNext do
    speed.set r.speed
    mpg.set r.mpg
  Access.focus Cursor.messagePart (usageDescription.put r.usageDescription)

/-- Enters the next element, and reads a fuel figure; `spare` is how much longer than the
data its destination is. -/
def read (spare : Nat) : Access Cursor Record := do
  let (speed, mpg) ← Cursor.inNext do
    let speed ← speed.get
    let mpg ← mpg.get
    return (speed, mpg)
  Access.focus Cursor.messagePart do
    let usageDescription ← usageDescription.read spare
    return { speed, mpg, usageDescription }

def Record.bytes (r : Record) : List UInt8 :=
  FuelFigures.speed.bytes r.speed ++ FuelFigures.mpg.bytes r.mpg ++
    FuelFigures.usageDescription.bytes r.usageDescription

/-- The length of the data fits its word. -/
def Record.Fits (r : Record) : Prop := r.usageDescription.length ≤ 255

instance (r : Record) : Decidable r.Fits :=
  inferInstanceAs (Decidable (r.usageDescription.length ≤ 255))

theorem length_bytes (r : Record) : r.bytes.length = 6 + 1 + r.usageDescription.length := by
  simp only [Record.bytes, List.length_append, ScalarField.length_bytes, VarData.length_bytes,
    Scalar.width]
  omega

theorem emits {r : Record} (h : r.Fits) :
    EmitsElement (write r) fuelFigures.blockLength r.bytes :=
  (EmitsElement.ofBlock ((speed.fills _).append rfl (mpg.fills _)) rfl).append
    (usageDescription.emits h)

theorem takes {r : Record} (h : r.Fits) (spare : Nat) :
    TakesElement (read spare) fuelFigures.blockLength r.bytes r := by
  have block : Reads (do
      let speed ← speed.get
      let mpg ← mpg.get
      return (speed, mpg)) 0 _ (r.speed, r.mpg) :=
    (speed.reads _).bind rfl ((mpg.reads _).map _)
  exact (TakesElement.ofBlock block rfl).bind ((usageDescription.takes h spare).map _)

end FuelFigures

namespace PerformanceFigures

namespace Acceleration

/-- The values of an acceleration. -/
structure Record where
  mph : UInt16
  seconds : Binary32
  deriving DecidableEq, Repr

/-- Enters the next element, and writes an acceleration. -/
def write (r : Record) : Access Cursor Unit :=
  Cursor.inNext do
    mph.set r.mph
    seconds.set r.seconds

/-- Enters the next element, and reads an acceleration. -/
def read : Access Cursor Record :=
  Cursor.inNext do
    let mph ← mph.get
    let seconds ← seconds.get
    return { mph, seconds }

def Record.bytes (r : Record) : List UInt8 :=
  Acceleration.mph.bytes r.mph ++ Acceleration.seconds.bytes r.seconds

theorem emits (r : Record) : EmitsElement (write r) acceleration.blockLength r.bytes :=
  .ofBlock ((mph.fills _).append rfl (seconds.fills _)) rfl

theorem takes (r : Record) : TakesElement read acceleration.blockLength r.bytes r :=
  .ofBlock ((mph.reads _).bind rfl ((seconds.reads _).map _)) rfl

end Acceleration

/-- The values of a performance figure. -/
structure Record where
  octaneRating : UInt8
  accelerations : List Acceleration.Record
  deriving DecidableEq, Repr

/-- Enters the next element, and writes a performance figure. -/
def write (r : Record) : Access Cursor Unit := do
  Cursor.inNext (octaneRating.set r.octaneRating)
  Access.focus Cursor.messagePart (acceleration.writeAll Acceleration.write r.accelerations)

/-- Enters the next element, and reads a performance figure. -/
def read : Access Cursor Record := do
  let octaneRating ← Cursor.inNext octaneRating.get
  Access.focus Cursor.messagePart do
    let accelerations ← acceleration.readAll Acceleration.read
    return { octaneRating, accelerations }

def Record.bytes (r : Record) : List UInt8 :=
  PerformanceFigures.octaneRating.bytes r.octaneRating ++
    (acceleration.header r.accelerations.length ++
      r.accelerations.flatMap Acceleration.Record.bytes)

theorem length_bytes (r : Record) : r.bytes.length = 1 + 3 + 6 * r.accelerations.length := by
  have each (a : Acceleration.Record) : a.bytes.length = 6 := rfl
  have all : (r.accelerations.flatMap Acceleration.Record.bytes).length =
      6 * r.accelerations.length :=
    calc (r.accelerations.flatMap Acceleration.Record.bytes).length
        = (r.accelerations.map fun a => a.bytes.length).sum := List.length_flatMap
      _ = r.accelerations.length * 6 := by
          simp only [each, List.map_const', List.sum_replicate_nat]
      _ = 6 * r.accelerations.length := Nat.mul_comm _ _
  simp only [Record.bytes, List.length_append, ScalarField.length_bytes, GroupLayout.length_header,
    Scalar.width, all]
  omega

/-- The number of accelerations fits its word. -/
def Record.Fits (r : Record) : Prop := r.accelerations.length ≤ 255

instance (r : Record) : Decidable r.Fits :=
  inferInstanceAs (Decidable (r.accelerations.length ≤ 255))

theorem acceleration_standard : acceleration.Standard := ⟨rfl, rfl, rfl, by decide⟩

theorem emits {r : Record} (h : r.Fits) :
    EmitsElement (write r) performanceFigures.blockLength r.bytes :=
  (EmitsElement.ofBlock (octaneRating.fills _) rfl).append
    (GroupLayout.emits acceleration_standard (fun a _ => Acceleration.emits a) h)

theorem takes {r : Record} (h : r.Fits) :
    TakesElement read performanceFigures.blockLength r.bytes r :=
  (TakesElement.ofBlock (octaneRating.reads _) rfl).bind
    ((GroupLayout.takes acceleration_standard (fun a _ => Acceleration.takes a) h).map _)

end PerformanceFigures

end Car

end Flyweight
