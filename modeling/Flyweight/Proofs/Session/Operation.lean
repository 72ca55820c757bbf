import Flyweight.Car
import Flyweight.Proofs.Wire.Use

/- Sessions: a flyweight over a message, and the cursors that are open over its groups.

   A caller goes through the innermost open cursor, or through the message when none is
   open: whatever a cursor was opened on is out of reach until the cursor is closed. Every
   cursor has a copy of the place where the message starts; the memory and the position
   are those of the message, so what one of them writes or moves, all of them see.

   The tables say which members, data and groups each flyweight of the schema has. -/

namespace Flyweight

open Wire

/-! ## The flyweights of the schema -/

/-- The messages. -/
inductive Template where
  | car
  | heartbeat
  deriving DecidableEq, Repr

/-- The groups. -/
inductive Group where
  | fuelFigures
  | performanceFigures
  | acceleration
  deriving DecidableEq, Repr

/-- What a caller goes through: a message, or a cursor over a group. -/
inductive Part where
  | message (t : Template)
  | cursor (g : Group)
  deriving DecidableEq, Repr

/-- Variable-length data, with the type of its length. -/
structure Data where
  α : Type
  [word : Word α]
  data : VarData α

attribute [instance] Data.word

def OptionalExtras.members : List Member :=
  [.scalar UInt8 raw, .choice UInt8 sunRoof, .choice UInt8 sportsPack, .choice UInt8 cruiseControl]

def Booster.members : List Member := [.coded BoostType boostType, .scalar UInt8 horsePower]

def Engine.members : List Member :=
  [.scalar UInt16 capacity, .scalar UInt8 numCylinders, .array UInt8 manufacturerCode,
    .scalar Int8 efficiency, .coded BooleanType booleanType] ++ Booster.members.map (.nested 8)

def Car.members : List Member :=
  [.scalar UInt64 serialNumber, .scalar UInt16 modelYear, .coded BooleanType available,
    .coded Model code, .array UInt32 someNumbers, .array UInt8 vehicleCode] ++
  OptionalExtras.members.map (.nested 38) ++ Engine.members.map (.nested 39) ++
  [.scalar UInt32 seqNumber, .scalar Binary32 weight]

/-- The length of the root block. -/
def Template.blockLength : Template → Nat
  | .car => Car.blockLength
  | .heartbeat => Heartbeat.blockLength

def Group.layout : Group → GroupLayout
  | .fuelFigures => Car.fuelFigures
  | .performanceFigures => Car.performanceFigures
  | .acceleration => Car.PerformanceFigures.acceleration

/-- The members of the block. -/
def Part.members : Part → List Member
  | .message .car => Car.members
  | .message .heartbeat => [.scalar UInt64 Heartbeat.timestamp, .scalar UInt32 Heartbeat.sequence]
  | .cursor .fuelFigures =>
    [.scalar UInt16 Car.FuelFigures.speed, .scalar Binary32 Car.FuelFigures.mpg]
  | .cursor .performanceFigures => [.scalar UInt8 Car.PerformanceFigures.octaneRating]
  | .cursor .acceleration =>
    [.scalar UInt16 Car.PerformanceFigures.Acceleration.mph,
      .scalar Binary32 Car.PerformanceFigures.Acceleration.seconds]

/-- The groups that are opened at the position. -/
def Part.groups : Part → List Group
  | .message .car => [.fuelFigures, .performanceFigures]
  | .cursor .performanceFigures => [.acceleration]
  | _ => []

/-- The data that is read and written at the position. -/
def Part.data : Part → List Data
  | .message .car => [⟨UInt16, Car.manufacturer⟩, ⟨UInt8, Car.model⟩]
  | .cursor .fuelFigures => [⟨UInt8, Car.FuelFigures.usageDescription⟩]
  | _ => []

theorem Group.layout_standard (g : Group) : g.layout.Standard := by
  cases g with
  | fuelFigures => exact ⟨rfl, rfl, rfl, by decide⟩
  | performanceFigures => exact ⟨rfl, rfl, rfl, by decide⟩
  | acceleration => exact ⟨rfl, rfl, rfl, by decide⟩

/-! ## Operations -/

/-- What a caller does with a member or with data; `τ` is the type of the slice that is
filled, `β` that of the answer. -/
inductive Part.Use (p : Part) : Type → Type → Type 1 where
  | member {member : Member} (offered : member ∈ p.members) (use : member.Use τ β) : Use p τ β
  | length (d : Data) (offered : d ∈ p.data) : Use p Unit Nat
  | get (d : Data) (offered : d ∈ p.data) : Use p (List UInt8) Nat
  | put (d : Data) (offered : d ∈ p.data) (source : List UInt8) : Use p Unit Unit

/-- The access that a use stands for, by way of where a flyweight has its block and its
message. -/
def Part.Use.access (block : Lens σ Block) (message : Lens σ Message) :
    Part.Use p τ β → Access (σ × τ) β
  | .member _ use => Access.focus (block.beside _) use.access
  | .length d _ => Access.focus (message.beside _) (Access.focus (.first _ _) d.data.length)
  | .get d _ => Access.focus (message.beside _) d.data.get
  | .put d _ source => Access.focus (message.beside _) (Access.focus (.first _ _) (d.data.put source))

/-- The operations of a flyweight. -/
inductive Op : Part → Type → Type → Type 1 where
  | use (u : p.Use τ β) : Op p τ β
  | setPosition (position : Nat) : Op p Unit Unit
  | openAs (g : Group) (offered : g ∈ p.groups) (how : Opening) : Op p Unit Unit
  | reset (memory : Memory) (offset : Nat) : Op (.message t) Unit Unit
  | next : Op (.cursor g) Unit Unit
  | close : Op (.cursor g) Unit Unit

/-- Whether the operation takes a position as it is told. -/
def Op.placesPosition : Op p τ β → Bool
  | .setPosition _ | .reset _ _ => true
  | _ => false

def Op.isNext : Op p τ β → Bool
  | .next => true
  | _ => false

/-! ## Sessions -/

/-- A cursor that is open; `entered` counts the elements that were entered since it was
opened. -/
structure OpenCursor where
  group : Group
  cursor : Cursor
  entered : Nat
  deriving DecidableEq, Repr

/-- A flyweight over a message, and the open cursors, innermost first. -/
structure Session (t : Template) where
  message : Message := {}
  cursors : List OpenCursor := []
  deriving DecidableEq, Repr

namespace Session

/-- What the caller goes through. -/
def part : Session t → Part
  | ⟨_, []⟩ => .message t
  | ⟨_, c :: _⟩ => .cursor c.group

/-- The memory and the position are the same for all; where the message starts, each has
its own copy of. -/
def sharing (memory : Memory) (position : Nat) (s : Session t) : Session t where
  message := { s.message with memory, position }
  cursors := s.cursors.map fun c =>
    { c with cursor := { c.cursor with message := { c.cursor.message with memory, position } } }

/-- The session after its innermost cursor has become `c`. -/
def through (m : Message) (c : OpenCursor) (rest : List OpenCursor) : Session t :=
  sharing c.cursor.message.memory c.cursor.message.position ⟨m, c :: rest⟩

/-- The session with a cursor over a group that was opened in it. -/
def withCursor (s : Session t) (g : Group) (cursor : Cursor) : Session t :=
  { s with cursors := ⟨g, cursor, 0⟩ :: s.cursors }

/-- An operation on a message without an open cursor. -/
def onMessage (m : Message) : Op (.message t) τ β → τ → Except AccessError β × Session t × τ
  | .use u, slice =>
    match (u.access Message.root { get := fun m => m, put := fun m _ => m }).outcome (m, slice) with
    | (result, m, slice) => (result, ⟨m, []⟩, slice)
  | .setPosition position, slice =>
    match (Message.setPosition position).outcome m with
    | (result, m) => (result, ⟨m, []⟩, slice)
  | .openAs g _ how, slice =>
    match (g.layout.openAs how).outcome m with
    | (.ok cursor, m) => (.ok (), withCursor ⟨m, []⟩ g cursor, slice)
    | (.error e, m) => (.error e, ⟨m, []⟩, slice)
  | .reset memory offset, slice =>
    match (Message.reset t.blockLength memory offset).outcome m with
    | (result, m) => (result, ⟨m, []⟩, slice)

/-- An operation through the innermost cursor. -/
def onCursor (m : Message) (c : OpenCursor) (rest : List OpenCursor) :
    Op (.cursor c.group) τ β → τ → Except AccessError β × Session t × τ
  | .use u, slice =>
    match (u.access Cursor.block Cursor.messagePart).outcome (c.cursor, slice) with
    | (result, cursor, slice) => (result, through m { c with cursor } rest, slice)
  | .setPosition position, slice =>
    match (Access.focus Cursor.messagePart (Message.setPosition position)).outcome c.cursor with
    | (result, cursor) => (result, through m { c with cursor } rest, slice)
  | .openAs g _ how, slice =>
    match (Access.focus Cursor.messagePart (g.layout.openAs how)).outcome c.cursor with
    | (.ok inner, cursor) => (.ok (), (through m { c with cursor } rest).withCursor g inner, slice)
    | (.error e, cursor) => (.error e, through m { c with cursor } rest, slice)
  | .next, slice =>
    match Cursor.next.outcome c.cursor with
    | (.ok (), cursor) =>
      (.ok (), through m { c with cursor, entered := c.entered + 1 } rest, slice)
    | (.error e, cursor) => (.error e, through m { c with cursor } rest, slice)
  | .close, slice => (.ok (), ⟨m, rest⟩, slice)

/-- Performs an operation, which may fill a slice of the caller. -/
def perform : (s : Session t) → Op s.part τ β → τ → Except AccessError β × Session t × τ
  | ⟨m, []⟩, op, slice => onMessage m op slice
  | ⟨m, c :: rest⟩, op, slice => onCursor m c rest op slice

/-- The sessions that come about from an unbound flyweight by operations, failing ones
among them, while others may write in the memory. -/
inductive Reachable : Session t → Prop where
  | unbound : Reachable {}
  | performed {s s' : Session t} (reached : Reachable s) (op : Op s.part τ β) (slice : τ)
    (result : (s.perform op slice).2.1 = s') : Reachable s'
  | rewritten {s s' : Session t} (reached : Reachable s) (memory : Memory)
    (size : memory.length = s.message.memory.length)
    (result : s.sharing memory s.message.position = s') : Reachable s'

end Session

end Flyweight
