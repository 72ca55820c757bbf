import Flyweight.Wire.Message

/- The flyweights of the car schema.

   A car has a root block of 57 bytes, two groups, one of which nests a third, and
   two pieces of variable-length data. A heartbeat has a root block alone. Offsets
   are those of the schema. -/

namespace Flyweight

open Wire

/-! ## Enumerations -/

/-- A truth value. -/
inductive BooleanType where
  | f
  | t
  deriving DecidableEq, Repr

instance : Enumeration BooleanType where
  name := "BooleanType"
  variants := [.f, .t]
  label
    | .f => "F"
    | .t => "T"
  code
    | .f => 0
    | .t => 1
  mem_variants v := by cases v <;> decide
  code_injective v w := by cases v <;> cases w <;> decide

/-- The model of a car. -/
inductive Model where
  | a
  | b
  | c
  deriving DecidableEq, Repr

instance : Enumeration Model where
  name := "Model"
  variants := [.a, .b, .c]
  label
    | .a => "A"
    | .b => "B"
    | .c => "C"
  code
    | .a => 65
    | .b => 66
    | .c => 67
  mem_variants v := by cases v <;> decide
  code_injective v w := by cases v <;> cases w <;> decide

/-- What drives a booster. -/
inductive BoostType where
  | turbo
  | supercharger
  | nitrous
  | kers
  deriving DecidableEq, Repr

instance : Enumeration BoostType where
  name := "BoostType"
  variants := [.turbo, .supercharger, .nitrous, .kers]
  label
    | .turbo => "Turbo"
    | .supercharger => "Supercharger"
    | .nitrous => "Nitrous"
    | .kers => "Kers"
  code
    | .turbo => 84
    | .supercharger => 83
    | .nitrous => 78
    | .kers => 75
  mem_variants v := by cases v <;> decide
  code_injective v w := by cases v <;> cases w <;> decide

/-! ## Composites -/

namespace MessageHeader

def encodedLength : Nat := 8
def blockLength : ScalarField UInt16 := { offset := 0 }
def templateId : ScalarField UInt16 := { offset := 2 }
def schemaId : ScalarField UInt16 := { offset := 4 }
def version : ScalarField UInt16 := { offset := 6 }

end MessageHeader

namespace OptionalExtras

def encodedLength : Nat := 1

/-- All the choices at once. -/
def raw : ScalarField UInt8 := { offset := 0 }

/-- Unmakes every choice. -/
def clear : Access Block Unit := raw.set 0

def sunRoof : Choice UInt8 := { bit := 0 }
def sportsPack : Choice UInt8 := { bit := 1 }
def cruiseControl : Choice UInt8 := { bit := 2 }

end OptionalExtras

namespace Booster

def encodedLength : Nat := 2
def boostType : CodeField BoostType := { offset := 0 }
def horsePower : ScalarField UInt8 := { offset := 1 }

end Booster

namespace Engine

def encodedLength : Nat := 10
def capacity : ScalarField UInt16 := { offset := 0 }
def numCylinders : ScalarField UInt8 := { offset := 2 }
def maxRpm : UInt16 := 9000
def manufacturerCode : FixedArray UInt8 := { offset := 3, length := 3 }
def efficiency : ScalarField Int8 := { offset := 6 }
def booleanType : CodeField BooleanType := { offset := 7 }

/-- The booster inside the engine. -/
def booster : Lens Block Block := Block.nested 8

end Engine

/-! ## Messages -/

namespace Car

def blockLength : Nat := 57
def templateId : Int := 1

def serialNumber : ScalarField UInt64 := { offset := 0 }
def modelYear : ScalarField UInt16 := { offset := 8 }
def available : CodeField BooleanType := { offset := 10 }
def code : CodeField Model := { offset := 11 }
def someNumbers : FixedArray UInt32 := { offset := 12, length := 5 }
def vehicleCode : FixedArray UInt8 := { offset := 32, length := 6 }

/-- The choices inside the root block. -/
def extras : Lens Block Block := Block.nested 38

def discountedModel : UInt8 := 67

/-- The engine inside the root block. -/
def engine : Lens Block Block := Block.nested 39

def seqNumber : ScalarField UInt32 := { offset := 49, order := .bigEndian }
def weight : ScalarField Binary32 := { offset := 53 }

def fuelFigures : GroupLayout := { blockLength := 6 }

namespace FuelFigures

def speed : ScalarField UInt16 := { offset := 0 }
def mpg : ScalarField Binary32 := { offset := 2 }
def usageDescription : VarData UInt8 := {}

end FuelFigures

def performanceFigures : GroupLayout := { blockLength := 1 }

namespace PerformanceFigures

def octaneRating : ScalarField UInt8 := { offset := 0 }
def acceleration : GroupLayout := { blockLength := 6 }

namespace Acceleration

def mph : ScalarField UInt16 := { offset := 0 }
def seconds : ScalarField Binary32 := { offset := 2 }

end Acceleration

end PerformanceFigures

def manufacturer : VarData UInt16 := {}
def model : VarData UInt8 := {}

/-- Binds the flyweight to a car. -/
def reset (memory : Memory) (offset : Nat) : Access Message Unit :=
  Message.reset blockLength memory offset

end Car

namespace Heartbeat

def blockLength : Nat := 12
def templateId : Int := 2
def timestamp : ScalarField UInt64 := { offset := 0, order := .bigEndian }
def sequence : ScalarField UInt32 := { offset := 8 }

/-- Binds the flyweight to a heartbeat. -/
def reset (memory : Memory) (offset : Nat) : Access Message Unit :=
  Message.reset blockLength memory offset

end Heartbeat

end Flyweight
