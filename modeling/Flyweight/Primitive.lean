/- The primitive types of the wire format: their widths, their names in a
   schema, and the scalar type of generated code that carries them. -/

namespace Flyweight

/-- A primitive type of the wire format. -/
inductive Primitive where
  | char
  | int8
  | int16
  | int32
  | int64
  | uint8
  | uint16
  | uint32
  | uint64
  | float
  | double
  deriving DecidableEq, Repr, Inhabited

namespace Primitive

/-- Encoded width in bytes. -/
def size : Primitive → Nat
  | char | int8 | uint8 => 1
  | int16 | uint16 => 2
  | int32 | uint32 | float => 4
  | int64 | uint64 | double => 8

/-- The type's name in a schema document and in messages to the user. -/
def name : Primitive → String
  | char => "char"
  | int8 => "int8"
  | int16 => "int16"
  | int32 => "int32"
  | int64 => "int64"
  | uint8 => "uint8"
  | uint16 => "uint16"
  | uint32 => "uint32"
  | uint64 => "uint64"
  | float => "float"
  | double => "double"

/-- Every primitive type. -/
def all : List Primitive :=
  [char, int8, int16, int32, int64, uint8, uint16, uint32, uint64, float, double]

/-- The type that a document calls `text`. -/
def ofName? (text : String) : Option Primitive := all.find? (fun p => p.name == text)

/-- Whether values are read as unsigned integers; a character is a byte. -/
def isUnsigned : Primitive → Bool
  | char | uint8 | uint16 | uint32 | uint64 => true
  | _ => false

/-- Whether values are integers. -/
def isIntegral : Primitive → Bool
  | float | double => false
  | _ => true

/-- The scalar type that carries the primitive in generated Rust. -/
def rustType : Primitive → String
  | char => "u8"
  | int8 => "i8"
  | int16 => "i16"
  | int32 => "i32"
  | int64 => "i64"
  | uint8 => "u8"
  | uint16 => "u16"
  | uint32 => "u32"
  | uint64 => "u64"
  | float => "f32"
  | double => "f64"

/-- The least and the greatest integer of an integral type. -/
def range? : Primitive → Option (Int × Int)
  | char | uint8 => some (0, 0xff)
  | int8 => some (-0x80, 0x7f)
  | int16 => some (-0x8000, 0x7fff)
  | uint16 => some (0, 0xffff)
  | int32 => some (-0x80000000, 0x7fffffff)
  | uint32 => some (0, 0xffffffff)
  | int64 => some (-0x8000000000000000, 0x7fffffffffffffff)
  | uint64 => some (0, 0xffffffffffffffff)
  | float | double => none

/-- Exactly the integral types have a range. -/
theorem isSome_range? (p : Primitive) : p.range?.isSome = p.isIntegral := by cases p <;> rfl

end Primitive

end Flyweight
