/- The order of the bytes of a multi-byte value. -/

namespace Flyweight

/-- Which end of a value comes first on the wire. -/
inductive ByteOrder where
  | littleEndian
  | bigEndian
  deriving DecidableEq, Repr, Inhabited

namespace ByteOrder

/-- The order's name in a schema document. -/
def name : ByteOrder → String
  | littleEndian => "little-endian"
  | bigEndian => "big-endian"

/-- The order that a document calls `text`. -/
def ofName? (text : String) : Option ByteOrder :=
  [littleEndian, bigEndian].find? (fun o => o.name == text)

/-- The order as generated code names it. -/
def expression : ByteOrder → String
  | littleEndian => "ByteOrder::LittleEndian"
  | bigEndian => "ByteOrder::BigEndian"

end ByteOrder

end Flyweight
