import Flyweight.ByteOrder
import Flyweight.Constant
import Flyweight.Primitive

/- How the value of a token is encoded. -/

namespace Flyweight

/-- Whether a value is transmitted, may be absent, or is fixed by the schema. -/
inductive Presence where
  | required
  | optional
  | constant
  deriving DecidableEq, Repr, Inhabited

namespace Presence

/-- The presence's name in a schema document. -/
def name : Presence → String
  | required => "required"
  | optional => "optional"
  | constant => "constant"

/-- The presence that a document calls `text`. -/
def ofName? (text : String) : Option Presence :=
  [required, optional, constant].find? (fun p => p.name == text)

end Presence

/-- The encoding of a value; unless stated otherwise the value is transmitted,
least significant byte first, and has no constant. -/
structure Encoding where
  primitive : Primitive
  presence : Presence := .required
  byteOrder : ByteOrder := .littleEndian
  constant : Option Constant := none
  deriving DecidableEq, Repr

namespace Encoding

/-- The encoding of a value that the schema fixes. -/
def ofConstant (primitive : Primitive) (value : Constant) : Encoding :=
  { primitive, presence := .constant, constant := some value }

end Encoding

end Flyweight
