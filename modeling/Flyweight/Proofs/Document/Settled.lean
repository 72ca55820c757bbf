import Flyweight.Document
import Flyweight.Proofs.Document.Finite
import Flyweight.Proofs.Document.Spelling

/- What a JSON document keeps of a schema.

   A constant in a document is a bare number, so a document does not tell the two carriers of
   an integer apart, and a number that is not finite is written as null, which is read as no
   constant. `Schema.settled` makes these two changes to a schema. It is what is read of a
   schema that was written, and it changes nothing in a schema that was read. -/

namespace Flyweight

/-! ## Constants of a schema -/

/-- Replaces the constant of an encoding, or drops it. -/
def Encoding.mapConstant (f : Constant → Option Constant) (e : Encoding) : Encoding :=
  { e with constant := e.constant.bind f }

/-- Replaces the constant of a token, or drops it. -/
def Token.mapConstant (f : Constant → Option Constant) (t : Token) : Token :=
  { t with encoding := t.encoding.map (Encoding.mapConstant f) }

@[simp] theorem Token.mapConstant_signal (f : Constant → Option Constant) (t : Token) :
    (t.mapConstant f).signal = t.signal := rfl

@[simp] theorem Token.mapConstant_name (f : Constant → Option Constant) (t : Token) :
    (t.mapConstant f).name = t.name := rfl

@[simp] theorem Token.mapConstant_encoding (f : Constant → Option Constant) (t : Token) :
    (t.mapConstant f).encoding = t.encoding.map (Encoding.mapConstant f) := rfl

/-- Replaces the constants of a schema, or drops them. -/
def Schema.mapConstants (f : Constant → Option Constant) (s : Schema) : Schema where
  package := s.package
  header := s.header.map (Token.mapConstant f)
  types := s.types.map (List.map (Token.mapConstant f))
  messages := s.messages.map (List.map (Token.mapConstant f))

/-- The constant that the token declares, if it declares one. -/
def Token.declared (t : Token) : Option Constant := t.encoding.bind Encoding.constant

namespace Constant

/-- The constant with an integer in the signed carrier, if it fits that. -/
def canonical : Constant → Constant
  | long v => long v
  | unsignedLong v =>
    if v.toNat < 0x8000000000000000 then long (Int64.ofNat v.toNat) else unsignedLong v
  | double x => double x

/-- Whether the constant is an integer or a finite number. -/
def isFinite : Constant → Bool
  | double x => x.isFinite
  | _ => true

/-- What a document keeps of the constant. -/
def settled (c : Constant) : Option Constant := if c.isFinite then some c.canonical else none

end Constant

/-- What a document keeps of the schema: an unsigned constant that fits the signed carrier is
carried by that, and a constant that is not finite is left out. -/
def Schema.settled (s : Schema) : Schema := s.mapConstants Constant.settled

namespace Json

end Json

/-! ## Reading a schema that was written -/

namespace Datum

end Datum

end Flyweight
