import Flyweight.Constant
import Flyweight.Encoding
import Flyweight.Identifier

/- What a generated unit declares.

   A unit declares one enum, one fixed-size flyweight or one message; a message
   comes with the cursors of its groups. Names are those of the schema unless the
   field is called a type name. The text of a declaration is a function of it
   (`Declaration.block`), so that statements about generated code can be made
   here. -/

namespace Flyweight.Source

/-- A place in the buffer: an offset from the place that the expression `base`
denotes. -/
structure Place where
  base : String
  offset : Nat
  deriving DecidableEq, Repr

/-- The expression for the place; an offset of zero is not written. -/
def Place.expression (p : Place) : String :=
  if p.offset = 0 then p.base else s!"{p.base} + {p.offset}"

/-- The place of a flyweight's own bytes. -/
def ownPlace : String := "self.offset"

/-- A number on the wire: its place, its type and its byte order. -/
structure Slot where
  place : Place
  primitive : Primitive
  order : ByteOrder
  deriving DecidableEq, Repr

/-- Who owns a group or variable-length data: a message, or an element of a
group. -/
inductive OwnerKind where
  | message
  | group
  deriving DecidableEq, Repr

/-- An owner of groups and variable-length data. -/
structure Owner where
  kind : OwnerKind
  typeName : String
  deriving DecidableEq, Repr

namespace Owner

/-- The expression for the offset that every position is relative to. -/
def base (o : Owner) : String :=
  match o.kind with
  | .message => "self.offset"
  | .group => "self.base_offset"

/-- The expression that lends the position to a group. -/
def position (o : Owner) : String :=
  match o.kind with
  | .message => "&mut self.position"
  | .group => "&mut *self.position"

end Owner

/-- The accessors for one element of a schema. -/
inductive Member where
  /-- a value that the schema fixes -/
  | fixedValue (name : String) (primitive : Primitive) (literal : String)
  | scalar (name : String) (slot : Slot)
  | array (name : String) (slot : Slot) (length : Nat)
  | enumeration (name : String) (slot : Slot) (enumName : String)
  /-- a set or composite, reached through a flyweight of its own -/
  | nested (name : String) (place : Place) (typeName : String)
  /-- the word of a set as a whole -/
  | word (primitive : Primitive) (order : ByteOrder)
  | choice (name : String) (bit : Nat) (primitive : Primitive) (order : ByteOrder)
  | group (name : String) (owner : Owner) (typeName : String)
  /-- bytes behind a length; the places count from where the length's header
  starts -/
  | varData (name : String) (owner : Owner) (lengthOffset : Nat) (primitive : Primitive)
      (order : ByteOrder) (dataOffset : Nat)
  deriving DecidableEq, Repr

/-- The cursor over the elements of a group. The header fields lie relative to
the start of the group's header. -/
structure GroupCursor where
  typeName : String
  blockLength : Nat
  headerSize : Nat
  blockLengthSlot : Slot
  countSlot : Slot
  members : List Member
  deriving DecidableEq, Repr

/-- A message, with the cursors of its groups at every depth. -/
structure MessageFlyweight where
  typeName : String
  blockLength : Nat
  templateId : Int
  members : List Member
  cursors : List GroupCursor
  deriving DecidableEq, Repr

/-- A set, a composite or the message header. -/
structure FixedFlyweight where
  typeName : String
  encodedLength : Nat
  members : List Member
  deriving DecidableEq, Repr

/-- A valid value of an enum. -/
structure Variant where
  typeName : String
  code : Constant
  literal : String
  deriving DecidableEq, Repr

/-- One arm of a match: the text of its pattern and of its answer. -/
structure Arm where
  pattern : String
  answer : String
  deriving DecidableEq, Repr

namespace Variant

/-- The expression for the variant. -/
def path (v : Variant) : String := "Self::" ++ v.typeName

/-- The arm from the variant to its code. -/
def valueArm (v : Variant) : Arm := ⟨v.path, v.literal⟩

/-- The arm from the code to the variant. -/
def codeArm (v : Variant) : Arm := ⟨v.code.text, v.path⟩

end Variant

/-- An enum. -/
structure Enumeration where
  typeName : String
  primitive : Primitive
  variants : List Variant
  deriving DecidableEq, Repr

/-- What a unit declares. -/
inductive Declaration where
  | enumeration (e : Enumeration)
  | fixed (f : FixedFlyweight)
  | message (m : MessageFlyweight)
  deriving DecidableEq, Repr

/-- The name of the declared type. -/
def Declaration.typeName : Declaration → String
  | enumeration e => e.typeName
  | fixed f => f.typeName
  | message m => m.typeName

end Flyweight.Source
