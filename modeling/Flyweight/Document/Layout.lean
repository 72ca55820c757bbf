import Flyweight.Document.Datum
import Flyweight.Schema

/- How a schema is laid out as a document.

   Reading is stated once for every format: a `Reading` tells how a format
   understands a value as text, a number, a list or a record. Writing lists a
   schema as a datum. Fields keep the order of declaration. -/

namespace Flyweight

/-- How the values `ν` of a document format are understood. -/
structure Reading (ν : Type) where
  text : ν → Option String
  natural : ν → Option UInt64
  integer : ν → Option Int32
  /-- the name of one of a fixed set of words -/
  symbol : ν → Option String
  items : ν → Option (List ν)
  /-- the fields of a record that have one of the given names; a record that has
  one of them twice is refused -/
  fields : List String → ν → Option (List (String × ν))
  /-- whether an optional value is left out explicitly -/
  isAbsent : ν → Bool
  constant : ν → Option Constant

namespace Reading

variable {ν α : Type} (r : Reading ν)

/-- A field that has to be present. -/
def required (fields : List (String × ν)) (name : String) (read : ν → Option α) : Option α :=
  (fields.lookup name).bind read

/-- A field that has a value of its own when it is not present. -/
def defaulted (fields : List (String × ν)) (name : String) (absent : α) (read : ν → Option α) :
    Option α :=
  match fields.lookup name with
  | some v => read v
  | none => some absent

/-- A field whose value may be left out explicitly too. -/
def optional (fields : List (String × ν)) (name : String) (read : ν → Option α) :
    Option (Option α) :=
  match fields.lookup name with
  | some v => if r.isAbsent v then some none else (read v).map some
  | none => some none

/-- A list of values of one kind. -/
def listOf (read : ν → Option α) (v : ν) : Option (List α) := (r.items v).bind (·.mapM read)

/-- A role. -/
def signal (v : ν) : Option Signal := (r.symbol v).bind Signal.ofName?

/-- A primitive type. -/
def primitive (v : ν) : Option Primitive := (r.symbol v).bind Primitive.ofName?

/-- A presence. -/
def presence (v : ν) : Option Presence := (r.symbol v).bind Presence.ofName?

/-- A byte order. -/
def byteOrder (v : ν) : Option ByteOrder := (r.symbol v).bind ByteOrder.ofName?

/-- An encoding. -/
def encoding (v : ν) : Option Encoding := do
  let fields ← r.fields ["primitive-type", "presence", "byte-order", "const-val"] v
  return {
    primitive := ← required fields "primitive-type" r.primitive
    presence := ← defaulted fields "presence" .required r.presence
    byteOrder := ← defaulted fields "byte-order" .littleEndian r.byteOrder
    constant := ← r.optional fields "const-val" r.constant }

/-- A token. -/
def token (v : ν) : Option Token := do
  let fields ← r.fields ["signal", "name", "id", "offset", "size", "array-length", "encoding"] v
  return {
    signal := ← required fields "signal" r.signal
    name := ← required fields "name" r.text
    id := ← defaulted fields "id" Token.noId r.integer
    offset := ← defaulted fields "offset" 0 r.natural
    size := ← defaulted fields "size" 0 r.natural
    arrayLength := ← defaulted fields "array-length" 1 r.natural
    encoding := ← r.optional fields "encoding" r.encoding }

/-- A token list. -/
def tokens (v : ν) : Option (List Token) := r.listOf r.token v

/-- A schema. -/
def schema (v : ν) : Option Schema := do
  let fields ← r.fields ["package", "header", "types", "messages"] v
  return {
    package := ← required fields "package" r.text
    header := ← required fields "header" r.tokens
    types := ← defaulted fields "types" [] (r.listOf r.tokens)
    messages := ← defaulted fields "messages" [] (r.listOf r.tokens) }

end Reading

/-- The constant as a value of a document. -/
def Constant.toDatum : Constant → Datum
  | .long v => .int v.toInt
  | .unsignedLong v => .int v.toNat
  | .double x => .double x

/-- The encoding as a record; without a constant there is no field for one. -/
def Encoding.toDatum (e : Encoding) : Datum :=
  .record ([("primitive-type", .text e.primitive.name), ("presence", .text e.presence.name),
    ("byte-order", .text e.byteOrder.name)] ++
    match e.constant with
    | some c => [("const-val", c.toDatum)]
    | none => [])

/-- The token as a record; without an encoding there is no field for one. -/
def Token.toDatum (t : Token) : Datum :=
  .record ([("signal", .text t.signal.name), ("name", .text t.name), ("id", .int t.id.toInt),
    ("offset", .int t.offset.toNat), ("size", .int t.size.toNat),
    ("array-length", .int t.arrayLength.toNat)] ++
    match t.encoding with
    | some e => [("encoding", e.toDatum)]
    | none => [])

/-- A token list as a list of records. -/
def tokensDatum (tokens : List Token) : Datum := .list (tokens.map Token.toDatum)

/-- The schema as a record. -/
def Schema.toDatum (s : Schema) : Datum :=
  .record [("package", .text s.package), ("header", tokensDatum s.header),
    ("types", .list (s.types.map tokensDatum)), ("messages", .list (s.messages.map tokensDatum))]

namespace Datum

/-- The fields of a record with the given names; none if one occurs twice. -/
def knownFields (names : List String) (fields : List (String × Datum)) :
    Option (List (String × Datum)) :=
  let known := fields.filter fun f => names.contains f.1
  if (known.map (·.1)).Nodup then some known else none

/-- How JSON values are understood: a record may also be the list of its values
in order of declaration, the last ones left out, and a word may also be a record
with that word as its only name and null as its value. -/
def reading : Reading Datum where
  text
    | text s => some s
    | _ => none
  natural
    | int n => if 0 ≤ n ∧ n < 0x10000000000000000 then some (UInt64.ofNat n.toNat) else none
    | _ => none
  integer
    | int n => if -0x80000000 ≤ n ∧ n < 0x80000000 then some (Int32.ofInt n) else none
    | _ => none
  symbol
    | text s => some s
    | record [(s, null)] => some s
    | _ => none
  items
    | list items => some items
    | _ => none
  fields names
    | record fields => knownFields names fields
    | list items => if items.length ≤ names.length then some (names.zip items) else none
    | _ => none
  isAbsent
    | null => true
    | _ => false
  constant
    | int n => Constant.ofInt? n
    | double x => some (.double x)
    | _ => none

end Datum

end Flyweight
