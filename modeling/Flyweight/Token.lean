import Flyweight.Encoding
import Flyweight.Signal

/- One node of a schema listed depth first. -/

namespace Flyweight

/-- The schema id of a token that has none. -/
def Token.noId : Int32 := -1

/-- A node of the schema: its role, its name, where its value lies and how the
value is encoded. -/
structure Token where
  signal : Signal
  name : String
  id : Int32 := Token.noId
  offset : UInt64 := 0
  size : UInt64 := 0
  arrayLength : UInt64 := 1
  encoding : Option Encoding := none
  deriving DecidableEq, Repr

/-- Why the encoding of a token cannot be given. -/
inductive TokenError where
  /-- tokens of this role never have an encoding -/
  | noEncoding (signal : Signal) (name : String)
  /-- tokens of this role need an encoding and this one has none -/
  | missingEncoding (signal : Signal) (name : String)
  deriving DecidableEq, Repr

/-- The wording of the error. -/
def TokenError.message : TokenError → String
  | noEncoding signal name => signal.label ++ " token '" ++ name ++ "' does not carry an encoding"
  | missingEncoding signal name => signal.label ++ " token '" ++ name ++ "' is missing its encoding"

namespace Token

/-- The token with an encoding; a size not stated before follows from it, as
primitive width times array length, unless the value is not transmitted. -/
def withEncoding (t : Token) (e : Encoding) : Token :=
  let size :=
    if t.size = 0 ∧ e.presence ≠ .constant then UInt64.ofNat e.primitive.size * t.arrayLength
    else t.size
  { t with size := size, encoding := some e }

/-- The encoding of a token whose role carries one. -/
def requireEncoding (t : Token) : Except TokenError Encoding :=
  if t.signal.carriesEncoding then
    match t.encoding with
    | some e => .ok e
    | none => .error (.missingEncoding t.signal t.name)
  else .error (.noEncoding t.signal t.name)

/-- The primitive type of a token whose role carries an encoding. -/
def primitive (t : Token) : Except TokenError Primitive :=
  t.requireEncoding.map (·.primitive)

/-- The declared constant, if any, of a token whose role carries an encoding. -/
def constant? (t : Token) : Except TokenError (Option Constant) :=
  t.requireEncoding.map (·.constant)

/-- Whether the token's value is fixed by the schema. -/
def isConstant (t : Token) : Bool :=
  match t.encoding with
  | some e => e.presence == .constant
  | none => false

end Token

end Flyweight
