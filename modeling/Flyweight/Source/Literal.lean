import Flyweight.Source.Error

/- Literals of generated source.

   A constant has a literal in every primitive type that holds it without loss
   of range; an integral type holds no constant given as a double. -/

namespace Flyweight

namespace Constant

/-- The greatest finite single-precision number. -/
def greatestSingle : Nat := 0xffffff * Nat.pow 2 104

/-- Whether the primitive type can hold the constant. -/
def fits (c : Constant) (p : Primitive) : Bool :=
  match c, p with
  | .double _, .double => true
  | .double x, .float => !x.isFinite || x.magnitudeAtMost greatestSingle
  | .double _, _ => false
  | .long v, p => integerFits v.toInt p
  | .unsignedLong v, p => integerFits v.toNat p
where
  /-- whether an integer lies in the range of the type -/
  integerFits (n : Int) (p : Primitive) : Bool :=
    match p.range? with
    | some (low, high) => low ≤ n && n ≤ high
    | none => true

/-- The literal of a floating-point type. -/
def floatLiteral (c : Constant) (rustType : String) : String :=
  match c with
  | .double x =>
    if x.isNaN then rustType ++ "::NAN"
    else if x.isFinite then c.text ++ rustType
    else if x.isNegative then rustType ++ "::NEG_INFINITY"
    else rustType ++ "::INFINITY"
  | _ => c.text ++ rustType

/-- The literal of the constant in a primitive type, for the token `name`: types
narrower than a machine word are cast, wider ones carry their type as a suffix. -/
def literal (name : String) (p : Primitive) (c : Constant) : Except SourceError String :=
  if c.fits p then
    .ok <|
      match p with
      | .char | .int8 | .int16 | .uint8 | .uint16 => "(" ++ c.text ++ " as " ++ p.rustType ++ ")"
      | .int32 | .uint32 => c.text
      | .int64 | .uint64 => c.text ++ p.rustType
      | .float | .double => c.floatLiteral p.rustType
  else .error (.invalidConstant name p c)

end Constant

/-- The literal of the constant that a token declares. -/
def Token.literal (t : Token) : Except SourceError String := do
  let e ← t.sourceEncoding
  match e.constant with
  | some c => c.literal t.name e.primitive
  | none => .error (.missingConstant t.signal t.name)

end Flyweight
