import Flyweight.Source.Declaration
import Flyweight.Source.Numeral
import Flyweight.Wire.Block

/- The conversions of a generated enum, as functions.

   Each of the two matches its argument against arms, and the first arm that matches
   answers. A number that no arm matches is refused. -/

namespace Flyweight.Source.Enumeration

/-- The number that the conversion of a variant answers. -/
def value? (e : Enumeration) (path : String) : Option Int :=
  ((e.variants.map Variant.valueArm).find? fun a => a.pattern == path).bind fun a =>
    Numeral.valueOf? a.answer

/-- The variant that the conversion of a number answers. -/
def get (e : Enumeration) (code : Int) : Except Wire.AccessError String :=
  match (e.variants.map Variant.codeArm).find? fun a => Numeral.pattern? a.pattern == some code with
  | some a => .ok a.answer
  | none => .error (.unknownCode code e.typeName)

/-- The enum that is generated for an enumeration with codes of one byte. -/
def ofCoded (ε : Type) [Wire.Enumeration ε] : Source.Enumeration :=
  let variants : List ε := Wire.Enumeration.variants
  ⟨Wire.Enumeration.name ε, .uint8, variants.map fun v =>
    let code := Constant.unsignedLong (Wire.Enumeration.code v).toUInt64
    ⟨Wire.Enumeration.label v, code, "(" ++ code.text ++ " as u8)"⟩⟩

end Flyweight.Source.Enumeration
