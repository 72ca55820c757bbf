import Flyweight.Span

/- Why no source can be generated from a token list. -/

namespace Flyweight

/-- Why no source can be generated from a token list. -/
inductive SourceError where
  | token (cause : TokenError)
  | span (cause : SpanError)
  /-- there is nothing where a span was expected -/
  | emptyTokenList (context : String)
  /-- a token of a role that has no place there -/
  | unexpectedSignal (signal : Signal) (name context : String)
  /-- a composite lacks one of its fixed members -/
  | missingToken (context name : String)
  /-- a token whose value the schema fixes has no constant -/
  | missingConstant (signal : Signal) (name : String)
  /-- a constant that its primitive type cannot hold -/
  | invalidConstant (name : String) (primitive : Primitive) (value : Constant)
  /-- a primitive type that the use at hand does not allow -/
  | unsupportedEncoding (name : String) (primitive : Primitive) (usage : String)
  /-- a choice beyond the bits of its set -/
  | choiceBitOutOfRange (name : String) (bit width : Nat)
  deriving DecidableEq, Repr

/-- The wording of the error. -/
def SourceError.message : SourceError → String
  | token cause => cause.message
  | span cause => cause.message
  | emptyTokenList context => context ++ " has no tokens"
  | unexpectedSignal signal name context =>
    "unexpected " ++ signal.label ++ " token '" ++ name ++ "' in " ++ context
  | missingToken context name => context ++ " is missing its '" ++ name ++ "' token"
  | missingConstant signal name =>
    signal.label ++ " token '" ++ name ++ "' requires a const value"
  | invalidConstant name primitive value =>
    "const value " ++ value.text ++ " of '" ++ name ++ "' cannot be encoded as " ++ primitive.name
  | unsupportedEncoding name primitive usage =>
    primitive.name ++ " encoding of '" ++ name ++ "' is not supported for " ++ usage
  | choiceBitOutOfRange name bit width =>
    "choice '" ++ name ++ "' uses bit " ++ toString bit ++ " of a " ++ toString width ++ "-bit set"

namespace Token

/-- The token's encoding, for use in generated source. -/
def sourceEncoding (t : Token) : Except SourceError Encoding :=
  t.requireEncoding.mapError .token

/-- The constant that a token has to declare. -/
def requireConstant (t : Token) : Except SourceError Constant := do
  match (← t.sourceEncoding).constant with
  | some c => .ok c
  | none => .error (.missingConstant t.signal t.name)

end Token

end Flyweight
