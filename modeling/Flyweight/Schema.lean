import Flyweight.Span

/- A message schema: the input of source generation. -/

namespace Flyweight

/-- A message schema. `header` lists the fixed preamble of every message, each
list of `types` an enum, a set or a composite, each list of `messages` a
message. -/
structure Schema where
  package : String
  header : List Token
  types : List (List Token) := []
  messages : List (List Token) := []
  deriving DecidableEq, Repr

namespace Schema

/-- The token lists of the schema: the header, the types, the messages. -/
def lists (s : Schema) : List (List Token) := s.header :: (s.types ++ s.messages)

/-- Checks the nesting of every token list, in the order of `lists`. -/
def checkNesting (s : Schema) : Except SpanError Unit := s.lists.forM Span.checkNesting

/-- The schema with one more type. -/
def addType (s : Schema) (tokens : List Token) : Schema :=
  { s with types := s.types ++ [tokens] }

/-- The schema with one more message. -/
def addMessage (s : Schema) (tokens : List Token) : Schema :=
  { s with messages := s.messages ++ [tokens] }

end Schema

end Flyweight
