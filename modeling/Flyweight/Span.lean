import Flyweight.Token

/- The nesting of a token list.

   Opening and closing tokens pair up like brackets. `Span.findEnd` locates the
   closing token of one opening token; `Span.checkNesting` checks a whole list
   with one stack. An element of a list is a whole span or a single token that
   opens none. -/

namespace Flyweight

/-- Why a token list is not nested as asked. Positions count from the start of
the list at hand. -/
inductive SpanError where
  | empty
  /-- an opening token without its closing one -/
  | unbalanced (signal : Signal) (name : String) (index : Nat)
  /-- a closing token of another kind than the innermost open span -/
  | mismatchedEnd (expected found : Signal) (name : String) (index : Nat)
  /-- a closing token where no span is open -/
  | unexpectedEnd (signal : Signal) (name : String) (index : Nat)
  /-- tokens after the span closed at `index` -/
  | trailingTokens (index count : Nat)
  | notABegin (found : Signal) (index : Nat)
  deriving DecidableEq, Repr

/-- The wording of the error. -/
def SpanError.message : SpanError → String
  | empty => "token list is empty"
  | unbalanced signal name index =>
    signal.label ++ " token '" ++ name ++ "' at index " ++ toString index ++ " is never closed"
  | mismatchedEnd expected found name index =>
    "expected " ++ expected.label ++ " at index " ++ toString index ++ " but found " ++
      found.label ++ " ('" ++ name ++ "')"
  | unexpectedEnd signal name index =>
    signal.label ++ " token '" ++ name ++ "' at index " ++ toString index ++ " closes nothing"
  | trailingTokens index count =>
    toString count ++ " token(s) follow the span closed at index " ++ toString index
  | notABegin found index =>
    "token at index " ++ toString index ++ " is " ++ found.label ++ ", not the start of a span"

namespace Span

/-- Reads tokens until the outermost open span is closed and counts them.
`innermost` is the role that closes the innermost open span, `outer` those of
the spans around it, `index` the position of the first token read, and
`unclosed` the error if the tokens run out. -/
def countToEnd (unclosed : SpanError) (innermost : Signal) (outer : List Signal) (index : Nat) :
    List Token → Except SpanError Nat
  | [] => .error unclosed
  | t :: rest =>
    match t.signal.closing with
    | some close => (countToEnd unclosed close (innermost :: outer) (index + 1) rest).map (· + 1)
    | none =>
      if t.signal.isEnd then
        if t.signal = innermost then
          match outer with
          | [] => .ok 1
          | next :: outer => (countToEnd unclosed next outer (index + 1) rest).map (· + 1)
        else .error (.mismatchedEnd innermost t.signal t.name index)
      else (countToEnd unclosed innermost outer (index + 1) rest).map (· + 1)

/-- How many of the tokens after `first`, which stands at `index`, belong to the
span that `first` opens. -/
def lengthAfter (index : Nat) (first : Token) (rest : List Token) : Except SpanError Nat :=
  match first.signal.closing with
  | some close =>
    countToEnd (.unbalanced first.signal first.name index) close [] (index + 1) rest
  | none => .error (.notABegin first.signal index)

/-- How many of the tokens after `first`, which stands at `index`, belong to the
element that `first` starts: none if it opens no span. -/
def elementLengthAfter (index : Nat) (first : Token) (rest : List Token) : Except SpanError Nat :=
  if first.signal.isBegin then lengthAfter index first rest else .ok 0

/-- The position of the token that closes the span opened at `start`. -/
def findEnd (tokens : List Token) (start : Nat) : Except SpanError Nat :=
  match tokens.drop start with
  | [] => .error .empty
  | first :: rest => (lengthAfter start first rest).map (start + ·)

/-- The position of the last token of the element that starts at `start`. -/
def elementEnd (tokens : List Token) (start : Nat) : Except SpanError Nat :=
  match tokens.drop start with
  | [] => .error .empty
  | first :: rest => (elementLengthAfter start first rest).map (start + ·)

/-- The tokens between the opening and the closing token of a list that is one
span. -/
def interior (tokens : List Token) : Except SpanError (List Token) :=
  match tokens with
  | [] => .error .empty
  | first :: rest => do
    let count ← lengthAfter 0 first rest
    if count = rest.length then .ok (rest.take (count - 1))
    else .error (.trailingTokens count (rest.length - count))

/-- Checks the tokens from position `index` on. `opened` holds the spans that are
open, innermost first: what closes each, and the error if it stays open. -/
def checkFrom (opened : List (Signal × SpanError)) (index : Nat) :
    List Token → Except SpanError Unit
  | [] =>
    match opened.getLast? with
    | none => .ok ()
    | some (_, unclosed) => .error unclosed
  | t :: rest =>
    match t.signal.closing with
    | some close =>
      checkFrom ((close, .unbalanced t.signal t.name index) :: opened) (index + 1) rest
    | none =>
      if t.signal.isEnd then
        match opened with
        | [] => .error (.unexpectedEnd t.signal t.name index)
        | (close, _) :: outer =>
          if close = t.signal then checkFrom outer (index + 1) rest
          else .error (.mismatchedEnd close t.signal t.name index)
      else checkFrom opened (index + 1) rest

/-- Checks that every span of the list is closed, and by its own closing token. -/
def checkNesting (tokens : List Token) : Except SpanError Unit := checkFrom [] 0 tokens

/-- The interior of a span is shorter than the span. -/
theorem length_interior_lt {tokens inner : List Token} (h : interior tokens = .ok inner) :
    inner.length < tokens.length := by
  cases tokens with
  | nil => simp [interior] at h
  | cons first rest =>
    cases hc : lengthAfter 0 first rest with
    | error e => simp [interior, hc, bind, Except.bind] at h
    | ok n =>
      simp only [interior, hc, bind, Except.bind] at h
      split at h
      · simp only [Except.ok.injEq] at h
        subst h
        simp only [List.length_take, List.length_cons]
        omega
      · simp at h

end Span

end Flyweight
