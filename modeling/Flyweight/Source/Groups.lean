import Flyweight.Body
import Flyweight.Source.Elements

/- Groups, variable-length data and messages.

   The span of a group, and that of variable-length data, starts with a composite
   that describes its header on the wire (`HeadedSpan`). A group may hold groups;
   since the body of a span is shorter than the span, the recursion ends. -/

namespace Flyweight.Source

/-- The interior of a span that starts with a header composite. -/
structure HeadedSpan where
  header : Token
  headerBody : List Token
  rest : List Token
  deriving DecidableEq, Repr

namespace HeadedSpan

/-- Splits the interior of a span into its header and the rest. -/
def ofInterior (context : String) (inner : List Token) : Except SourceError HeadedSpan :=
  match inner with
  | [] => .error (.missingToken context "dimension header")
  | first :: rest =>
    if first.signal = .beginComposite then
      match Span.lengthAfter 0 first rest with
      | .error e => .error (.span e)
      | .ok count => .ok ⟨first, rest.take (count - 1), rest.drop count⟩
    else .error (.unexpectedSignal first.signal first.name context)

/-- Splits a span into its header and the rest. -/
def ofTokens (context : String) (span : List Token) : Except SourceError HeadedSpan :=
  match interior span with
  | .error e => .error e
  | .ok inner => ofInterior context inner

/-- What follows the header is shorter than the span. -/
theorem length_rest_lt {context : String} {span : List Token} {h : HeadedSpan}
    (hs : ofTokens context span = .ok h) : h.rest.length < span.length := by
  unfold ofTokens at hs
  split at hs
  · simp at hs
  · rename_i inner hinner
    have hlt : inner.length < span.length := by
      unfold interior at hinner
      cases hi : Span.interior span with
      | error e => rw [hi] at hinner; cases hinner
      | ok l => rw [hi] at hinner; cases hinner; exact Span.length_interior_lt hi
    unfold ofInterior at hs
    split at hs
    · simp at hs
    · split at hs
      · split at hs
        · simp at hs
        · simp only [Except.ok.injEq] at hs
          subst hs
          simp only [List.length_drop, List.length_cons] at hlt ⊢
          omega
      · simp at hs

/-- The encoding token of that name in the header. -/
def member (h : HeadedSpan) (context name : String) : Except SourceError Token :=
  match h.headerBody.find? fun t => t.signal == .encoding && t.name == name with
  | some t => .ok t
  | none => .error (.missingToken context name)

end HeadedSpan

/-- The primitive type of a header member that has to be an integer. -/
def integralType (t : Token) (usage : String) : Except SourceError Encoding := do
  let e ← t.sourceEncoding
  if e.primitive.isIntegral then return e
  else throw (.unsupportedEncoding t.name e.primitive usage)

/-- The accessors for variable-length data, given by its span. -/
def Member.ofVarDataSpan (owner : Owner) (name : String) (span : List Token) :
    Except SourceError Member := do
  let context := s!"var data '{name}'"
  let headed ← HeadedSpan.ofTokens context span
  if let t :: _ := headed.rest then
    throw (.unexpectedSignal t.signal t.name context)
  let length ← headed.member context "length"
  let data ← headed.member context "varData"
  let payload ← data.sourceEncoding
  if payload.primitive.size ≠ 1 then
    throw (.unsupportedEncoding name payload.primitive "variable-length data payload")
  let e ← integralType length "variable-length data length"
  return .varData name owner length.offset.toNat e.primitive e.byteOrder data.offset.toNat

/-- The accessors for variable-length data, of which `tokens` is the part of the
section from position `index` on. -/
def Member.ofVarDataFrom (owner : Owner) (index : Nat) (tokens : List Token) :
    Except SourceError (List Member) :=
  match tokens with
  | [] => .ok []
  | first :: rest =>
    if first.signal = .beginVarData then do
      let count ← (Span.lengthAfter index first rest).mapError .span
      let member ← Member.ofVarDataSpan owner first.name (first :: rest.take count)
      let others ← Member.ofVarDataFrom owner (index + count + 1) (rest.drop count)
      return member :: others
    else .error (.unexpectedSignal first.signal first.name s!"var data of '{owner.typeName}'")
termination_by tokens.length
decreasing_by simp only [List.length_cons, List.length_drop]; omega

/-- The accessors for the variable-length data of an owner. -/
def Member.ofVarData (owner : Owner) (varData : List Token) : Except SourceError (List Member) :=
  Member.ofVarDataFrom owner 0 varData

/-- The span of a group: its header, the header's two members, and its body. -/
structure GroupSpan where
  name : String
  size : Nat
  header : Token
  blockLength : Token
  count : Token
  body : Body
  deriving DecidableEq, Repr

namespace GroupSpan

/-- The context of errors in the group. -/
def context (name : String) : String := s!"group '{name}'"

/-- Reads the span that `first` opens. -/
def ofTokens (first : Token) (rest : List Token) : Except SourceError GroupSpan :=
  match HeadedSpan.ofTokens (context first.name) (first :: rest) with
  | .error e => .error e
  | .ok headed =>
    match headed.member (context first.name) "blockLength" with
    | .error e => .error e
    | .ok blockLength =>
      match headed.member (context first.name) "numInGroup" with
      | .error e => .error e
      | .ok count =>
        match Body.ofTokens headed.rest with
        | .error e => .error (.span e)
        | .ok body => .ok ⟨first.name, first.size.toNat, headed.header, blockLength, count, body⟩

/-- The groups inside a group are shorter than its span. -/
theorem length_groups_lt {first : Token} {rest : List Token} {g : GroupSpan}
    (h : ofTokens first rest = .ok g) : g.body.groups.length < rest.length + 1 := by
  unfold ofTokens at h
  split at h
  · simp at h
  · rename_i headed hheaded
    have hlt := HeadedSpan.length_rest_lt hheaded
    split at h
    · simp at h
    · split at h
      · simp at h
      · split at h
        · simp at h
        · rename_i body hbody
          simp only [Except.ok.injEq] at h
          subst h
          have := congrArg List.length (Body.append_of_ofTokens hbody)
          simp only [List.length_append, List.length_cons] at this hlt ⊢
          omega

end GroupSpan

/-- What the groups of an owner give rise to: the owner's accessors, and the
cursors, those of nested groups after that of the group around them. -/
structure GroupCode where
  members : List Member
  cursors : List GroupCursor
  deriving DecidableEq, Repr

/-- The type name of a group's cursor. -/
def Owner.groupType (owner : Owner) (name : String) : String :=
  owner.typeName ++ Identifier.typeName name

/-- The cursor of a group whose members are known. -/
def GroupCursor.ofSpan (typeName : String) (g : GroupSpan) (members : List Member) :
    Except SourceError GroupCursor := do
  let block ← integralType g.blockLength "group block length"
  let count ← integralType g.count "group count"
  let slot (t : Token) (e : Encoding) : Slot :=
    ⟨⟨"header", t.offset.toNat⟩, e.primitive, e.byteOrder⟩
  return ⟨typeName, g.size, g.header.size.toNat, slot g.blockLength block, slot g.count count,
    members⟩

/-- The code for groups, of which `tokens` is the part of the section from
position `index` on. -/
def GroupCode.ofTokensFrom (owner : Owner) (index : Nat) (tokens : List Token) :
    Except SourceError GroupCode :=
  match tokens with
  | [] => .ok ⟨[], []⟩
  | first :: rest =>
    if first.signal = .beginGroup then
      match Span.lengthAfter index first rest with
      | .error e => .error (.span e)
      | .ok count =>
        match _span : GroupSpan.ofTokens first (rest.take count) with
        | .error e => .error e
        | .ok g => do
          let typeName := owner.groupType first.name
          let inside : Owner := ⟨.group, typeName⟩
          let fields ← Member.ofFields (GroupSpan.context first.name) g.body.fields
          let nested ← GroupCode.ofTokensFrom inside 0 g.body.groups
          let varData ← Member.ofVarData inside g.body.varData
          let cursor ← GroupCursor.ofSpan typeName g (fields ++ nested.members ++ varData)
          let others ← GroupCode.ofTokensFrom owner (index + count + 1) (rest.drop count)
          return ⟨.group first.name owner typeName :: others.members,
            cursor :: nested.cursors ++ others.cursors⟩
    else .error (.unexpectedSignal first.signal first.name s!"groups of '{owner.typeName}'")
termination_by tokens.length
decreasing_by
  · have := GroupSpan.length_groups_lt ‹_›
    simp only [List.length_take] at this
    simp only [List.length_cons]
    omega
  · simp only [List.length_cons, List.length_drop]
    omega

/-- The code for the groups of an owner. -/
def GroupCode.ofTokens (owner : Owner) (groups : List Token) : Except SourceError GroupCode :=
  GroupCode.ofTokensFrom owner 0 groups

/-- A message. -/
def MessageFlyweight.ofTokens (tokens : List Token) : Except SourceError MessageFlyweight := do
  let first ← opening "message" tokens
  if first.signal ≠ .beginMessage then
    throw (.unexpectedSignal first.signal first.name "message list")
  let typeName := Identifier.typeName first.name
  let owner : Owner := ⟨.message, typeName⟩
  let body ← (Body.ofTokens (← interior tokens)).mapError .span
  let fields ← Member.ofFields s!"message '{first.name}'" body.fields
  let groups ← GroupCode.ofTokens owner body.groups
  let varData ← Member.ofVarData owner body.varData
  return ⟨typeName, first.size.toNat, first.id.toInt, fields ++ groups.members ++ varData,
    groups.cursors⟩

end Flyweight.Source
