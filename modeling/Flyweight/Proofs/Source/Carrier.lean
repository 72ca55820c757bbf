import Flyweight.Proofs.Document.Settled
import Flyweight.Source.Unit

/- Generated source does not depend on the carriers of integers.

   Generation looks at a constant only through its text, its value as a natural number, its
   literal and the range of a primitive type, and at the constants of a token list not at all
   when it cuts the list into spans. So a schema whose constants are in their canonical
   carriers gives the units of the schema itself, or its error (`units_canonical`). `Recarried`
   relates what a function does on tokens to what it does on the tokens with their constants
   carried canonically; it is carried through every function of the generator. -/

namespace Flyweight

/-! ## One constant -/

namespace Constant

/-- A constant is one of the unsigned ones that fit the signed carrier, or already carried
canonically. -/
theorem canonical_cases (c : Constant) :
    c.canonical = c ∨
      ∃ v : UInt64, ∃ w : Int64, c = unsignedLong v ∧ c.canonical = long w ∧ w.toInt = v.toNat := by
  cases c with
  | long v => exact .inl rfl
  | double x => exact .inl rfl
  | unsignedLong v =>
    by_cases small : v.toNat < 0x8000000000000000
    · refine .inr ⟨v, Int64.ofNat v.toNat, rfl, if_pos small, ?_⟩
      exact Int64.toInt_ofNat_of_lt small
    · exact .inl (if_neg small)

theorem canonical_text (c : Constant) : c.canonical.text = c.text := by
  obtain same | ⟨v, w, rfl, signed, value⟩ := canonical_cases c
  · rw [same]
  · rw [signed, text, value]
    rfl

theorem canonical_fits (c : Constant) (p : Primitive) : c.canonical.fits p = c.fits p := by
  obtain same | ⟨v, w, rfl, signed, value⟩ := canonical_cases c
  · rw [same]
  · rw [signed, fits, fits, value]

theorem canonical_floatLiteral (c : Constant) (rustType : String) :
    c.canonical.floatLiteral rustType = c.floatLiteral rustType := by
  obtain same | ⟨v, w, rfl, signed, value⟩ := canonical_cases c
  · rw [same]
  · have words := canonical_text (unsignedLong v)
    rw [signed] at words ⊢
    show (long w).text ++ rustType = (unsignedLong v).text ++ rustType
    rw [words]

end Constant

/-! ## Tokens and errors -/

/-- The encoding with its constant in the canonical carrier. -/
abbrev Encoding.canonical : Encoding → Encoding := Encoding.mapConstant fun c => some c.canonical

/-- The token with its constant in the canonical carrier. -/
abbrev Token.canonical : Token → Token := Token.mapConstant fun c => some c.canonical

/-- The schema with its constants in their canonical carriers. -/
abbrev Schema.canonical : Schema → Schema := Schema.mapConstants fun c => some c.canonical

/-- The error with its constant, if it has one, in the canonical carrier. -/
def SourceError.canonical : SourceError → SourceError
  | invalidConstant name primitive c => invalidConstant name primitive c.canonical
  | e => e

theorem Encoding.canonical_constant (e : Encoding) :
    e.canonical.constant = e.constant.map Constant.canonical := by
  cases e with
  | mk _ _ _ c => cases c <;> rfl

/-- The second outcome is the first one with its constants in their canonical carriers: `f`
does that to the result. -/
inductive Recarried (f : α → β) : Except SourceError α → Except SourceError β → Prop
  | ok (a : α) : Recarried f (.ok a) (.ok (f a))
  | error (e : SourceError) : Recarried f (.error e) (.error e.canonical)

namespace Recarried

/-- Sequences; the second step may use what the first one is known to give. -/
theorem bindOk {g : α → α'} {f : β → β'} {x : Except SourceError α} {x' : Except SourceError α'}
    {k : α → Except SourceError β} {k' : α' → Except SourceError β'} (hx : Recarried g x x')
    (hk : ∀ a, x = .ok a → Recarried f (k a) (k' (g a))) : Recarried f (x >>= k) (x' >>= k') := by
  cases hx with
  | ok a => exact hk a rfl
  | error e => exact .error e

theorem bind {g : α → α'} {f : β → β'} {x : Except SourceError α} {x' : Except SourceError α'}
    {k : α → Except SourceError β} {k' : α' → Except SourceError β'} (hx : Recarried g x x')
    (hk : ∀ a, Recarried f (k a) (k' (g a))) : Recarried f (x >>= k) (x' >>= k') :=
  hx.bindOk fun a _ => hk a

theorem map {g : α → α'} {f : β → β'} {x : Except SourceError α} {x' : Except SourceError α'}
    {k : α → β} {k' : α' → β'} (hx : Recarried g x x') (hk : ∀ a, k' (g a) = f (k a)) :
    Recarried f (x.map k) (x'.map k') := by
  cases hx with
  | ok a =>
    show Recarried f (.ok (k a)) (.ok (k' (g a)))
    rw [hk]
    exact .ok _
  | error e => exact .error e

theorem ite {p : Prop} [Decidable p] {f : α → β} {x y : Except SourceError α}
    {x' y' : Except SourceError β} (hx : Recarried f x x') (hy : Recarried f y y') :
    Recarried f (if p then x else y) (if p then x' else y') := by
  split
  · exact hx
  · exact hy

theorem mapM {g : α → α'} {f : β → β'} {k : α → Except SourceError β}
    {k' : α' → Except SourceError β'} (hk : ∀ a, Recarried f (k a) (k' (g a))) (items : List α) :
    Recarried (List.map f) (items.mapM k) ((items.map g).mapM k') := by
  induction items with
  | nil => exact .ok []
  | cons a rest ih =>
    rw [List.map_cons, List.mapM_cons, List.mapM_cons]
    exact (hk a).bind fun b => ih.bind fun bs => .ok (b :: bs)

theorem ofSpan (f : α → β) (x : Except SpanError α) :
    Recarried f (x.mapError .span) ((x.map f).mapError .span) := by
  cases x with
  | ok a => exact .ok a
  | error e => exact .error (.span e)

theorem ofLength (x : Except SpanError Nat) :
    Recarried id (x.mapError .span) (x.mapError .span) := by
  have same := ofSpan id x
  rwa [Except.map_id] at same

end Recarried

/-! ## Spans -/

section

variable (f : Constant → Option Constant)

namespace Span

theorem countToEnd_mapConstant (unclosed : SpanError) (innermost : Signal) (outer : List Signal)
    (index : Nat) (tokens : List Token) :
    countToEnd unclosed innermost outer index (tokens.map (Token.mapConstant f)) =
      countToEnd unclosed innermost outer index tokens := by
  induction tokens generalizing innermost outer index with
  | nil => rfl
  | cons t rest ih => simp only [List.map_cons, countToEnd, Token.mapConstant_signal,
      Token.mapConstant_name, ih]

theorem lengthAfter_mapConstant (index : Nat) (first : Token) (rest : List Token) :
    lengthAfter index (first.mapConstant f) (rest.map (Token.mapConstant f)) =
      lengthAfter index first rest := by
  simp only [lengthAfter, countToEnd_mapConstant, Token.mapConstant_signal,
    Token.mapConstant_name]

theorem elementLengthAfter_mapConstant (index : Nat) (first : Token) (rest : List Token) :
    elementLengthAfter index (first.mapConstant f) (rest.map (Token.mapConstant f)) =
      elementLengthAfter index first rest := by
  simp only [elementLengthAfter, lengthAfter_mapConstant, Token.mapConstant_signal]

theorem interior_mapConstant (tokens : List Token) :
    interior (tokens.map (Token.mapConstant f)) =
      (interior tokens).map (List.map (Token.mapConstant f)) := by
  cases tokens with
  | nil => rfl
  | cons first rest =>
    rw [List.map_cons, interior, interior, lengthAfter_mapConstant, List.length_map]
    cases lengthAfter 0 first rest with
    | error e => rfl
    | ok count =>
      by_cases whole : count = rest.length
      · simp only [bind, Except.bind, if_pos whole, Except.map, List.map_take]
      · simp only [bind, Except.bind, if_neg whole, Except.map]

end Span

namespace Body

/-- Replaces the constants of a body, or drops them. -/
def mapConstants (b : Body) : Body where
  fields := b.fields.map (Token.mapConstant f)
  groups := b.groups.map (Token.mapConstant f)
  varData := b.varData.map (Token.mapConstant f)

theorem takeGroups_mapConstant (index : Nat) (tokens : List Token) :
    takeGroups index (tokens.map (Token.mapConstant f)) = (takeGroups index tokens).map
      (Prod.map (List.map (Token.mapConstant f)) (List.map (Token.mapConstant f))) := by
  fun_induction takeGroups index tokens with
  | case1 index => rw [List.map_nil, takeGroups]; rfl
  | case2 index first rest group e counted =>
    rw [List.map_cons, takeGroups, Token.mapConstant_signal, if_pos group,
      Span.lengthAfter_mapConstant, counted]
    rfl
  | case3 index first rest group count counted e cut ih =>
    rw [List.map_cons, takeGroups, Token.mapConstant_signal, if_pos group,
      Span.lengthAfter_mapConstant, counted]
    simp only [← List.map_drop, ih, cut]
    rfl
  | case4 index first rest group count counted groups others cut ih =>
    rw [List.map_cons, takeGroups, Token.mapConstant_signal, if_pos group,
      Span.lengthAfter_mapConstant, counted]
    simp only [← List.map_drop, ih, cut, Except.map, Prod.map, List.map_append, List.map_cons,
      List.map_take]
  | case5 index first rest other =>
    rw [List.map_cons, takeGroups, Token.mapConstant_signal, if_neg other]
    rfl

theorem ofTokens_mapConstant (tokens : List Token) :
    ofTokens (tokens.map (Token.mapConstant f)) = (ofTokens tokens).map (mapConstants f) := by
  have fields : (tokens.map (Token.mapConstant f)).takeWhile (fun t => !endsFields t.signal) =
      (tokens.takeWhile fun t => !endsFields t.signal).map (Token.mapConstant f) :=
    List.takeWhile_map ..
  simp only [ofTokens, fields, List.length_map, ← List.map_drop, takeGroups_mapConstant]
  cases takeGroups _ _ <;> rfl

end Body

end

/-! ## Elements -/

namespace Recarried

theorem sourceEncoding (t : Token) :
    Recarried Encoding.canonical t.sourceEncoding t.canonical.sourceEncoding := by
  unfold Token.sourceEncoding Token.requireEncoding
  rw [Token.mapConstant_signal, Token.mapConstant_name, Token.mapConstant_encoding]
  split
  · cases t.encoding with
    | none => exact .error (.token _)
    | some e => exact .ok e
  · exact .error (.token _)

theorem requireConstant (t : Token) :
    Recarried Constant.canonical t.requireConstant t.canonical.requireConstant := by
  refine (sourceEncoding t).bind fun e => ?_
  rw [Encoding.canonical_constant]
  cases e.constant with
  | none => exact .error (.missingConstant ..)
  | some c => exact .ok c

theorem constantLiteral (name : String) (p : Primitive) (c : Constant) :
    Recarried id (c.literal name p) (c.canonical.literal name p) := by
  simp only [Constant.literal, Constant.canonical_fits, Constant.canonical_text,
    Constant.canonical_floatLiteral]
  split
  · exact .ok _
  · exact .error (.invalidConstant ..)

theorem literal (t : Token) : Recarried id t.literal t.canonical.literal := by
  refine (sourceEncoding t).bind fun e => ?_
  rw [Encoding.canonical_constant]
  cases e.constant with
  | none => exact .error (.missingConstant ..)
  | some c => exact constantLiteral t.name e.primitive c

end Recarried

namespace Source

open Recarried (sourceEncoding requireConstant literal)

namespace Member

theorem ofEncoding_canonical (name : String) (t : Token) (base : String) :
    Recarried id (ofEncoding name t base) (ofEncoding name t.canonical base) := by
  refine (sourceEncoding t).bind fun e => ?_
  refine .ite ?_ ?_
  · exact (literal t).bind fun text => .ok _
  · have length : t.canonical.arrayLength = t.arrayLength := rfl
    rw [length]
    dsimp only
    split <;> exact .ok _

theorem ofEnum_canonical (name : String) (t : Token) (base : String) :
    Recarried id (ofEnum name t base) (ofEnum name t.canonical base) :=
  (sourceEncoding t).bind fun _ => .ok _

theorem ofElement_canonical (name : String) (t : Token) (base context : String) :
    Recarried id (ofElement name t base context) (ofElement name t.canonical base context) := by
  unfold ofElement
  rw [Token.mapConstant_signal]
  split
  · exact ofEncoding_canonical name t base
  · exact (ofEnum_canonical name t base).map fun _ => rfl
  · exact .ok _
  · exact .ok _
  · exact .error (.unexpectedSignal ..)

theorem ofFieldsFrom_canonical (context : String) (index : Nat) (tokens : List Token) :
    Recarried id (ofFieldsFrom context index tokens)
      (ofFieldsFrom context index (tokens.map Token.canonical)) := by
  fun_induction ofFieldsFrom context index tokens with
  | case1 index =>
    rw [List.map_nil, ofFieldsFrom]
    exact .ok []
  | case2 index field isField =>
    rw [List.map_cons, List.map_nil, ofFieldsFrom, Token.mapConstant_signal, if_pos isField]
    exact .error (.missingToken ..)
  | case3 index field isField first rest ih =>
    rw [List.map_cons, List.map_cons, ofFieldsFrom, Token.mapConstant_signal, if_pos isField]
    simp only [Span.elementLengthAfter_mapConstant]
    refine (Recarried.ofLength _).bind fun count => ?_
    refine (ofElement_canonical field.name first ownPlace context).bind fun members => ?_
    rw [id, ← List.map_drop]
    exact (ih count).bind fun others => .ok _
  | case4 index field rest other =>
    rw [List.map_cons, ofFieldsFrom.eq_def]
    -- The equation of the function would ask how the tokens go on.
    show Recarried id _ (if field.signal = .beginField then _ else _)
    rw [if_neg other]
    exact .error (.unexpectedSignal ..)

end Member

theorem opening_canonical (context : String) (tokens : List Token) :
    Recarried Token.canonical (opening context tokens)
      (opening context (tokens.map Token.canonical)) := by
  cases tokens with
  | nil => exact .error (.emptyTokenList context)
  | cons first rest => exact .ok first

theorem interior_canonical (tokens : List Token) :
    Recarried (List.map Token.canonical) (interior tokens)
      (interior (tokens.map Token.canonical)) := by
  rw [interior, interior, Span.interior_mapConstant]
  exact .ofSpan _ _

/-- The variant with its code in the canonical carrier. -/
def Variant.canonical (v : Variant) : Variant := { v with code := v.code.canonical }

/-- The enum with the codes of its variants in their canonical carriers. -/
def Enumeration.canonical (e : Enumeration) : Enumeration :=
  { e with variants := e.variants.map Variant.canonical }

theorem Enumeration.ofTokens_canonical (tokens : List Token) :
    Recarried Enumeration.canonical (Enumeration.ofTokens tokens)
      (Enumeration.ofTokens (tokens.map Token.canonical)) := by
  refine (opening_canonical "enum" tokens).bind fun first => ?_
  refine (sourceEncoding first).bind fun e => ?_
  refine .ite ?_ (.error (.unsupportedEncoding ..))
  refine (interior_canonical tokens).bind fun inner => ?_
  refine (Recarried.mapM (f := Variant.canonical) (fun t => ?_) inner).bind fun variants => .ok _
  · refine .ite (.error (.unexpectedSignal ..)) ?_
    exact (literal t).bind fun text => (requireConstant t).bind fun code => .ok _

/-! ## Groups and messages -/

/-- The headed span with its constants in their canonical carriers. -/
def HeadedSpan.canonical (h : HeadedSpan) : HeadedSpan where
  header := h.header.canonical
  headerBody := h.headerBody.map Token.canonical
  rest := h.rest.map Token.canonical

/-- The group span with its constants in their canonical carriers. -/
def GroupSpan.canonical (g : GroupSpan) : GroupSpan :=
  { g with
    header := g.header.canonical
    blockLength := g.blockLength.canonical
    count := g.count.canonical
    body := g.body.mapConstants fun c => some c.canonical }

namespace HeadedSpan

/-- The two steps as a sequence, the form that `Recarried.bind` applies to. -/
theorem ofTokens_eq (context : String) (span : List Token) :
    ofTokens context span = interior span >>= ofInterior context := by
  unfold ofTokens
  cases interior span <;> rfl

theorem ofInterior_canonical (context : String) (inner : List Token) :
    Recarried HeadedSpan.canonical (ofInterior context inner)
      (ofInterior context (inner.map Token.canonical)) := by
  cases inner with
  | nil => exact .error (.missingToken ..)
  | cons first rest =>
    refine .ite ?_ (.error (.unexpectedSignal ..))
    rw [Span.lengthAfter_mapConstant]
    cases Span.lengthAfter 0 first rest with
    | error e => exact .error (.span e)
    | ok count =>
      simp only [← List.map_take, ← List.map_drop]
      exact .ok _

theorem ofTokens_canonical (context : String) (span : List Token) :
    Recarried HeadedSpan.canonical (ofTokens context span)
      (ofTokens context (span.map Token.canonical)) := by
  rw [ofTokens_eq, ofTokens_eq]
  exact (interior_canonical span).bind (ofInterior_canonical context)

theorem member_canonical (h : HeadedSpan) (context name : String) :
    Recarried Token.canonical (h.member context name) (h.canonical.member context name) := by
  have found : h.canonical.headerBody.find? (fun t => t.signal == .encoding && t.name == name) =
      (h.headerBody.find? fun t => t.signal == .encoding && t.name == name).map Token.canonical :=
    List.find?_map ..
  rw [member, member, found]
  cases h.headerBody.find? _ with
  | none => exact .error (.missingToken ..)
  | some t => exact .ok t

end HeadedSpan

theorem integralType_canonical (t : Token) (usage : String) :
    Recarried Encoding.canonical (integralType t usage) (integralType t.canonical usage) :=
  (sourceEncoding t).bind fun _ => .ite (.ok _) (.error (.unsupportedEncoding ..))

namespace Member

theorem ofVarDataSpan_canonical (owner : Owner) (name : String) (span : List Token) :
    Recarried id (ofVarDataSpan owner name span)
      (ofVarDataSpan owner name (span.map Token.canonical)) := by
  refine (HeadedSpan.ofTokens_canonical _ span).bind fun headed => ?_
  obtain ⟨header, headerBody, rest⟩ := headed
  cases rest with
  | cons t others => exact .error (.unexpectedSignal ..)
  | nil =>
    refine (HeadedSpan.member_canonical ⟨header, headerBody, []⟩ _ _).bind fun length => ?_
    refine (HeadedSpan.member_canonical ⟨header, headerBody, []⟩ _ _).bind fun data => ?_
    refine (sourceEncoding data).bind fun payload => ?_
    refine .ite (.error (.unsupportedEncoding ..)) ?_
    exact (integralType_canonical length _).bind fun e => .ok _

theorem ofVarDataFrom_canonical (owner : Owner) (index : Nat) (tokens : List Token) :
    Recarried id (ofVarDataFrom owner index tokens)
      (ofVarDataFrom owner index (tokens.map Token.canonical)) := by
  fun_induction ofVarDataFrom owner index tokens with
  | case1 index =>
    rw [List.map_nil, ofVarDataFrom]
    exact .ok []
  | case2 index first rest opens ih =>
    rw [List.map_cons, ofVarDataFrom, Token.mapConstant_signal, if_pos opens,
      Span.lengthAfter_mapConstant]
    refine (Recarried.ofLength _).bind fun count => ?_
    rw [id, ← List.map_take, ← List.map_cons, ← List.map_drop]
    exact (ofVarDataSpan_canonical owner first.name _).bind fun member =>
      (ih count).bind fun others => .ok _
  | case3 index first rest other =>
    rw [List.map_cons, ofVarDataFrom, Token.mapConstant_signal, if_neg other]
    exact .error (.unexpectedSignal ..)

end Member

theorem GroupSpan.ofTokens_eq (first : Token) (rest : List Token) :
    GroupSpan.ofTokens first rest = (do
      let headed ← HeadedSpan.ofTokens (context first.name) (first :: rest)
      let blockLength ← headed.member (context first.name) "blockLength"
      let count ← headed.member (context first.name) "numInGroup"
      let body ← (Body.ofTokens headed.rest).mapError .span
      return ⟨first.name, first.size.toNat, headed.header, blockLength, count, body⟩) := by
  unfold GroupSpan.ofTokens
  cases HeadedSpan.ofTokens (context first.name) (first :: rest) with
  | error e => rfl
  | ok headed =>
    simp only [bind, Except.bind]
    cases headed.member (context first.name) "blockLength" with
    | error e => rfl
    | ok blockLength =>
      cases headed.member (context first.name) "numInGroup" with
      | error e => rfl
      | ok count => cases Body.ofTokens headed.rest <;> rfl

theorem body_canonical (tokens : List Token) :
    Recarried (Body.mapConstants fun c => some c.canonical)
      ((Body.ofTokens tokens).mapError .span)
      ((Body.ofTokens (tokens.map Token.canonical)).mapError .span) := by
  rw [Body.ofTokens_mapConstant]
  exact .ofSpan _ _

theorem GroupSpan.ofTokens_canonical (first : Token) (rest : List Token) :
    Recarried GroupSpan.canonical (GroupSpan.ofTokens first rest)
      (GroupSpan.ofTokens first.canonical (rest.map Token.canonical)) := by
  rw [ofTokens_eq, ofTokens_eq, ← List.map_cons]
  refine (HeadedSpan.ofTokens_canonical _ (first :: rest)).bind fun headed => ?_
  refine (headed.member_canonical _ "blockLength").bind fun blockLength => ?_
  refine (headed.member_canonical _ "numInGroup").bind fun count => ?_
  exact (body_canonical headed.rest).bind fun body => .ok _

theorem GroupCursor.ofSpan_canonical (typeName : String) (g : GroupSpan) (members : List Member) :
    Recarried id (GroupCursor.ofSpan typeName g members)
      (GroupCursor.ofSpan typeName g.canonical members) :=
  (integralType_canonical g.blockLength _).bind fun _ =>
    (integralType_canonical g.count _).bind fun _ => .ok _

theorem GroupCode.ofTokensFrom_cons (owner : Owner) (index : Nat) (first : Token)
    (rest : List Token) :
    GroupCode.ofTokensFrom owner index (first :: rest) =
      if first.signal = .beginGroup then do
        let count ← (Span.lengthAfter index first rest).mapError .span
        let g ← GroupSpan.ofTokens first (rest.take count)
        let typeName := owner.groupType first.name
        let inside : Owner := ⟨.group, typeName⟩
        let fields ← Member.ofFields (GroupSpan.context first.name) g.body.fields
        let nested ← GroupCode.ofTokensFrom inside 0 g.body.groups
        let varData ← Member.ofVarData inside g.body.varData
        let cursor ← GroupCursor.ofSpan typeName g (fields ++ nested.members ++ varData)
        let others ← GroupCode.ofTokensFrom owner (index + count + 1) (rest.drop count)
        return ⟨.group first.name owner typeName :: others.members,
          cursor :: nested.cursors ++ others.cursors⟩
      else .error (.unexpectedSignal first.signal first.name
        s!"groups of '{owner.typeName}'") := by
  rw [GroupCode.ofTokensFrom]
  split
  · split
    · rename_i e counted
      rw [counted]
      rfl
    · rename_i count counted
      rw [counted]
      split
      · rename_i e read
        show _ = GroupSpan.ofTokens first (rest.take count) >>= _
        rw [read]
        rfl
      · rename_i g read
        show _ = GroupSpan.ofTokens first (rest.take count) >>= _
        rw [read]
        rfl
  · rfl

theorem GroupCode.ofTokensFrom_canonical (owner : Owner) (index : Nat) (tokens : List Token) :
    Recarried id (GroupCode.ofTokensFrom owner index tokens)
      (GroupCode.ofTokensFrom owner index (tokens.map Token.canonical)) := by
  -- The groups inside of a group and those behind it are both shorter than what is left.
  induction size : tokens.length using Nat.strongRecOn generalizing owner index tokens with
  | ind length ih =>
    cases tokens with
    | nil =>
      rw [List.map_nil, GroupCode.ofTokensFrom]
      exact .ok _
    | cons first rest =>
      rw [List.length_cons] at size
      rw [List.map_cons, ofTokensFrom_cons, ofTokensFrom_cons]
      refine .ite ?_ (.error (.unexpectedSignal ..))
      rw [Span.lengthAfter_mapConstant]
      refine (Recarried.ofLength _).bind fun count => ?_
      rw [id, ← List.map_take, ← List.map_drop]
      refine (GroupSpan.ofTokens_canonical first _).bindOk fun g read => ?_
      have inner := GroupSpan.length_groups_lt read
      rw [List.length_take] at inner
      refine (Member.ofFieldsFrom_canonical _ 0 g.body.fields).bind fun fields => ?_
      refine (ih _ (by omega) _ 0 g.body.groups rfl).bind fun nested => ?_
      refine (Member.ofVarDataFrom_canonical _ 0 g.body.varData).bind fun varData => ?_
      refine (GroupCursor.ofSpan_canonical _ g _).bind fun cursor => ?_
      refine (ih (rest.drop count).length ?_ _ _ _ rfl).bind fun others => .ok _
      rw [List.length_drop]
      omega

theorem MessageFlyweight.ofTokens_canonical (tokens : List Token) :
    Recarried id (MessageFlyweight.ofTokens tokens)
      (MessageFlyweight.ofTokens (tokens.map Token.canonical)) := by
  refine (opening_canonical "message" tokens).bind fun first => ?_
  refine .ite (.error (.unexpectedSignal ..)) ?_
  refine (interior_canonical tokens).bind fun inner => ?_
  refine (body_canonical inner).bind fun body => ?_
  refine (Member.ofFieldsFrom_canonical _ 0 body.fields).bind fun fields => ?_
  refine (GroupCode.ofTokensFrom_canonical _ 0 body.groups).bind fun groups => ?_
  exact (Member.ofVarDataFrom_canonical _ 0 body.varData).bind fun varData => .ok _

/-! ## Units -/

/-- The declaration with the constants in it in their canonical carriers. -/
def Declaration.canonical : Declaration → Declaration
  | enumeration e => enumeration e.canonical
  | fixed f => fixed f
  | message m => message m

section

variable (o : Options) (s : Schema)

end

end Source

end Flyweight
