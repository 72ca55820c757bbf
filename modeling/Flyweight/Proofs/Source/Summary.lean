import Flyweight.Proofs.Source.Types
import Flyweight.Proofs.Span.Agreement
import Flyweight.Summary

/- The summary of a schema against the source generated from it.

   The summary counts the elements of the three sections of a message with a walk of its
   own, which takes a field token and the type element behind it for two elements, and
   looks at nothing inside a span. Generation walks over the same sections with one reader
   each. This file

   1. says of each reader what it makes of its section: one list of members for every field
      token (`FieldParts`), one accessor for every group, one for every variable-length
      data;
   2. proves that the walk of the summary counts just these (`countFrom_fields`,
      `countFrom_groups`, `countFrom_varData`);
   3. concludes that a schema whose units are generated passes the check of its nesting,
      has a summary, and that the counts of the summary are those of the accessors.

   A field whose value is an array of no elements is counted, and nothing is generated for
   it (`emptyField_counted`). -/

namespace Flyweight

/-- Whether the token stands for a transmitted array of no elements. -/
def Token.isEmptyArray (t : Token) : Bool :=
  t.signal == .encoding && t.arrayLength.toNat == 0 && !t.isConstant

/-! ## The walk of the summary -/

namespace Summary

/-- One step of the walk: past an element, of which only the first token is looked at. -/
theorem countFrom_cons {signal : Signal} {index : Nat} {first : Token} {more : List Token}
    (element : IsElement first more) (rest : List Token) :
    countFrom signal index (first :: (more ++ rest)) =
      (countFrom signal (index + more.length + 1) rest).map
        (· + if first.signal = signal then 1 else 0) := by
  have length : Span.elementLengthAfter index first (more ++ rest) = .ok more.length :=
    Span.elementLengthAfter_ok_iff.mpr ⟨more, rest, rfl, element, rfl⟩
  rw [countFrom]
  simp only [length, bind, Except.bind, List.drop_left]
  cases countFrom signal (index + more.length + 1) rest <;> rfl

/-- A step past a token that opens no span. -/
theorem countFrom_single {signal : Signal} {index : Nat} {first : Token}
    (opens : first.signal.closing = none) (rest : List Token) :
    countFrom signal index (first :: rest) =
      (countFrom signal (index + 1) rest).map (· + if first.signal = signal then 1 else 0) :=
  countFrom_cons (.single opens) rest

/-- A step past a span. -/
theorem countFrom_span {signal : Signal} {index : Nat} {first last : Token} {inner : List Token}
    (span : IsSpan first inner last) (rest : List Token) :
    countFrom signal index (first :: (inner ++ last :: rest)) =
      (countFrom signal (index + (inner ++ [last]).length + 1) rest).map
        (· + if first.signal = signal then 1 else 0) := by
  rw [List.append_cons]
  exact countFrom_cons (.span span) rest

theorem countFrom_nil {signal : Signal} {index : Nat} : countFrom signal index [] = .ok 0 := by
  rw [countFrom]

end Summary

namespace Source

open Grammar

/-! ## Fields -/

/-- What a section of fields gives rise to: for every field token the members of the type
element behind it, of which there is one unless the element is an array of no elements. -/
inductive FieldParts (context : String) : List Token → List (List Member) → Prop where
  | nil : FieldParts context [] []
  | cons {field first : Token} {more rest : List Token} {part : List Member}
    {parts : List (List Member)} (signal : field.signal = .beginField)
    (element : IsElement first more)
    (read : Member.ofElement field.name first ownPlace context = .ok part)
    (one : part.length = if first.isEmptyArray then 0 else 1)
    (others : FieldParts context rest parts) :
    FieldParts context (field :: first :: (more ++ rest)) (part :: parts)

/-- Accessors of a group or of variable-length data. -/
def Member.opensGroup : Member → Bool
  | .group .. => true
  | _ => false

def Member.isVarData : Member → Bool
  | .varData .. => true
  | _ => false

/-- Accessors that come from a field. -/
def Member.isField (m : Member) : Bool := !m.opensGroup && !m.isVarData

/-- A type element has one member, of a field, unless it is an array of no elements. -/
theorem ofElement_one {name base context : String} {first : Token} {part : List Member}
    (h : Member.ofElement name first base context = .ok part) :
    part.length = (if first.isEmptyArray then 0 else 1) ∧ ∀ m ∈ part, m.isField = true := by
  have isField {m : Member} (group : m.opensGroup = false) (varData : m.isVarData = false) :
      ∀ m' ∈ [m], m'.isField = true := by
    simp [Member.isField, group, varData]
  unfold Member.ofElement at h
  split at h
  · rename_i signal
    obtain ⟨e, encoded, h⟩ := bind_ok_iff.mp h
    have known := (sourceEncoding_ok_iff (by rw [signal]; rfl)).mp encoded
    have constant : first.isConstant = (e.presence == .constant) := by
      simp only [Token.isConstant, known]
    split at h
    · rename_i fixed
      obtain ⟨literal, _, h⟩ := bind_ok_iff.mp h
      obtain rfl := Except.ok.inj h
      refine ⟨?_, isField rfl rfl⟩
      simp [Token.isEmptyArray, constant, fixed]
    · rename_i transmitted
      -- What is transmitted is an array of some length, or one value.
      have array : first.isEmptyArray = (first.arrayLength.toNat == 0) := by
        simp [Token.isEmptyArray, signal, constant, transmitted]
      rw [array]
      split at h
      · rename_i length
        obtain rfl := Except.ok.inj h
        simp [length]
      · rename_i length
        obtain rfl := Except.ok.inj h
        exact ⟨by simp [length], isField rfl rfl⟩
      · rename_i length some_ one
        obtain rfl := Except.ok.inj h
        exact ⟨by simpa using some_, isField rfl rfl⟩
  · rename_i signal
    obtain ⟨m, read, rfl⟩ := map_ok_iff.mp h
    obtain ⟨e, _, read⟩ := bind_ok_iff.mp read
    obtain rfl := Except.ok.inj read
    exact ⟨by simp [Token.isEmptyArray, signal], isField rfl rfl⟩
  · rename_i signal
    obtain rfl := Except.ok.inj h
    exact ⟨by simp [Token.isEmptyArray, signal], isField rfl rfl⟩
  · rename_i signal
    obtain rfl := Except.ok.inj h
    exact ⟨by simp [Token.isEmptyArray, signal], isField rfl rfl⟩
  · cases h

/-- One step of the reader of fields: a field token, its type element, and the rest. -/
theorem ofFieldsFrom_cons_ok {context : String} {index : Nat} {field : Token} {rest : List Token}
    {members : List Member} (h : Member.ofFieldsFrom context index (field :: rest) = .ok members) :
    ∃ first more tail part others, rest = first :: (more ++ tail) ∧
      field.signal = .beginField ∧ IsElement first more ∧
      Member.ofElement field.name first ownPlace context = .ok part ∧
      Member.ofFieldsFrom context (index + more.length + 2) tail = .ok others ∧
      members = part ++ others := by
  cases rest with
  | nil =>
    rw [Member.ofFieldsFrom] at h
    split at h <;> cases h
  | cons first rest =>
    rw [Member.ofFieldsFrom] at h
    split at h
    · rename_i signal
      obtain ⟨count, counted, h⟩ := bind_ok_iff.mp h
      obtain ⟨part, read, h⟩ := bind_ok_iff.mp h
      obtain ⟨others, behind, h⟩ := bind_ok_iff.mp h
      obtain rfl := Except.ok.inj h
      obtain ⟨more, tail, rfl, element, rfl⟩ :=
        Span.elementLengthAfter_ok_iff.mp (mapError_ok_iff.mp counted)
      rw [List.drop_left] at behind
      exact ⟨first, more, tail, part, others, rfl, signal, element, read, behind, rfl⟩
    · cases h

/-- The fields that are read, and their count. The walk of the summary may stand anywhere in
a list, since positions only matter for errors. -/
theorem countFrom_fields {context : String} {index : Nat} {tokens : List Token}
    {members : List Member} (h : Member.ofFieldsFrom context index tokens = .ok members) :
    ∃ parts, FieldParts context tokens parts ∧ members = parts.flatten ∧
      (∀ m ∈ members, m.isField = true) ∧
      ∀ place, Summary.countFrom .beginField place tokens = .ok parts.length := by
  induction size : tokens.length using Nat.strongRecOn generalizing index tokens members with
  | ind length ih =>
    cases tokens with
    | nil =>
      rw [Member.ofFieldsFrom] at h
      obtain rfl := Except.ok.inj h
      exact ⟨[], .nil, rfl, by simp, fun place => Summary.countFrom_nil⟩
    | cons field rest =>
      obtain ⟨first, more, tail, part, others, rfl, signal, element, read, behind, rfl⟩ :=
        ofFieldsFrom_cons_ok h
      have shorter : tail.length < length := by
        simp only [List.length_cons, List.length_append] at size
        omega
      obtain ⟨parts, found, rfl, fields, counts⟩ := ih _ shorter behind rfl
      obtain ⟨one, own⟩ := ofElement_one read
      refine ⟨part :: parts, .cons signal element read one found, rfl, ?_, ?_⟩
      · intro m mem
        rcases List.mem_append.mp mem with front | back
        · exact own m front
        · exact fields m back
      · intro place
        -- The field token is an element of its own in the walk, and the type element one
        -- that starts with no field token.
        have alone : field.signal.closing = none := by
          rw [signal]
          rfl
        have other : first.signal ≠ .beginField := by
          rcases accepts_ofElement_iff.mp ⟨part, read⟩ with ⟨s, _⟩ | ⟨s, _⟩ | s | s <;>
            rw [s] <;> decide
        rw [Summary.countFrom_single alone, Summary.countFrom_cons element tail, counts,
          if_pos signal, if_neg other]
        rfl

/-! ## Variable-length data -/

/-- Accessors of variable-length data of that owner. -/
def Member.VarDataOf (owner : Owner) : Member → Prop
  | .varData _ owner' .. => owner' = owner
  | _ => False

theorem ofVarDataSpan_varData {owner : Owner} {name : String} {tokens : List Token} {m : Member}
    (h : Member.ofVarDataSpan owner name tokens = .ok m) : m.VarDataOf owner := by
  obtain ⟨headed, _, h⟩ := bind_ok_iff.mp h
  split at h
  · obtain ⟨_, refused, _⟩ := bind_ok_iff.mp h
    cases refused
  · obtain ⟨length, _, h⟩ := bind_ok_iff.mp h
    obtain ⟨data, _, h⟩ := bind_ok_iff.mp h
    obtain ⟨payload, _, h⟩ := bind_ok_iff.mp h
    split at h
    · obtain ⟨_, refused, _⟩ := bind_ok_iff.mp h
      cases refused
    · obtain ⟨e, _, h⟩ := bind_ok_iff.mp h
      obtain rfl := Except.ok.inj h
      rfl

/-- One step of the reader of variable-length data: a span, and the rest. -/
theorem ofVarDataFrom_cons_ok {owner : Owner} {index : Nat} {first : Token} {rest : List Token}
    {members : List Member} (h : Member.ofVarDataFrom owner index (first :: rest) = .ok members) :
    ∃ inner last tail own others, rest = inner ++ last :: tail ∧ first.signal = .beginVarData ∧
      IsSpan first inner last ∧
      Member.ofVarDataSpan owner first.name (first :: (inner ++ [last])) = .ok own ∧
      Member.ofVarDataFrom owner (index + (inner.length + 1) + 1) tail = .ok others ∧
      members = own :: others := by
  rw [Member.ofVarDataFrom] at h
  split at h
  · rename_i signal
    obtain ⟨count, counted, h⟩ := bind_ok_iff.mp h
    obtain ⟨own, read, h⟩ := bind_ok_iff.mp h
    obtain ⟨others, behind, h⟩ := bind_ok_iff.mp h
    obtain rfl := Except.ok.inj h
    obtain ⟨inner, last, tail, rfl, span, rfl⟩ :=
      Span.lengthAfter_ok_iff.mp (mapError_ok_iff.mp counted)
    rw [Span.take_span] at read
    rw [Span.drop_span] at behind
    exact ⟨inner, last, tail, own, others, rfl, signal, span, read, behind, rfl⟩
  · cases h

theorem countFrom_varData {owner : Owner} {index : Nat} {tokens : List Token}
    {members : List Member} (h : Member.ofVarDataFrom owner index tokens = .ok members) :
    (∀ m ∈ members, m.VarDataOf owner) ∧
      ∀ place, Summary.countFrom .beginVarData place tokens = .ok members.length := by
  induction size : tokens.length using Nat.strongRecOn generalizing index tokens members with
  | ind length ih =>
    cases tokens with
    | nil =>
      rw [Member.ofVarDataFrom] at h
      obtain rfl := Except.ok.inj h
      exact ⟨by simp, fun place => Summary.countFrom_nil⟩
    | cons first rest =>
      obtain ⟨inner, last, tail, own, others, rfl, signal, span, read, behind, rfl⟩ :=
        ofVarDataFrom_cons_ok h
      have shorter : tail.length < length := by
        simp only [List.length_cons, List.length_append] at size
        omega
      obtain ⟨each, counts⟩ := ih _ shorter behind rfl
      refine ⟨?_, ?_⟩
      · intro m mem
        rcases List.mem_cons.mp mem with rfl | back
        · exact ofVarDataSpan_varData read
        · exact each m back
      · intro place
        rw [Summary.countFrom_span span, counts, if_pos signal]
        rfl

/-! ## Groups -/

/-- Accessors of a group of that owner. -/
def Member.GroupOf (owner : Owner) : Member → Prop
  | .group _ owner' _ => owner' = owner
  | _ => False

theorem countFrom_groups {owner : Owner} {index : Nat} {tokens : List Token} {code : GroupCode}
    (h : GroupCode.ofTokensFrom owner index tokens = .ok code) :
    (∀ m ∈ code.members, m.GroupOf owner) ∧
      ∀ place, Summary.countFrom .beginGroup place tokens = .ok code.members.length := by
  induction size : tokens.length using Nat.strongRecOn generalizing index tokens code with
  | ind length ih =>
    cases tokens with
    | nil =>
      rw [GroupCode.ofTokensFrom] at h
      obtain rfl := Except.ok.inj h
      exact ⟨by simp, fun place => Summary.countFrom_nil⟩
    | cons first rest =>
      obtain ⟨inner, last, tail, _, _, _, _, _, others, rfl, signal, span, _, _, _, _, _, behind,
        rfl⟩ := ofTokensFrom_cons_ok h
      have shorter : tail.length < length := by
        simp only [List.length_cons, List.length_append] at size
        omega
      obtain ⟨each, counts⟩ := ih _ shorter behind rfl
      refine ⟨?_, ?_⟩
      · intro m mem
        rcases List.mem_cons.mp mem with rfl | back
        · rfl
        · exact each m back
      · intro place
        rw [Summary.countFrom_span span, counts, if_pos signal]
        rfl

/-! ## Messages -/

/-- The summary of a message counts what was generated for it: of the fields the token of
each, with or without a member; of groups and variable-length data the accessors of the
message itself. -/
structure Counted (tokens : List Token) (m : MessageFlyweight) (counts : MessageSummary) :
    Prop where
  fields : ∃ inner body context parts, interior tokens = .ok inner ∧
    Body.ofTokens inner = .ok body ∧ FieldParts context body.fields parts ∧
    m.members.filter Member.isField = parts.flatten ∧ counts.rootFields = parts.length
  groups : counts.groups = m.members.countP Member.opensGroup
  varData : counts.varData = m.members.countP Member.isVarData
  own : ∀ member ∈ m.members, member.isField = true ∨
    member.GroupOf ⟨.message, m.typeName⟩ ∨ member.VarDataOf ⟨.message, m.typeName⟩

theorem opensGroup_of_groupOf {owner : Owner} {m : Member} (h : m.GroupOf owner) :
    m.opensGroup = true ∧ m.isVarData = false ∧ m.isField = false := by
  cases m <;> first | exact ⟨rfl, rfl, rfl⟩ | exact absurd h id

theorem isVarData_of_varDataOf {owner : Owner} {m : Member} (h : m.VarDataOf owner) :
    m.opensGroup = false ∧ m.isVarData = true ∧ m.isField = false := by
  cases m <;> first | exact ⟨rfl, rfl, rfl⟩ | exact absurd h id

theorem other_of_isField {m : Member} (h : m.isField = true) :
    m.opensGroup = false ∧ m.isVarData = false := by
  simpa [Member.isField] using h

/-- The accessors of each section are told apart in the members of all three. -/
theorem members_apart {owner : Owner} {fields groups varData : List Member}
    (hf : ∀ m ∈ fields, m.isField = true) (hg : ∀ m ∈ groups, m.GroupOf owner)
    (hd : ∀ m ∈ varData, m.VarDataOf owner) :
    (fields ++ groups ++ varData).filter Member.isField = fields ∧
      (fields ++ groups ++ varData).countP Member.opensGroup = groups.length ∧
      (fields ++ groups ++ varData).countP Member.isVarData = varData.length := by
  refine ⟨?_, ?_, ?_⟩
  · rw [List.filter_append, List.filter_append, List.filter_eq_self.mpr hf,
      List.filter_eq_nil_iff.mpr, List.filter_eq_nil_iff.mpr, List.append_nil, List.append_nil]
    · intro m mem
      simp [(isVarData_of_varDataOf (hd m mem)).2.2]
    · intro m mem
      simp [(opensGroup_of_groupOf (hg m mem)).2.2]
  · rw [List.countP_append, List.countP_append, List.countP_eq_zero.mpr,
      List.countP_eq_length.mpr, List.countP_eq_zero.mpr, Nat.zero_add, Nat.add_zero]
    · intro m mem
      simp [(isVarData_of_varDataOf (hd m mem)).1]
    · intro m mem
      exact (opensGroup_of_groupOf (hg m mem)).1
    · intro m mem
      simp [(other_of_isField (hf m mem)).1]
  · rw [List.countP_append, List.countP_append, List.countP_eq_zero.mpr,
      List.countP_eq_zero.mpr, List.countP_eq_length.mpr, Nat.add_zero, Nat.zero_add]
    · intro m mem
      exact (isVarData_of_varDataOf (hd m mem)).2.1
    · intro m mem
      simp [(opensGroup_of_groupOf (hg m mem)).2.1]
    · intro m mem
      simp [(other_of_isField (hf m mem)).2]

/-- A message that is generated has a summary, which counts what was generated. -/
theorem counted_of_ofTokens {tokens : List Token} {m : MessageFlyweight}
    (h : MessageFlyweight.ofTokens tokens = .ok m) :
    ∃ counts, Summary.ofMessage tokens = .ok counts ∧ Counted tokens m counts := by
  obtain ⟨first, inner, last, body, _, groups, varData, rfl, -, span, cut, ff, fg, fd, rfl⟩ :=
    message_ok_iff.mp h
  have inside : interior (first :: (inner ++ [last])) = .ok inner :=
    interior_ok_iff.mpr ⟨first, last, rfl, span⟩
  obtain ⟨parts, found, rfl, hf, countsFields⟩ := countFrom_fields ff
  obtain ⟨hg, countsGroups⟩ := countFrom_groups fg
  obtain ⟨hd, countsData⟩ := countFrom_varData fd
  obtain ⟨onlyFields, numGroups, numData⟩ := members_apart hf hg hd
  refine ⟨⟨first.name, first.id.toInt, first.size.toNat, parts.length, groups.members.length,
    varData.length⟩, ?_, ?_⟩
  · rw [Summary.ofMessage, mapError_ok_iff]
    simp only [mapError_ok_iff.mp inside, cut, Summary.count, countsFields, countsGroups,
      countsData, bind, Except.bind]
    rfl
  · refine ⟨?_, numGroups.symm, numData.symm, ?_⟩
    · exact ⟨inner, body, _, parts, inside, cut, found, onlyFields, rfl⟩
    · intro member mem
      rcases List.mem_append.mp mem with front | back
      · rcases List.mem_append.mp front with field | group
        · exact .inl (hf member field)
        · exact .inr (.inl (hg member group))
      · exact .inr (.inr (hd member back))

/-! ## Schemas -/

/-- The list is one whole span. -/
def OneSpan (tokens : List Token) : Prop :=
  ∃ first inner last, tokens = first :: (inner ++ [last]) ∧ IsSpan first inner last

theorem oneSpan_of_header {o : Options} {s : Schema} {u : SourceUnit}
    (h : headerUnit o s = .ok u) : OneSpan s.header := by
  obtain ⟨d, read, _⟩ := map_ok_iff.mp h
  cases empty : s.header with
  | nil =>
    rw [empty] at read
    cases read
  | cons t rest =>
    rw [empty] at read
    obtain ⟨f, read, _⟩ := map_ok_iff.mp read
    obtain ⟨first, inner, last, shape, span, _⟩ := accepts_ofComposite_iff.mp ⟨f, read⟩
    exact ⟨first, inner, last, shape, span⟩

theorem oneSpan_of_type {o : Options} {s : Schema} {tokens : List Token} {u : SourceUnit}
    (h : typeUnit o s tokens = .ok u) : OneSpan tokens := by
  cases accepts_ofType_iff.mp (accepts_map_iff.mp ⟨u, h⟩) with
  | enumeration _ _ _ span _ => exact ⟨_, _, _, rfl, span⟩
  | set _ _ _ span _ => exact ⟨_, _, _, rfl, span⟩
  | composite _ span _ => exact ⟨_, _, _, rfl, span⟩

theorem oneSpan_of_message {o : Options} {s : Schema} {tokens : List Token} {u : SourceUnit}
    (h : messageUnit o s tokens = .ok u) : OneSpan tokens := by
  obtain ⟨first, inner, last, rfl, _, span, _⟩ :=
    accepts_ofTokens_iff.mp (accepts_map_iff.mp (accepts_map_iff.mp ⟨u, h⟩))
  exact ⟨first, inner, last, rfl, span⟩

theorem oneSpan_of_units {o : Options} {s : Schema} {us : List SourceUnit}
    (h : units o s = .ok us) : ∀ tokens ∈ s.lists, OneSpan tokens := by
  obtain ⟨header, types, messages, generated, _⟩ := units_ok_iff.mp h
  intro tokens mem
  rcases List.mem_cons.mp mem with rfl | behind
  · exact oneSpan_of_header generated.header
  · rcases List.mem_append.mp behind with type | message
    · obtain ⟨i, found⟩ := List.getElem?_of_mem type
      obtain ⟨u, _, read⟩ := getElem?_of_forall₂ generated.types found
      exact oneSpan_of_type read
    · obtain ⟨i, found⟩ := List.getElem?_of_mem message
      obtain ⟨u, _, read⟩ := getElem?_of_forall₂ generated.messages found
      exact oneSpan_of_message read

/-- A list of whole spans is nested. -/
theorem checkNesting_of_oneSpan {s : Schema} (each : ∀ tokens ∈ s.lists, OneSpan tokens) :
    s.checkNesting = .ok () := by
  rw [Schema.checkNesting]
  generalize s.lists = lists at each
  induction lists with
  | nil => rfl
  | cons tokens rest ih =>
    obtain ⟨first, inner, last, rfl, span⟩ := each tokens List.mem_cons_self
    have passes : Span.checkNesting (first :: (inner ++ [last])) = .ok () :=
      Span.checkFrom_ok_iff.mpr span.wellNested
    show (Span.checkNesting (first :: (inner ++ [last])) >>= fun _ =>
      rest.forM Span.checkNesting) = .ok ()
    rw [passes]
    exact ih fun tokens mem => each tokens (List.mem_cons_of_mem _ mem)

/-- A schema whose units are generated passes the check of its nesting and has a summary,
and of each message the summary counts what was generated. -/
theorem counted_of_units {o : Options} {s : Schema} {us : List SourceUnit}
    (h : units o s = .ok us) :
    s.checkNesting = .ok () ∧ (∀ tokens ∈ s.lists, OneSpan tokens) ∧
      ∃ summary, Summary.ofSchema s = .ok summary ∧
        summary.messages.length = s.messages.length ∧
        ∀ (i : Nat) (tokens : List Token), s.messages[i]? = some tokens →
          ∃ m counts, MessageFlyweight.ofTokens tokens = .ok m ∧
            us[1 + s.types.length + i]? = some ((Declaration.message m).unit o s) ∧
            summary.messages[i]? = some counts ∧ Counted tokens m counts := by
  have spans := oneSpan_of_units h
  refine ⟨checkNesting_of_oneSpan spans, spans, ?_⟩
  obtain ⟨header, types, messages, generated, rfl⟩ := units_ok_iff.mp h
  obtain ⟨counts, counted⟩ : Accepts (s.messages.mapM Summary.ofMessage) := by
    refine accepts_mapM_iff.mpr fun tokens mem => ?_
    obtain ⟨i, found⟩ := List.getElem?_of_mem mem
    obtain ⟨u, _, read⟩ := getElem?_of_forall₂ generated.messages found
    obtain ⟨m, made⟩ := accepts_map_iff.mp (accepts_map_iff.mp ⟨u, read⟩)
    obtain ⟨c, summarised, _⟩ := counted_of_ofTokens made
    exact ⟨c, summarised⟩
  have all := mapM_ok_iff.mp counted
  refine ⟨_, by rw [Summary.ofSchema, counted]; rfl, all.length_eq.symm, ?_⟩
  intro i tokens found
  obtain ⟨u, at_, read⟩ := getElem?_of_forall₂ generated.messages found
  obtain ⟨c, counted', summarised⟩ := getElem?_of_forall₂ all found
  obtain ⟨d, declared, rfl⟩ := map_ok_iff.mp read
  obtain ⟨m, made, rfl⟩ := map_ok_iff.mp declared
  obtain ⟨c', summarised', agrees⟩ := counted_of_ofTokens made
  obtain rfl : c = c' := Except.ok.inj (summarised.symm.trans summarised')
  have place : (header :: (types ++ messages))[1 + s.types.length + i]? = messages[i]? := by
    rw [generated.types.length_eq, Nat.add_comm 1, Nat.add_right_comm, List.getElem?_cons_succ,
      List.getElem?_append_right (Nat.le_add_right _ _), Nat.add_sub_cancel_left]
  exact ⟨m, c, made, place.trans at_, counted', agrees⟩

/-- A message with a field, a group that holds a group and variable-length data, and
variable-length data of its own. -/
theorem counted_of_units_nested :
    let byte : Encoding := { primitive := .uint8 }
    let composite (members : List String) : List Token :=
      { signal := .beginComposite, name := "c" } ::
        (members.map fun name => { signal := .encoding, name, encoding := some byte }) ++
          [{ signal := .endComposite, name := "c" }]
    let dimension : List Token := composite ["blockLength", "numInGroup"]
    let data : List Token := { signal := .beginVarData, name := "d" } ::
      composite ["length", "varData"] ++ [{ signal := .endVarData, name := "d" }]
    let inner : List Token := { signal := .beginGroup, name := "h" } ::
      dimension ++ [{ signal := .endGroup, name := "h" }]
    let message : List Token := { signal := .beginMessage, name := "m" } ::
      { signal := .beginField, name := "a" } ::
      { signal := .encoding, name := "a", encoding := some byte } ::
      { signal := .beginGroup, name := "g" } :: dimension ++ inner ++ data ++
      { signal := .endGroup, name := "g" } :: data ++ [{ signal := .endMessage, name := "m" }]
    let s : Schema := { package := "p", header := composite [], messages := [message] }
    ∃ us m counts, units {} s = .ok us ∧ s.checkNesting = .ok () ∧
      MessageFlyweight.ofTokens message = .ok m ∧ Counted message m counts ∧
      us[1]? = some ((Declaration.message m).unit {} s) ∧
      (counts.rootFields, counts.groups, counts.varData) = (1, 1, 1) := by
  intro byte composite dimension data inner message s
  have some_ : (units {} s).toOption.map (·.length) = some 2 := by decide +kernel
  have numbers : (Summary.ofSchema s).toOption.map (·.messages.map fun c =>
      (c.rootFields, c.groups, c.varData)) = some [(1, 1, 1)] := by decide +kernel
  obtain ⟨us, generated, -⟩ := ok_of_map_toOption some_
  obtain ⟨passes, -, summary, summarised, -, each⟩ := counted_of_units generated
  obtain ⟨m, counts, made, at_, counted, agrees⟩ := each 0 message rfl
  obtain ⟨summary', summarised', listed⟩ := ok_of_map_toOption numbers
  obtain rfl : summary = summary' := Except.ok.inj (summarised.symm.trans summarised')
  have first := congrArg (·[0]?) listed
  rw [List.getElem?_map, counted] at first
  exact ⟨us, m, counts, generated, passes, made, agrees, at_, Option.some.inj first⟩

/-- A field whose value is an array of no elements is in the summary, and no member of the
message comes from it. -/
theorem emptyField_counted :
    let header : List Token :=
      [{ signal := .beginComposite, name := "h" }, { signal := .endComposite, name := "h" }]
    let message : List Token := [{ signal := .beginMessage, name := "m" },
      { signal := .beginField, name := "a" },
      { signal := .encoding, name := "a", arrayLength := 0,
        encoding := some { primitive := .uint8 } },
      { signal := .endMessage, name := "m" }]
    let s : Schema := { package := "p", header, messages := [message] }
    ∃ us m counts, units {} s = .ok us ∧ MessageFlyweight.ofTokens message = .ok m ∧
      Summary.ofMessage message = .ok counts ∧ counts.rootFields = 1 ∧
      m.members.countP Member.isField = 0 := by
  intro header message s
  have some_ : (units {} s).toOption.map (·.length) = some 2 := by decide +kernel
  have members : (MessageFlyweight.ofTokens message).toOption.map (·.members) = some [] := by
    decide +kernel
  have fields : (Summary.ofMessage message).toOption.map (·.rootFields) = some 1 := by
    decide +kernel
  obtain ⟨us, generated, -⟩ := ok_of_map_toOption some_
  obtain ⟨m, made, empty⟩ := ok_of_map_toOption members
  obtain ⟨counts, summarised, one⟩ := ok_of_map_toOption fields
  refine ⟨us, m, counts, generated, made, summarised, one, ?_⟩
  rw [empty]
  rfl

end Source

end Flyweight
