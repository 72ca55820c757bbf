import Flyweight.Proofs.Source.Concatenation
import Flyweight.Proofs.Source.Headers

/- The interior of a type is not read where the type is used.

   An enum, a set or a composite has a unit of its own. Where it is the type of a field, or an
   element of another composite, its first token tells all, and its span is passed over as a whole.
   This file

   1. says where a field stands in what the grammar derives (`FieldIn`), and puts other types there;
   2. compares what is read from a body, or from groups, with one type and with another
      (`ReadAlike`), by induction on the way to the field;
   3. concludes that any nested list can stand inside of a type, with the same result
      (`interiors_unread`). -/

namespace Flyweight

namespace Grammar

/-! ## Places of fields -/

/-- The field has that type, in a body or in groups, at any depth. The two lists are what is in
front of the type, with the token of the field at its end, and what is behind the type. -/
inductive FieldIn (field : Token) (type : List Token) :
    Symbol → List Token → List Token → Prop where
  | own {front back groups varData : List Token} (hf : Many Field front)
    (here : Field (field :: type)) (hb : Many Field back) (hg : Derives .groups groups)
    (hd : Many VarData varData) :
    FieldIn field type .body (front ++ [field]) (back ++ groups ++ varData)
  | nested {fields before after varData : List Token} (hf : Many Field fields)
    (hg : FieldIn field type .groups before after) (hd : Many VarData varData) :
    FieldIn field type .body (fields ++ before) (after ++ varData)
  | inside {first last : Token} {header before after rest : List Token}
    (opens : first.signal = .beginGroup) (headed : Header Dimension header)
    (body : FieldIn field type .body before after) (closes : last.signal = .endGroup)
    (others : Derives .groups rest) :
    FieldIn field type .groups (first :: (header ++ before)) (after ++ last :: rest)
  | behind {first last : Token} {header body before after : List Token}
    (opens : first.signal = .beginGroup) (headed : Header Dimension header)
    (inside : Derives .body body) (closes : last.signal = .endGroup)
    (others : FieldIn field type .groups before after) :
    FieldIn field type .groups (first :: (header ++ body ++ last :: before)) after

theorem Many.append {kind : List Token → Prop} {xs ys : List Token} (hx : Many kind xs)
    (hy : Many kind ys) : Many kind (xs ++ ys) := by
  induction hx with
  | nil => exact hy
  | cons first _ ih =>
    rw [List.append_assoc]
    exact .cons first ih

theorem FieldIn.derives {field : Token} {type before after : List Token} {symbol : Symbol}
    (h : FieldIn field type symbol before after) : Derives symbol (before ++ type ++ after) := by
  induction h with
  | @own front back groups varData hf here hb hg hd =>
    have fields : Many Field (front ++ (field :: type ++ back)) := Many.append hf (.cons here hb)
    have body := Derives.body fields hg hd
    simpa only [List.append_assoc, List.cons_append, List.nil_append] using body
  | nested hf _ hd ih =>
    have body := Derives.body hf ih hd
    simpa only [List.append_assoc] using body
  | inside opens headed _ closes others ih =>
    have groups := Derives.cons opens headed ih closes others
    simpa only [List.append_assoc, List.cons_append] using groups
  | behind opens headed inside closes _ ih =>
    have groups := Derives.cons opens headed inside closes ih
    simpa only [List.append_assoc, List.cons_append] using groups

/-- Another type can stand in the place of a field. -/
theorem FieldIn.retype {field : Token} {type type' before after : List Token} {symbol : Symbol}
    (h : FieldIn field type symbol before after) (typed : Field (field :: type')) :
    FieldIn field type' symbol before after := by
  induction h with
  | own hf _ hb hg hd => exact .own hf typed hb hg hd
  | nested hf _ hd ih => exact .nested hf ih hd
  | inside opens headed _ closes others ih => exact .inside opens headed ih closes others
  | behind opens headed inside closes _ ih => exact .behind opens headed inside closes ih

theorem FieldIn.field {field : Token} {type before after : List Token} {symbol : Symbol}
    (h : FieldIn field type symbol before after) : Field (field :: type) := by
  induction h with
  | own _ here _ _ _ => exact here
  | nested _ _ _ ih => exact ih
  | inside _ _ _ _ _ ih => exact ih
  | behind _ _ _ _ _ ih => exact ih

/-- Any nested list without groups and variable-length data can stand inside the type of a
field. -/
theorem Field.refill {field first last : Token} {inner inner' : List Token}
    (h : Field (field :: first :: (inner ++ [last]))) (nested : WellNested inner')
    (flat' : ∀ t ∈ inner', t.signal ≠ .beginGroup ∧ t.signal ≠ .beginVarData) :
    Field (field :: first :: (inner' ++ [last])) := by
  cases h with
  | mk signal type flat =>
    refine .mk signal ?_ fun t mem => ?_
    · generalize shape : first :: (inner ++ [last]) = element at type
      cases type with
      | encoding => exact absurd (congrArg List.length shape) (by simp)
      | enumeration opens encoded span =>
        obtain ⟨rfl, rfl, rfl⟩ := Source.enclosed_inj shape
        exact .enumeration opens encoded ⟨span.closing, nested⟩
      | nested opens span =>
        obtain ⟨rfl, rfl, rfl⟩ := Source.enclosed_inj shape
        exact .nested opens ⟨span.closing, nested⟩
    · rcases List.mem_cons.mp mem with rfl | mem
      · exact flat _ List.mem_cons_self
      · rcases List.mem_append.mp mem with inside | final
        · exact flat' t inside
        · exact flat t (List.mem_cons_of_mem _ (List.mem_append_right _ final))

end Grammar

namespace Source

open Grammar

/-! ## Reading alike -/

/-- What is read from one body is read from the other, section by section. -/
structure BodiesAlike (b b' : Body) : Prop where
  fields (context : String) (members : List Member)
    (h : Member.ofFields context b.fields = .ok members) :
    Member.ofFields context b'.fields = .ok members
  groups (owner : Owner) (code : GroupCode) (h : GroupCode.ofTokens owner b.groups = .ok code) :
    GroupCode.ofTokens owner b'.groups = .ok code
  varData : b'.varData = b.varData

/-- What is read from one list is read from the other. -/
def ReadAlike : Symbol → List Token → List Token → Prop
  | .body, tokens, tokens' => ∃ b b', Body.ofTokens tokens = .ok b ∧
      Body.ofTokens tokens' = .ok b' ∧ BodiesAlike b b'
  | .groups, tokens, tokens' => ∀ owner code, GroupCode.ofTokens owner tokens = .ok code →
      GroupCode.ofTokens owner tokens' = .ok code

/-- The members of a field are those of the first token of its type. -/
theorem fieldPart_of_field {field first : Token} {more : List Token}
    (h : Field (field :: first :: more)) {context : String} {own : List Member}
    (read : Member.ofElement field.name first ownPlace context = .ok own) :
    FieldPart context (field :: first :: more) own := by
  cases h with
  | mk signal type _ =>
    obtain ⟨_, _, shape, element, _⟩ := typeElement_iff.mp type
    obtain ⟨rfl, rfl⟩ := List.cons.inj shape
    exact .mk signal element read

theorem accepts_element_of_field {field first : Token} {more : List Token}
    (h : Field (field :: first :: more)) (context : String) :
    Accepts (Member.ofElement field.name first ownPlace context) := by
  cases h with
  | mk signal type _ =>
    obtain ⟨_, _, shape, _, typed⟩ := typeElement_iff.mp type
    obtain ⟨rfl, rfl⟩ := List.cons.inj shape
    exact accepts_ofElement_iff.mpr typed

/-- The header of a group is read as it is, whatever is behind it. -/
theorem headedSpan_of_header {first last : Token} {header : List Token}
    {required : List Token → Prop} (headed : Header required header)
    (closing : first.signal.closing = some last.signal) (context : String) :
    ∃ h : HeadedSpan, ∀ body, WellNested body →
      HeadedSpan.ofTokens context (first :: (header ++ body ++ [last])) =
        .ok { h with rest := body } := by
  cases headed with
  | @mk composite close members signal span _ =>
    refine ⟨⟨composite, members, []⟩, fun body nested => ?_⟩
    have whole : IsSpan first (composite :: (members ++ close :: body)) last := by
      refine ⟨closing, ?_⟩
      have inner := span.wellNested.append nested
      rwa [List.cons_append, List.append_assoc, List.singleton_append] at inner
    have shape : first :: (composite :: (members ++ [close]) ++ body ++ [last]) =
        first :: (composite :: (members ++ close :: body) ++ [last]) := by
      simp only [List.cons_append, List.append_assoc, List.nil_append]
    exact headedSpan_ok_iff.mpr ⟨first, close, last, shape, whole, signal, span⟩

/-- The same is read from a group if the same is read from its body. -/
theorem ofSpan_alike {owner : Owner} {first last : Token} {header body body' : List Token}
    (headed : Header Dimension header) (closing : first.signal.closing = some last.signal)
    (nested : WellNested body) (nested' : WellNested body') (alike : ReadAlike .body body body')
    {own : GroupCode} (h : GroupCode.ofSpan owner first (header ++ body ++ [last]) = .ok own) :
    GroupCode.ofSpan owner first (header ++ body' ++ [last]) = .ok own := by
  obtain ⟨b, b', cut, cut', sections⟩ := alike
  obtain ⟨g, read, h⟩ := bind_ok_iff.mp h
  obtain ⟨fields, hf, h⟩ := bind_ok_iff.mp h
  obtain ⟨groups, hg, h⟩ := bind_ok_iff.mp h
  obtain ⟨varData, hd, h⟩ := bind_ok_iff.mp h
  obtain ⟨cursor, hc, made⟩ := bind_ok_iff.mp h
  obtain ⟨h₀, split_⟩ := headedSpan_of_header headed closing (GroupSpan.context first.name)
  obtain ⟨h₁, split₁, blockLength, count, bodyCut, whole⟩ := groupSpan_ok_iff.mp read
  obtain rfl := Except.ok.inj ((split_ body nested).symm.trans split₁)
  obtain rfl : b = g.body := Except.ok.inj (cut.symm.trans bodyCut)
  have read' : GroupSpan.ofTokens first (header ++ body' ++ [last]) =
      .ok { g with body := b' } := by
    refine groupSpan_ok_iff.mpr ⟨_, split_ body' nested', blockLength, count, cut', ?_⟩
    rw [whole]
  have hd' : Member.ofVarData ⟨.group, owner.groupType first.name⟩ b'.varData = .ok varData := by
    rw [sections.varData]
    exact hd
  exact bind_ok_iff.mpr ⟨_, read', bind_ok_iff.mpr ⟨fields, sections.fields _ _ hf,
    bind_ok_iff.mpr ⟨groups, sections.groups _ _ hg, bind_ok_iff.mpr ⟨varData, hd',
      bind_ok_iff.mpr ⟨cursor, hc, made⟩⟩⟩⟩⟩

/-- The first group of a list that is read is read on its own. -/
theorem exists_groupPart {owner : Owner} {index : Nat} {first last : Token}
    {inner rest : List Token} {code : GroupCode} (opens : first.signal = .beginGroup)
    (span : IsSpan first inner last)
    (h : GroupCode.ofTokensFrom owner index (first :: (inner ++ [last]) ++ rest) = .ok code) :
    ∃ own, GroupCode.ofSpan owner first (inner ++ [last]) = .ok own ∧
      GroupPart owner (first :: (inner ++ [last])) own := by
  rw [List.cons_append, List.append_assoc, List.singleton_append,
    GroupCode.ofTokensFrom_span owner index opens span] at h
  obtain ⟨own, read, -⟩ := bind_ok_iff.mp h
  exact ⟨own, read, .mk opens span read⟩

/-- Behind the first token of the type of a field, another interior makes no difference. -/
theorem readAlike_of_fieldIn {field first : Token} {more more' before after : List Token}
    {symbol : Symbol} (h : FieldIn field (first :: more) symbol before after)
    (typed' : Field (field :: first :: more')) :
    ReadAlike symbol (before ++ first :: more ++ after) (before ++ first :: more' ++ after) := by
  -- The induction follows the way from the body of the message to the field.
  induction h with
  | @own front back groups varData hf here hb hg hd =>
    have sections (type : List Token) (typed : Field (field :: type)) :
        Body.ofTokens (front ++ [field] ++ type ++ (back ++ groups ++ varData)) =
          .ok ⟨front ++ (field :: type ++ back), groups, varData⟩ := by
      have cut := ofTokens_sections (Many.append hf (.cons typed hb)) hg hd
      simpa only [List.append_assoc, List.cons_append, List.nil_append] using cut
    refine ⟨_, _, sections _ here, sections _ typed', fun context members read => ?_,
      fun _ _ read => read, rfl⟩
    obtain ⟨own, element⟩ := accepts_element_of_field here context
    obtain ⟨x, inFront⟩ := @accepts_ofFieldsFrom context 0 _ hf
    exact (piecewise_fields context).exchange inFront (fieldPart_of_field here element)
      (fieldPart_of_field typed' element) read
  | @nested fields before after varData hf hg hd ih =>
    have sections (type : List Token) (place : FieldIn field type .groups before after) :
        Body.ofTokens (fields ++ before ++ type ++ (after ++ varData)) =
          .ok ⟨fields, before ++ type ++ after, varData⟩ := by
      have cut := ofTokens_sections hf place.derives hd
      simpa only [List.append_assoc] using cut
    exact ⟨_, _, sections _ hg, sections _ (hg.retype typed'), fun _ _ read => read, ih, rfl⟩
  | @inside head last header before after rest opens headed body closes others ih =>
    intro owner code read
    have closing : head.signal.closing = some last.signal := by
      rw [opens, closes]
      rfl
    have nested := body.derives.wellNested
    have nested' := (body.retype typed').derives.wellNested
    have shape (type : List Token) :
        head :: (header ++ before) ++ type ++ (after ++ last :: rest) =
          [] ++ (head :: (header ++ (before ++ type ++ after) ++ [last]) ++ rest) := by
      simp only [List.append_assoc, List.cons_append, List.nil_append]
    rw [shape] at read ⊢
    obtain ⟨own, group, part⟩ :=
      exists_groupPart opens ⟨closing, headed.wellNested.append nested⟩ read
    have group' := ofSpan_alike headed closing nested nested' ih group
    have part' := GroupPart.mk opens ⟨closing, headed.wellNested.append nested'⟩ group'
    have w := piecewise_groups owner
    exact w.exchange (w.stops 0) part part' read
  | @behind head last header body before after opens headed inside closes others ih =>
    intro owner code read
    have span : IsSpan head (header ++ body) last :=
      ⟨by rw [opens, closes]; rfl, headed.wellNested.append inside.wellNested⟩
    have shape (type : List Token) :
        head :: (header ++ body ++ last :: before) ++ type ++ after =
          head :: (header ++ body ++ [last]) ++ (before ++ type ++ after) := by
      simp only [List.append_assoc, List.cons_append, List.nil_append]
    rw [shape] at read ⊢
    obtain ⟨own, -, part⟩ := exists_groupPart opens span read
    have w := piecewise_groups owner
    obtain ⟨y, rest, rfl⟩ := (w.goes part 0 _ code).mp read
    exact (w.goes part 0 _ _).mpr ⟨y, w.moved (ih owner y (w.moved rest 0)) _, rfl⟩

/-! ## Elements of composites -/

theorem elements_cons_iff {first : Token} {rest : List Token} :
    Many TypeElement (first :: rest) ↔ ∃ more tail, rest = more ++ tail ∧ IsElement first more ∧
      Typed first ∧ Many TypeElement tail := by
  rw [← @accepts_ofCompositeFrom_iff "" 0, accepts_ofCompositeFrom_cons]
  simp only [accepts_ofCompositeFrom_iff]

/-- Elements start where the nesting in front ends. -/
theorem elements_apart {front back : List Token} (nested : WellNested front)
    (h : Many TypeElement (front ++ back)) : Many TypeElement front ∧ Many TypeElement back := by
  induction nested with
  | nil => exact ⟨.nil, h⟩
  | @plain t rest opens _ _ ih =>
    rw [List.cons_append] at h
    obtain ⟨more, tail, shape, element, typed, others⟩ := elements_cons_iff.mp h
    cases element with
    | single _ =>
      obtain ⟨inFront, behind⟩ := ih (shape.symm ▸ others)
      exact ⟨elements_cons_iff.mpr ⟨[], rest, rfl, .single opens, typed, inFront⟩, behind⟩
    | span span => exact nomatch opens.symm.trans span.closing
  | @span first last inner rest closing nested _ _ ih =>
    rw [List.cons_append, List.append_assoc, List.cons_append] at h
    obtain ⟨more, tail, shape, element, typed, others⟩ := elements_cons_iff.mp h
    cases element with
    | single opens => exact nomatch opens.symm.trans closing
    | @span inner' last' span' =>
      rw [List.append_assoc, List.singleton_append] at shape
      obtain ⟨rfl, rfl, rfl⟩ := span_unique ⟨closing, nested⟩ span' shape
      obtain ⟨inFront, behind⟩ := ih others
      exact ⟨elements_cons_iff.mpr ⟨inner ++ [last], rest, List.append_cons .., .span span', typed,
        inFront⟩, behind⟩

/-! ## Interiors -/

/-- The interior of a type makes no difference where the type is used: any nested list can stand
inside the span of an enum, a set or a composite that is the type of a field, in a message or at
any depth in a group of it, as long as there is no group and no variable-length data in that list;
and inside a span that stands in a composite. -/
theorem interiors_unread {first last : Token} {inner inner' : List Token}
    (balanced : Span.checkNesting inner' = .ok ()) :
    (∀ (opens closes field : Token) (before after : List Token) (m : MessageFlyweight),
      FieldIn field (first :: (inner ++ [last])) .body before after →
      (∀ t ∈ inner', t.signal ≠ .beginGroup ∧ t.signal ≠ .beginVarData) →
      MessageFlyweight.ofTokens
        (opens :: (before ++ first :: (inner ++ [last]) ++ after ++ [closes])) = .ok m →
      MessageFlyweight.ofTokens
        (opens :: (before ++ first :: (inner' ++ [last]) ++ after ++ [closes])) = .ok m) ∧
    (∀ (typeName : String) (opens closes : Token) (front back : List Token) (f : FixedFlyweight),
      WellNested front → IsSpan first inner last →
      FixedFlyweight.ofComposite typeName
        (opens :: (front ++ first :: (inner ++ [last]) ++ back ++ [closes])) = .ok f →
      FixedFlyweight.ofComposite typeName
        (opens :: (front ++ first :: (inner' ++ [last]) ++ back ++ [closes])) = .ok f) := by
  have nested' : WellNested inner' := Span.checkFrom_ok_iff.mp balanced
  constructor
  · intro opens closes field before after m place flat read
    have typed' := Field.refill place.field nested' flat
    obtain ⟨b, b', cut, cut', alike⟩ := readAlike_of_fieldIn place typed'
    obtain ⟨head, body, final, b₁, fields, groups, varData, shape, signal, span, cut₁, hf, hg, hd,
      rfl⟩ := message_ok_iff.mp read
    obtain ⟨rfl, rfl, rfl⟩ := enclosed_inj shape
    obtain rfl : b = b₁ := Except.ok.inj (cut.symm.trans cut₁)
    have span' : IsSpan opens (before ++ first :: (inner' ++ [last]) ++ after) closes :=
      ⟨span.closing, (place.retype typed').derives.wellNested⟩
    rw [← alike.varData] at hd
    exact message_ok_iff.mpr ⟨opens, _, closes, b', fields, groups, varData, rfl, signal, span',
      cut', alike.fields _ _ hf, alike.groups _ _ hg, hd, rfl⟩
  · intro typeName opens closes front back f nestedFront own read
    obtain ⟨head, body, final, members, shape, span, found, rfl⟩ := composite_ok_iff.mp read
    obtain ⟨rfl, rfl, rfl⟩ := enclosed_inj shape
    have elements := accepts_ofCompositeFrom_iff.mp ⟨members, found⟩
    rw [List.append_assoc] at elements found
    obtain ⟨inFront, here⟩ := elements_apart nestedFront elements
    obtain ⟨-, behind⟩ := elements_apart own.wellNested here
    obtain ⟨-, -, -, -, typed, -⟩ := elements_cons_iff.mp here
    obtain ⟨x, frontRead⟩ := @accepts_ofCompositeFrom_iff _ 0 _ |>.mpr inFront
    obtain ⟨y, read⟩ := accepts_ofElement_iff.mpr typed
    have own' : IsSpan first inner' last := ⟨own.closing, nested'⟩
    have found' := (piecewise_composite _).exchange frontRead (.mk (.span own) read)
      (.mk (.span own') read) found
    rw [← List.append_assoc] at found'
    have nestedBack := Many.wellNested (fun _ => TypeElement.wellNested) behind
    have span' : IsSpan opens (front ++ first :: (inner' ++ [last]) ++ back) closes :=
      ⟨span.closing, (nestedFront.append own'.wellNested).append nestedBack⟩
    exact composite_ok_iff.mpr ⟨opens, _, closes, members, rfl, span', found', rfl⟩

/-- The set of a field in a group, with a composite inside it in place of its choice; and the same
set in a composite, with a group inside it. -/
theorem interiors_unread_nested :
    let first : Token := { signal := .beginSet, name := "Extras", size := 1 }
    let last : Token := { signal := .endSet, name := "Extras" }
    let choice : Token := { signal := .choice, name := "sunRoof" }
    let composite : List Token :=
      [{ signal := .beginComposite, name := "inner" }, { signal := .endComposite, name := "inner" }]
    let group : List Token :=
      [{ signal := .beginGroup, name := "inner" }, { signal := .endGroup, name := "inner" }]
    let header : List Token :=
      [{ signal := .beginComposite, name := "groupSize", size := 2 },
        { signal := .encoding, name := "blockLength", encoding := some { primitive := .uint8 } },
        { signal := .encoding, name := "numInGroup", offset := 1,
          encoding := some { primitive := .uint8 } },
        { signal := .endComposite, name := "groupSize" }]
    let field : Token := { signal := .beginField, name := "extras" }
    let car (inner : List Token) : List Token :=
      { signal := .beginMessage, name := "car" } :: { signal := .beginGroup, name := "models" } ::
        (header ++ field :: first :: (inner ++ [last]) ++
          [{ signal := .endGroup, name := "models" }, { signal := .endMessage, name := "car" }])
    let engine (inner : List Token) : List Token :=
      { signal := .beginComposite, name := "engine" } ::
        { signal := .encoding, name := "power", encoding := some { primitive := .uint8 } } ::
          first :: (inner ++ [last, { signal := .endComposite, name := "engine" }])
    (∃ m, MessageFlyweight.ofTokens (car [choice]) = .ok m ∧
      MessageFlyweight.ofTokens (car composite) = .ok m) ∧
    ∃ f, FixedFlyweight.ofComposite "Engine" (engine [choice]) = .ok f ∧
      FixedFlyweight.ofComposite "Engine" (engine group) = .ok f := by
  intro first last choice composite group header field car engine
  have span : IsSpan first [choice] last := ⟨rfl, .single rfl rfl⟩
  constructor
  · have accepted : (MessageFlyweight.ofTokens (car [choice])).map MessageFlyweight.typeName =
        .ok "Car" := by
      decide +kernel
    obtain ⟨m, read, -⟩ := map_ok_iff.mp accepted
    have typed : Field (field :: first :: ([choice] ++ [last])) :=
      .mk rfl (.nested (.inl rfl) span) (by decide)
    have headed : Header Dimension header :=
      .mk rfl ⟨rfl, .append (.single rfl rfl) (.single rfl rfl)⟩
        ⟨⟨_, _, rfl, rfl, rfl⟩, ⟨_, _, rfl, rfl, rfl⟩⟩
    have place : FieldIn field (first :: ([choice] ++ [last])) .body
        ({ signal := .beginGroup, name := "models" } :: (header ++ [field]))
        [{ signal := .endGroup, name := "models" }] :=
      .nested .nil (.inside rfl headed (.own .nil typed .nil .nil .nil) rfl .nil) .nil
    have balanced : Span.checkNesting composite = .ok () := by decide
    exact ⟨m, read, (interiors_unread balanced).1 { signal := .beginMessage, name := "car" }
      { signal := .endMessage, name := "car" } field _ _ m place (by decide) read⟩
  · have accepted : (FixedFlyweight.ofComposite "Engine" (engine [choice])).map
        FixedFlyweight.typeName = .ok "Engine" := by
      decide +kernel
    obtain ⟨f, read, -⟩ := map_ok_iff.mp accepted
    have balanced : Span.checkNesting group = .ok () := by decide
    exact ⟨f, read, (interiors_unread balanced).2 "Engine"
      { signal := .beginComposite, name := "engine" }
      { signal := .endComposite, name := "engine" }
      [{ signal := .encoding, name := "power", encoding := some { primitive := .uint8 } }] [] f
      (.single rfl rfl) span read⟩

end Source

end Flyweight
