import Flyweight.Proofs.Source.Acceptance
import Flyweight.Proofs.Source.Output

/- The grammar of the token list of a type.

   A type is a span: of an enum around its valid values, of a set around its choices, or of
   a composite around elements that are types of their own. Each of the three is read by a
   generator of its own, which asks for things in an order of its own. This file

   1. states the grammar (`TypeList`), with the conditions on every token that stands
      directly inside the span;
   2. says of each generator which lists it accepts, and of the generator of sets which
      bits its accessors name;
   3. puts the three together: the unit of a type is generated exactly from the lists of
      the grammar, there is an error for any other, and no accessor names a bit outside
      the word of its set.

   The spans inside a composite are passed over as a whole, so nothing is asked of what
   they hold but that it is nested. -/

namespace Flyweight

namespace Grammar

/-! ## The grammar -/

/-- A valid value of an enum: its constant fits its own encoding. -/
structure ValidValue (t : Token) : Prop where
  signal : t.signal = .validValue
  valued : ∃ e c, t.encoding = some e ∧ e.constant = some c ∧ c.fits e.primitive = true

/-- A choice of a set of that many bits: its constant is the index of one of them. -/
structure ChoiceOf (bits : Nat) (t : Token) : Prop where
  signal : t.signal = .choice
  indexed : ∃ e c, ∃ n : Int, t.encoding = some e ∧ e.constant = some c ∧
    c.integer? = some n ∧ 0 ≤ n ∧ n < bits

/-- The token list of a type. -/
inductive TypeList : List Token → Prop where
  | enumeration {first last : Token} {inner : List Token} {e : Encoding}
    (opens : first.signal = .beginEnum) (encoded : first.encoding = some e)
    (integral : Integral e) (span : IsSpan first inner last)
    (values : ∀ t ∈ inner, ValidValue t) : TypeList (first :: (inner ++ [last]))
  | set {first last : Token} {inner : List Token} {e : Encoding}
    (opens : first.signal = .beginSet) (encoded : first.encoding = some e)
    (unsigned : e.primitive.isUnsigned = true) (span : IsSpan first inner last)
    (choices : ∀ t ∈ inner, ChoiceOf (8 * e.primitive.size) t) :
    TypeList (first :: (inner ++ [last]))
  | composite {first last : Token} {inner : List Token} (opens : first.signal = .beginComposite)
    (span : IsSpan first inner last) (elements : Many TypeElement inner) :
    TypeList (first :: (inner ++ [last]))

end Grammar

/-- A traversal has a result when it has one for every item. -/
theorem accepts_mapM_iff {f : α → Except ε β} {items : List α} :
    Accepts (items.mapM f) ↔ ∀ a ∈ items, Accepts (f a) := by
  induction items with
  | nil =>
    rw [List.mapM_nil]
    exact ⟨fun _ a mem => (nomatch mem), fun _ => accepts_pure []⟩
  | cons a rest ih =>
    rw [List.mapM_cons, accepts_bind_iff]
    constructor
    · intro given
      obtain ⟨b, first, accepted⟩ := given
      obtain ⟨bs, others, _⟩ := accepts_bind_iff.mp accepted
      intro a' mem
      rcases List.mem_cons.mp mem with rfl | inside
      · exact ⟨b, first⟩
      · exact ih.mp ⟨bs, others⟩ a' inside
    · intro all
      obtain ⟨b, first⟩ := all a List.mem_cons_self
      obtain ⟨bs, others⟩ := ih.mpr fun a' inside => all a' (List.mem_cons_of_mem a inside)
      exact ⟨b, first, accepts_bind_iff.mpr ⟨bs, others, accepts_pure _⟩⟩

namespace Source

open Grammar

/-- What a traversal yields is found for one of its items. -/
theorem mem_of_mapM {f : α → Except ε β} {items : List α} {results : List β}
    (h : items.mapM f = .ok results) {b : β} (mem : b ∈ results) : ∃ a ∈ items, f a = .ok b :=
  mem_of_forall₂ (mapM_ok_iff.mp h) mem

theorem requireConstant_ok_iff {t : Token} (carries : t.signal.carriesEncoding = true)
    {c : Constant} :
    t.requireConstant = .ok c ↔ ∃ e, t.encoding = some e ∧ e.constant = some c := by
  rw [Token.requireConstant]
  constructor
  · intro h
    cases encoded : t.sourceEncoding with
    | error e => simp [encoded, bind, Except.bind] at h
    | ok e =>
      refine ⟨e, (sourceEncoding_ok_iff carries).mp encoded, ?_⟩
      cases constant : e.constant with
      | none => simp [encoded, constant, bind, Except.bind] at h
      | some c' => simpa [encoded, constant, bind, Except.bind] using h
  · intro given
    obtain ⟨e, encoded, constant⟩ := given
    simp [(sourceEncoding_ok_iff carries).mpr encoded, constant, bind, Except.bind]

/-! ## Enums -/

/-- What is read for a token inside the span of an enum. -/
theorem accepts_variant_iff {context : String} {t : Token} :
    Accepts (do
      if t.signal ≠ .validValue then
        throw (.unexpectedSignal t.signal t.name context)
      let literal ← t.literal
      let code ← t.requireConstant
      return ({ typeName := Identifier.typeName t.name, code, literal } : Variant)) ↔
      ValidValue t := by
  by_cases signal : t.signal = .validValue
  · have carries : t.signal.carriesEncoding = true := by
      rw [signal]
      rfl
    rw [if_neg (not_not_intro signal)]
    constructor
    · intro accepted
      obtain ⟨literal, found, _⟩ := accepts_bind_iff.mp accepted
      obtain ⟨e, encoded, _⟩ := accepts_bind_iff.mp (⟨literal, found⟩ : Accepts t.literal)
      obtain ⟨c, constant, fits⟩ := (accepts_literal_iff encoded).mp ⟨literal, found⟩
      exact ⟨signal, e, c, (sourceEncoding_ok_iff carries).mp encoded, constant, fits⟩
    · intro given
      obtain ⟨_, e, c, encoded, constant, fits⟩ := given
      have known := (sourceEncoding_ok_iff carries).mpr encoded
      obtain ⟨literal, found⟩ := (accepts_literal_iff known).mpr ⟨c, constant, fits⟩
      have required := (requireConstant_ok_iff carries).mpr ⟨e, encoded, constant⟩
      exact accepts_bind_iff.mpr ⟨literal, found,
        accepts_bind_iff.mpr ⟨c, required, accepts_pure _⟩⟩
  · rw [if_pos signal]
    constructor
    · intro accepted
      obtain ⟨_, refused, _⟩ := accepts_bind_iff.mp accepted
      exact nomatch refused
    · intro value
      exact absurd value.signal signal

/-- A list is read as an enum when it is one span around valid values, and its first token
has an encoding of integers. -/
theorem accepts_enumeration_iff {tokens : List Token} :
    Accepts (Enumeration.ofTokens tokens) ↔ ∃ first inner last e,
      tokens = first :: (inner ++ [last]) ∧ first.sourceEncoding = .ok e ∧ Integral e ∧
        IsSpan first inner last ∧ ∀ t ∈ inner, ValidValue t := by
  rw [Enumeration.ofTokens, accepts_bind_iff]
  constructor
  · intro given
    obtain ⟨first, opened, accepted⟩ := given
    obtain ⟨e, encoded, accepted⟩ := accepts_bind_iff.mp accepted
    by_cases integral : e.primitive.isIntegral = true
    · rw [if_pos integral] at accepted
      obtain ⟨inner, inside, accepted⟩ := accepts_bind_iff.mp accepted
      obtain ⟨variants, found, _⟩ := accepts_bind_iff.mp accepted
      obtain ⟨first', last, rfl, span⟩ := interior_ok_iff.mp inside
      obtain rfl : first' = first := Except.ok.inj opened
      have values := accepts_mapM_iff.mp ⟨variants, found⟩
      exact ⟨first', inner, last, e, rfl, encoded, integral, span,
        fun t mem => accepts_variant_iff.mp (values t mem)⟩
    · rw [if_neg integral] at accepted
      obtain ⟨_, refused, _⟩ := accepts_bind_iff.mp accepted
      exact nomatch refused
  · intro given
    obtain ⟨first, inner, last, e, rfl, encoded, integral, span, values⟩ := given
    have inside : interior (first :: (inner ++ [last])) = .ok inner :=
      interior_ok_iff.mpr ⟨first, last, rfl, span⟩
    refine ⟨first, rfl, accepts_bind_iff.mpr ⟨e, encoded, ?_⟩⟩
    rw [if_pos (show e.primitive.isIntegral = true from integral)]
    obtain ⟨variants, found⟩ := accepts_mapM_iff.mpr fun t mem =>
      accepts_variant_iff.mpr (values t mem)
    exact accepts_bind_iff.mpr ⟨inner, inside,
      accepts_bind_iff.mpr ⟨variants, found, accepts_pure _⟩⟩

/-! ## Sets -/

theorem natural?_eq_some_iff {c : Constant} {bit : Nat} :
    c.natural? = some bit ↔ c.integer? = some (bit : Int) := by
  cases c with
  | long v =>
    simp only [Constant.natural?, Constant.integer?, Option.some.injEq]
    by_cases sign : 0 ≤ v.toInt
    · rw [if_pos sign, Option.some.injEq]
      omega
    · rw [if_neg sign]
      constructor
      · intro h
        exact nomatch h
      · intro h
        omega
  | unsignedLong v =>
    simp only [Constant.natural?, Constant.integer?, Option.some.injEq]
    omega
  | double x => exact ⟨fun h => (nomatch h), fun h => nomatch h⟩

/-- The accessors of a choice name the bit that its constant denotes, which is one of the
bits of the word. -/
theorem ofChoice_ok_iff {t : Token} (signal : t.signal = .choice) {set : Encoding} {m : Member} :
    Member.ofChoice t set = .ok m ↔ ∃ e c bit, t.encoding = some e ∧ e.constant = some c ∧
      c.natural? = some bit ∧ bit < 8 * set.primitive.size ∧
      m = .choice t.name bit set.primitive set.byteOrder := by
  have carries : t.signal.carriesEncoding = true := by
    rw [signal]
    rfl
  constructor
  · intro h
    cases required : t.requireConstant with
    | error e => simp [Member.ofChoice, required, bind, Except.bind] at h
    | ok c =>
      obtain ⟨e, encoded, constant⟩ := (requireConstant_ok_iff carries).mp required
      simp only [Member.ofChoice, required, bind, Except.bind] at h
      split at h
      · exact nomatch h
      · rename_i bit index
        split at h
        · exact nomatch h
        · rename_i inside
          exact ⟨e, c, bit, encoded, constant, index, by omega, (Except.ok.inj h).symm⟩
  · intro given
    obtain ⟨e, c, bit, encoded, constant, index, inside, rfl⟩ := given
    have required := (requireConstant_ok_iff carries).mpr ⟨e, encoded, constant⟩
    have below : ¬ set.primitive.size * 8 ≤ bit := by omega
    simp only [Member.ofChoice, required, bind, Except.bind, index, if_neg below]

theorem accepts_ofChoice_iff {context : String} {t : Token} {set : Encoding} :
    Accepts (if t.signal = .choice then Member.ofChoice t set
      else .error (.unexpectedSignal t.signal t.name context)) ↔
      ChoiceOf (8 * set.primitive.size) t := by
  by_cases signal : t.signal = .choice
  · rw [if_pos signal]
    constructor
    · intro accepted
      obtain ⟨m, read⟩ := accepted
      obtain ⟨e, c, bit, encoded, constant, index, inside, _⟩ := (ofChoice_ok_iff signal).mp read
      refine ⟨signal, e, c, bit, encoded, constant, natural?_eq_some_iff.mp index, ?_, ?_⟩
      · omega
      · omega
    · intro choice
      obtain ⟨_, e, c, n, encoded, constant, denotes, low, high⟩ := choice
      have index : c.natural? = some n.toNat := by
        rw [natural?_eq_some_iff, denotes, Int.toNat_of_nonneg low]
      exact ⟨_, (ofChoice_ok_iff signal).mpr
        ⟨e, c, n.toNat, encoded, constant, index, by omega, rfl⟩⟩
  · rw [if_neg signal]
    exact ⟨fun h => absurd h (not_accepts_error _), fun choice => absurd choice.signal signal⟩

/-- A list is read as a set when it is one span around choices, and its first token has an
encoding of unsigned integers, whose bits the choices name. -/
theorem accepts_ofSet_iff {typeName : String} {tokens : List Token} :
    Accepts (FixedFlyweight.ofSet typeName tokens) ↔ ∃ first inner last e,
      tokens = first :: (inner ++ [last]) ∧ first.sourceEncoding = .ok e ∧
        e.primitive.isUnsigned = true ∧ IsSpan first inner last ∧
        ∀ t ∈ inner, ChoiceOf (8 * e.primitive.size) t := by
  rw [FixedFlyweight.ofSet, accepts_bind_iff]
  constructor
  · intro given
    obtain ⟨first, opened, accepted⟩ := given
    obtain ⟨e, encoded, accepted⟩ := accepts_bind_iff.mp accepted
    by_cases unsigned : e.primitive.isUnsigned = true
    · rw [if_pos unsigned] at accepted
      obtain ⟨inner, inside, accepted⟩ := accepts_bind_iff.mp accepted
      obtain ⟨choices, found, _⟩ := accepts_bind_iff.mp accepted
      obtain ⟨first', last, rfl, span⟩ := interior_ok_iff.mp inside
      obtain rfl : first' = first := Except.ok.inj opened
      have read := accepts_mapM_iff.mp ⟨choices, found⟩
      exact ⟨first', inner, last, e, rfl, encoded, unsigned, span,
        fun t mem => accepts_ofChoice_iff.mp (read t mem)⟩
    · rw [if_neg unsigned] at accepted
      obtain ⟨_, refused, _⟩ := accepts_bind_iff.mp accepted
      exact nomatch refused
  · intro given
    obtain ⟨first, inner, last, e, rfl, encoded, unsigned, span, choices⟩ := given
    have inside : interior (first :: (inner ++ [last])) = .ok inner :=
      interior_ok_iff.mpr ⟨first, last, rfl, span⟩
    refine ⟨first, rfl, accepts_bind_iff.mpr ⟨e, encoded, ?_⟩⟩
    rw [if_pos unsigned]
    obtain ⟨members, found⟩ := accepts_mapM_iff.mpr fun t mem =>
      accepts_ofChoice_iff.mpr (choices t mem)
    exact accepts_bind_iff.mpr ⟨inner, inside,
      accepts_bind_iff.mpr ⟨members, found, accepts_pure _⟩⟩

/-! ## Composites -/

/-- An element of a composite, and the elements behind it. -/
theorem accepts_ofCompositeFrom_cons {context : String} {index : Nat} {first : Token}
    {rest : List Token} :
    Accepts (Member.ofCompositeFrom context index (first :: rest)) ↔
      ∃ more tail, rest = more ++ tail ∧ IsElement first more ∧ Typed first ∧
        Accepts (Member.ofCompositeFrom context (index + more.length + 1) tail) := by
  rw [Member.ofCompositeFrom]
  simp only [accepts_bind_iff, mapError_ok_iff, Span.elementLengthAfter_ok_iff]
  constructor
  · intro given
    obtain ⟨count, ⟨more, tail, rfl, element, rfl⟩, members, typed, others, accepted, _⟩ := given
    rw [List.drop_left] at accepted
    exact ⟨more, tail, rfl, element, accepts_ofElement_iff.mp ⟨members, typed⟩, others, accepted⟩
  · intro given
    obtain ⟨more, tail, rfl, element, typed, others, accepted⟩ := given
    obtain ⟨members, found⟩ := accepts_ofElement_iff.mpr typed
    refine ⟨more.length, ⟨more, tail, rfl, element, rfl⟩, members, found, others, ?_, accepts_ok _⟩
    rwa [List.drop_left]

theorem accepts_ofCompositeFrom_iff {context : String} {index : Nat} {tokens : List Token} :
    Accepts (Member.ofCompositeFrom context index tokens) ↔ Many TypeElement tokens := by
  constructor
  · intro accepted
    -- The walker goes on behind a whole element, so the induction is on the length.
    induction size : tokens.length using Nat.strongRecOn generalizing index tokens with
    | ind length ih =>
      cases tokens with
      | nil => exact .nil
      | cons first rest =>
        obtain ⟨more, tail, rfl, element, typed, accepted⟩ :=
          accepts_ofCompositeFrom_cons.mp accepted
        have shorter : tail.length < length := by
          simp only [List.length_cons, List.length_append] at size
          omega
        have front : TypeElement (first :: more) :=
          typeElement_iff.mpr ⟨first, more, rfl, element, typed⟩
        exact .cons front (ih _ shorter accepted rfl)
  · intro elements
    induction elements generalizing index with
    | nil =>
      rw [Member.ofCompositeFrom]
      exact accepts_ok []
    | cons front _ ih =>
      obtain ⟨first, more, rfl, element, typed⟩ := typeElement_iff.mp front
      exact accepts_ofCompositeFrom_cons.mpr ⟨more, _, rfl, element, typed, ih⟩

/-- A composite is read from one span, of which the members are those of the elements inside. The
signal of the token that opens it is not looked at. -/
theorem composite_ok_iff {typeName : String} {tokens : List Token} {f : FixedFlyweight} :
    FixedFlyweight.ofComposite typeName tokens = .ok f ↔ ∃ first inner last members,
      tokens = first :: (inner ++ [last]) ∧ IsSpan first inner last ∧
        Member.ofComposite s!"composite '{first.name}'" inner = .ok members ∧
          f = ⟨typeName, first.size.toNat, members⟩ := by
  rw [FixedFlyweight.ofComposite, bind_ok_iff]
  constructor
  · intro given
    obtain ⟨first, opened, read⟩ := given
    obtain ⟨inner, inside, read⟩ := bind_ok_iff.mp read
    obtain ⟨members, found, made⟩ := bind_ok_iff.mp read
    obtain rfl := Except.ok.inj made
    obtain ⟨first', last, rfl, span⟩ := interior_ok_iff.mp inside
    obtain rfl : first' = first := Except.ok.inj opened
    exact ⟨first', inner, last, members, rfl, span, found, rfl⟩
  · intro given
    obtain ⟨first, inner, last, members, rfl, span, found, rfl⟩ := given
    have inside : interior (first :: (inner ++ [last])) = .ok inner :=
      interior_ok_iff.mpr ⟨first, last, rfl, span⟩
    exact ⟨first, rfl, bind_ok_iff.mpr ⟨inner, inside, bind_ok_iff.mpr ⟨members, found, rfl⟩⟩⟩

/-- A list is read as a composite when it is one span around elements. -/
theorem accepts_ofComposite_iff {typeName : String} {tokens : List Token} :
    Accepts (FixedFlyweight.ofComposite typeName tokens) ↔ ∃ first inner last,
      tokens = first :: (inner ++ [last]) ∧ IsSpan first inner last ∧
        Many TypeElement inner := by
  constructor
  · intro given
    obtain ⟨f, read⟩ := given
    obtain ⟨first, inner, last, members, rfl, span, found, -⟩ := composite_ok_iff.mp read
    exact ⟨first, inner, last, rfl, span, accepts_ofCompositeFrom_iff.mp ⟨members, found⟩⟩
  · intro given
    obtain ⟨first, inner, last, rfl, span, elements⟩ := given
    obtain ⟨members, found⟩ := accepts_ofCompositeFrom_iff.mpr elements
    exact ⟨_, composite_ok_iff.mpr ⟨first, inner, last, members, rfl, span, found, rfl⟩⟩

/-! ## Bits -/

/-- Accessors of a bit name one of the bits of their word. -/
def Member.InWord : Member → Prop
  | .choice _ bit p _ => bit < 8 * p.size
  | _ => True

theorem inWord_of_ofElement {name base context : String} {first : Token} {members : List Member}
    (h : Member.ofElement name first base context = .ok members) : ∀ m ∈ members, m.InWord := by
  unfold Member.ofElement at h
  split at h
  · -- An encoding token has a fixed value, one value or an array of them; none is a bit.
    obtain ⟨e, _, h⟩ := bind_ok_iff.mp h
    split at h
    · obtain ⟨literal, _, h⟩ := bind_ok_iff.mp h
      obtain rfl := Except.ok.inj h
      simp [Member.InWord]
    · split at h
      all_goals
        obtain rfl := Except.ok.inj h
        simp [Member.InWord]
  · obtain ⟨m, read, rfl⟩ := map_ok_iff.mp h
    obtain ⟨e, _, read⟩ := bind_ok_iff.mp read
    obtain rfl := Except.ok.inj read
    simp [Member.InWord]
  · obtain rfl := Except.ok.inj h
    simp [Member.InWord]
  · obtain rfl := Except.ok.inj h
    simp [Member.InWord]
  · exact nomatch h

theorem inWord_of_ofCompositeFrom {context : String} {index : Nat} {tokens : List Token}
    {members : List Member} (h : Member.ofCompositeFrom context index tokens = .ok members) :
    ∀ m ∈ members, m.InWord := by
  induction index, tokens using Member.ofCompositeFrom.induct generalizing members with
  | case1 index =>
    rw [Member.ofCompositeFrom] at h
    obtain rfl := Except.ok.inj h
    simp
  | case2 index first rest ih =>
    rw [Member.ofCompositeFrom] at h
    obtain ⟨count, _, h⟩ := bind_ok_iff.mp h
    obtain ⟨own, element, h⟩ := bind_ok_iff.mp h
    obtain ⟨others, behind, h⟩ := bind_ok_iff.mp h
    obtain rfl := Except.ok.inj h
    intro m mem
    rcases List.mem_append.mp mem with front | back
    · exact inWord_of_ofElement element m front
    · exact ih count behind m back

/-- The accessors of a set are those of its word and those of its choices. -/
theorem inWord_of_ofSet {typeName : String} {tokens : List Token} {f : FixedFlyweight}
    (h : FixedFlyweight.ofSet typeName tokens = .ok f) : ∀ m ∈ f.members, m.InWord := by
  obtain ⟨first, _, h⟩ := bind_ok_iff.mp h
  obtain ⟨e, _, h⟩ := bind_ok_iff.mp h
  by_cases unsigned : e.primitive.isUnsigned = true
  · rw [if_pos unsigned] at h
    obtain ⟨inner, _, h⟩ := bind_ok_iff.mp h
    obtain ⟨choices, found, h⟩ := bind_ok_iff.mp h
    obtain rfl := Except.ok.inj h
    intro m mem
    rcases List.mem_cons.mp mem with rfl | behind
    · trivial
    · obtain ⟨t, _, read⟩ := mem_of_mapM found behind
      split at read
      · rename_i signal
        obtain ⟨_, _, bit, _, _, _, inside, rfl⟩ := (ofChoice_ok_iff signal).mp read
        exact inside
      · exact nomatch read
  · rw [if_neg unsigned] at h
    obtain ⟨_, refused, _⟩ := bind_ok_iff.mp h
    exact nomatch refused

theorem inWord_of_ofComposite {typeName : String} {tokens : List Token} {f : FixedFlyweight}
    (h : FixedFlyweight.ofComposite typeName tokens = .ok f) : ∀ m ∈ f.members, m.InWord := by
  obtain ⟨first, inner, last, members, -, -, found, rfl⟩ := composite_ok_iff.mp h
  exact inWord_of_ofCompositeFrom found

/-! ## Types -/

theorem accepts_ofType_iff {tokens : List Token} :
    Accepts (Declaration.ofType tokens) ↔ TypeList tokens := by
  rw [Declaration.ofType, accepts_bind_iff]
  constructor
  · intro given
    obtain ⟨first, opened, accepted⟩ := given
    -- The generators look at the first token of the list again.
    split at accepted
    · rename_i signal
      obtain ⟨first', inner, last, e, rfl, encoded, integral, span, values⟩ :=
        accepts_enumeration_iff.mp (accepts_map_iff.mp accepted)
      obtain rfl : first' = first := Except.ok.inj opened
      have carries : first'.signal.carriesEncoding = true := by
        rw [signal]
        rfl
      exact .enumeration signal ((sourceEncoding_ok_iff carries).mp encoded) integral span values
    · rename_i signal
      obtain ⟨first', inner, last, e, rfl, encoded, unsigned, span, choices⟩ :=
        accepts_ofSet_iff.mp (accepts_map_iff.mp accepted)
      obtain rfl : first' = first := Except.ok.inj opened
      have carries : first'.signal.carriesEncoding = true := by
        rw [signal]
        rfl
      exact .set signal ((sourceEncoding_ok_iff carries).mp encoded) unsigned span choices
    · rename_i signal
      obtain ⟨first', inner, last, rfl, span, elements⟩ :=
        accepts_ofComposite_iff.mp (accepts_map_iff.mp accepted)
      obtain rfl : first' = first := Except.ok.inj opened
      exact .composite signal span elements
    · exact absurd accepted (not_accepts_error _)
  · intro list
    cases list with
    | @enumeration first last inner e opens encoded integral span values =>
      refine ⟨first, rfl, ?_⟩
      have known := (sourceEncoding_ok_iff (by rw [opens]; rfl)).mpr encoded
      simp only [opens]
      exact accepts_map_iff.mpr (accepts_enumeration_iff.mpr
        ⟨first, inner, last, e, rfl, known, integral, span, values⟩)
    | @set first last inner e opens encoded unsigned span choices =>
      refine ⟨first, rfl, ?_⟩
      have known := (sourceEncoding_ok_iff (by rw [opens]; rfl)).mpr encoded
      simp only [opens]
      exact accepts_map_iff.mpr (accepts_ofSet_iff.mpr
        ⟨first, inner, last, e, rfl, known, unsigned, span, choices⟩)
    | @composite first last inner opens span elements =>
      refine ⟨first, rfl, ?_⟩
      simp only [opens]
      exact accepts_map_iff.mpr (accepts_ofComposite_iff.mpr
        ⟨first, inner, last, rfl, span, elements⟩)

/-- A type that is a set or a composite names no bit outside a word. -/
theorem inWord_of_ofType {tokens : List Token} {f : FixedFlyweight}
    (h : Declaration.ofType tokens = .ok (.fixed f)) : ∀ m ∈ f.members, m.InWord := by
  obtain ⟨first, _, h⟩ := bind_ok_iff.mp h
  split at h
  · obtain ⟨e, _, other⟩ := map_ok_iff.mp h
    exact nomatch other
  · obtain ⟨f', read, same⟩ := map_ok_iff.mp h
    obtain rfl := Declaration.fixed.inj same
    exact inWord_of_ofSet read
  · obtain ⟨f', read, same⟩ := map_ok_iff.mp h
    obtain rfl := Declaration.fixed.inj same
    exact inWord_of_ofComposite read
  · exact nomatch h

/-- The unit of a type is generated exactly from the lists that the grammar derives, and an
error comes out for every other list; what is generated names no bit outside the word of
its set. -/
theorem typeUnit_ok_iff (o : Options) (s : Schema) (tokens : List Token) :
    ((∃ u, typeUnit o s tokens = .ok u) ↔ TypeList tokens) ∧
      (¬ TypeList tokens → ∃ e, typeUnit o s tokens = .error e) ∧
      ∀ u, typeUnit o s tokens = .ok u → ∃ d, Declaration.ofType tokens = .ok d ∧
        u = d.unit o s ∧ ∀ f, d = .fixed f → ∀ name bit p order,
          Member.choice name bit p order ∈ f.members → bit < 8 * p.size := by
  have accepts : Accepts (typeUnit o s tokens) ↔ TypeList tokens :=
    accepts_map_iff.trans accepts_ofType_iff
  refine ⟨accepts, ?_, ?_⟩
  · intro other
    cases generated : typeUnit o s tokens with
    | error e => exact ⟨e, rfl⟩
    | ok u => exact absurd (accepts.mp ⟨u, generated⟩) other
  · intro u generated
    obtain ⟨d, read, rfl⟩ := map_ok_iff.mp generated
    refine ⟨d, read, rfl, ?_⟩
    intro f fixed name bit p order mem
    rw [fixed] at read
    exact inWord_of_ofType read _ mem

end Source

end Flyweight
