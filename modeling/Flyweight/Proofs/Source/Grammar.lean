import Flyweight.Proofs.Span.Nesting
import Flyweight.Source.Literal

/- The grammar of the token list of a message.

   A message is a span around a body. A body is fields, then groups, then
   variable-length data; a group is a span around a header and a body of its own. Whatever
   the grammar derives is well nested, and a body is cut into its sections the way it was
   put together (`ofTokens_sections`). -/

namespace Flyweight

/-- Lists of one kind, end to end. -/
inductive Many (kind : List Token → Prop) : List Token → Prop where
  | nil : Many kind []
  | cons {front rest : List Token} (first : kind front) (others : Many kind rest) :
    Many kind (front ++ rest)

namespace Grammar

/-! ## Fields -/

/-- The element that follows a field token: an encoding token, whose constant has to fit
when the schema fixes the value, or the span of an enum with an encoding, of a set or of
a composite. -/
inductive TypeElement : List Token → Prop where
  | encoding {t : Token} {e : Encoding} (signal : t.signal = .encoding)
    (encoded : t.encoding = some e)
    (fixed : e.presence = .constant → ∃ c, e.constant = some c ∧ c.fits e.primitive = true) :
    TypeElement [t]
  | enumeration {first last : Token} {inner : List Token} (signal : first.signal = .beginEnum)
    (encoded : first.encoding.isSome) (span : IsSpan first inner last) :
    TypeElement (first :: (inner ++ [last]))
  | nested {first last : Token} {inner : List Token}
    (signal : first.signal = .beginSet ∨ first.signal = .beginComposite)
    (span : IsSpan first inner last) : TypeElement (first :: (inner ++ [last]))

/-- A field: its token and its type element, with no group and no variable-length data
anywhere inside. -/
inductive Field : List Token → Prop where
  | mk {field : Token} {element : List Token} (signal : field.signal = .beginField)
    (type : TypeElement element)
    (flat : ∀ t ∈ element, t.signal ≠ .beginGroup ∧ t.signal ≠ .beginVarData) :
    Field (field :: element)

/-! ## Headers -/

/-- The first encoding token of that name, at any depth, is there and has an encoding
that is as required. -/
def HasMember (name : String) (required : Encoding → Prop) (tokens : List Token) : Prop :=
  ∃ t e, (tokens.find? fun t => t.signal == .encoding && t.name == name) = some t ∧
    t.encoding = some e ∧ required e

def Integral (e : Encoding) : Prop := e.primitive.isIntegral = true

def OneByte (e : Encoding) : Prop := e.primitive.size = 1

/-- The members of the header of a group. -/
def Dimension (tokens : List Token) : Prop :=
  HasMember "blockLength" Integral tokens ∧ HasMember "numInGroup" Integral tokens

/-- The members of the header of variable-length data. -/
def LengthAndData (tokens : List Token) : Prop :=
  HasMember "length" Integral tokens ∧ HasMember "varData" OneByte tokens

/-- The span of a composite with members as required. -/
inductive Header (required : List Token → Prop) : List Token → Prop where
  | mk {first last : Token} {inner : List Token} (signal : first.signal = .beginComposite)
    (span : IsSpan first inner last) (members : required inner) :
    Header required (first :: (inner ++ [last]))

/-- Variable-length data: a span around a header and nothing else. -/
inductive VarData : List Token → Prop where
  | mk {first last : Token} {header : List Token} (opens : first.signal = .beginVarData)
    (headed : Header LengthAndData header) (closes : last.signal = .endVarData) :
    VarData (first :: (header ++ [last]))

/-! ## Bodies -/

/-- What the recursive part of the grammar derives. -/
inductive Symbol where
  | body
  | groups
  deriving DecidableEq, Repr

/-- The lists that are bodies, and those that are groups end to end. -/
inductive Derives : Symbol → List Token → Prop where
  | body {fields groups varData : List Token} (hf : Many Field fields)
    (hg : Derives .groups groups) (hd : Many VarData varData) :
    Derives .body (fields ++ groups ++ varData)
  | nil : Derives .groups []
  | cons {first last : Token} {header body rest : List Token} (opens : first.signal = .beginGroup)
    (headed : Header Dimension header) (inside : Derives .body body)
    (closes : last.signal = .endGroup) (others : Derives .groups rest) :
    Derives .groups (first :: (header ++ body ++ last :: rest))

/-- A message: a span around a body. -/
inductive MessageList : List Token → Prop where
  | mk {first last : Token} {body : List Token} (opens : first.signal = .beginMessage)
    (inside : Derives .body body) (closes : last.signal = .endMessage) :
    MessageList (first :: (body ++ [last]))

/-! ## Nesting -/

theorem Many.wellNested {kind : List Token → Prop} {tokens : List Token}
    (each : ∀ l, kind l → WellNested l) (h : Many kind tokens) : WellNested tokens := by
  induction h with
  | nil => exact .nil
  | cons first _ ih => exact (each _ first).append ih

theorem TypeElement.wellNested {tokens : List Token} (h : TypeElement tokens) :
    WellNested tokens := by
  cases h with
  | encoding signal => exact .single (by rw [signal]; rfl) (by rw [signal]; rfl)
  | enumeration _ _ span => exact span.wellNested
  | nested _ span => exact span.wellNested

theorem Field.wellNested {tokens : List Token} (h : Field tokens) : WellNested tokens := by
  cases h with
  | mk signal type _ => exact .plain (by rw [signal]; rfl) (by rw [signal]; rfl) type.wellNested

theorem Header.wellNested {required : List Token → Prop} {tokens : List Token}
    (h : Header required tokens) : WellNested tokens := by
  cases h with
  | mk _ span _ => exact span.wellNested

theorem VarData.wellNested {tokens : List Token} (h : VarData tokens) : WellNested tokens := by
  cases h with
  | mk opens headed closes => exact .span (by rw [opens, closes]; rfl) headed.wellNested .nil

theorem VarData.isSpan {tokens : List Token} (h : VarData tokens) :
    ∃ first header last, tokens = first :: (header ++ [last]) ∧ first.signal = .beginVarData ∧
      IsSpan first header last := by
  cases h with
  | mk opens headed closes =>
    exact ⟨_, _, _, rfl, opens, by rw [opens, closes]; rfl, headed.wellNested⟩

theorem Derives.wellNested {symbol : Symbol} {tokens : List Token} (h : Derives symbol tokens) :
    WellNested tokens := by
  induction h with
  | body hf _ hd ih =>
    exact ((Many.wellNested (fun _ => Field.wellNested) hf).append ih).append
      (Many.wellNested (fun _ => VarData.wellNested) hd)
  | nil => exact .nil
  | cons opens headed _ closes _ ihInside ihOthers =>
    exact .span (by rw [opens, closes]; rfl) (headed.wellNested.append ihInside) ihOthers

/-! ## Sections -/

/-- No field has a token in it that ends the section of fields. -/
theorem not_endsFields {tokens : List Token} (h : Many Field tokens) :
    ∀ t ∈ tokens, Body.endsFields t.signal = false := by
  induction h with
  | nil => exact fun _ mem => nomatch mem
  | cons first _ ih =>
    intro t mem
    rcases List.mem_append.mp mem with inside | behind
    · cases first with
      | mk signal _ flat =>
        rcases List.mem_cons.mp inside with rfl | later
        · rw [signal]
          rfl
        · exact Body.endsFields_eq_false_iff.mpr (flat t later)
    · exact ih t behind

/-- The list is empty or goes on with a token of that role. -/
def StartsWith (signal : Signal) : List Token → Prop
  | [] => True
  | t :: _ => t.signal = signal

theorem startsWith_varData {tokens : List Token} (h : Many VarData tokens) :
    StartsWith .beginVarData tokens := by
  cases h with
  | nil => trivial
  | cons first _ =>
    cases first with
    | mk opens _ _ => exact opens

/-- The whole span of a group. -/
inductive IsGroup : List Token → Prop where
  | mk {first last : Token} {inner : List Token} (opens : first.signal = .beginGroup)
    (span : IsSpan first inner last) : IsGroup (first :: (inner ++ [last]))

/-- What is derived as groups is spans of groups, end to end. -/
theorem isGroups_of_derives {symbol : Symbol} {groups : List Token} (h : Derives symbol groups)
    (groupsOnly : symbol = .groups) : Many IsGroup groups := by
  -- The induction runs over both symbols of the grammar; only groups are asked about.
  induction h with
  | body => exact nomatch groupsOnly
  | nil => exact .nil
  | @cons first last header body rest opens headed inside closes _ _ ih =>
    have span : IsSpan first (header ++ body) last :=
      ⟨by rw [opens, closes]; rfl, headed.wellNested.append inside.wellNested⟩
    have shape : first :: (header ++ body ++ last :: rest) =
        first :: (header ++ body ++ [last]) ++ rest := by
      simp only [List.cons_append, List.append_assoc, List.nil_append]
    rw [shape]
    exact .cons (.mk opens span) (ih rfl)

/-- Spans of groups are cut off the front of a list that does not go on with a group. -/
theorem takeGroups_append {groups others : List Token} (h : Many IsGroup groups)
    (next : ∀ t ∈ others.head?, t.signal ≠ .beginGroup) (index : Nat) :
    Body.takeGroups index (groups ++ others) = .ok (groups, others) := by
  induction h generalizing index with
  | nil =>
    cases others with
    | nil => simp only [List.append_nil, Body.takeGroups]
    | cons t rest =>
      have other : t.signal ≠ .beginGroup := next t rfl
      simp only [List.nil_append, Body.takeGroups, if_neg other]
  | @cons front rest group _ ih =>
    cases group with
    | @mk first last inner opens span =>
      have counted : Span.lengthAfter index first (inner ++ last :: (rest ++ others)) =
          .ok (inner.length + 1) :=
        Span.lengthAfter_ok_iff.mpr ⟨inner, last, rest ++ others, rfl, span, rfl⟩
      have shape : first :: (inner ++ [last]) ++ rest ++ others =
          first :: (inner ++ last :: (rest ++ others)) := by
        simp only [List.cons_append, List.append_assoc, List.nil_append]
      rw [shape, Body.takeGroups, if_pos opens]
      simp only [counted, Span.drop_span, ih, Span.take_span]

/-- What follows the fields ends their section. -/
theorem takeWhile_behind_fields {groups varData : List Token} (hg : Many IsGroup groups)
    (hd : StartsWith .beginVarData varData) :
    (groups ++ varData).takeWhile (fun t => !Body.endsFields t.signal) = [] := by
  cases hg with
  | nil =>
    cases varData with
    | nil => rfl
    | cons t rest =>
      have ends : Body.endsFields t.signal = true := by
        rw [show t.signal = .beginVarData from hd]
        rfl
      rw [List.nil_append, List.takeWhile_cons_of_neg (by simp [ends])]
  | cons group _ =>
    cases group with
    | mk opens _ =>
      rw [List.cons_append, List.cons_append,
        List.takeWhile_cons_of_neg (by simp [opens, Body.endsFields])]

/-- A body is cut where its sections meet: in front of the first group or variable-length
data, and behind the groups that follow each other there. -/
theorem ofTokens_append {fields groups varData : List Token}
    (hf : ∀ t ∈ fields, Body.endsFields t.signal = false) (hg : Many IsGroup groups)
    (hd : StartsWith .beginVarData varData) :
    Body.ofTokens (fields ++ groups ++ varData) = .ok ⟨fields, groups, varData⟩ := by
  have first : (fields ++ (groups ++ varData)).takeWhile (fun t => !Body.endsFields t.signal) =
      fields := by
    rw [List.takeWhile_append_of_pos, takeWhile_behind_fields hg hd, List.append_nil]
    intro t mem
    rw [hf t mem]
    rfl
  have next : ∀ t ∈ varData.head?, t.signal ≠ .beginGroup := by
    cases varData with
    | nil => exact fun _ mem => nomatch mem
    | cons t rest =>
      intro t' mem
      obtain rfl := Option.some.inj mem
      rw [show t.signal = .beginVarData from hd]
      decide
  have second : Body.takeGroups fields.length (groups ++ varData) = .ok (groups, varData) :=
    takeGroups_append hg next fields.length
  rw [List.append_assoc]
  simp only [Body.ofTokens, first, List.drop_left, second]

/-- The sections of a body that is derived. -/
theorem ofTokens_sections {fields groups varData : List Token} (hf : Many Field fields)
    (hg : Derives .groups groups) (hd : Many VarData varData) :
    Body.ofTokens (fields ++ groups ++ varData) = .ok ⟨fields, groups, varData⟩ :=
  ofTokens_append (not_endsFields hf) (isGroups_of_derives hg rfl) (startsWith_varData hd)

/-- The fields of a body that has been cut end before the first group or
variable-length data. -/
theorem fields_of_ofTokens {tokens : List Token} {b : Body} (h : Body.ofTokens tokens = .ok b) :
    ∀ t ∈ b.fields, t.signal ≠ .beginGroup ∧ t.signal ≠ .beginVarData := by
  simp only [Body.ofTokens] at h
  split at h
  · exact nomatch h
  · obtain rfl := Except.ok.inj h
    intro t mem
    have stays := List.all_eq_true.mp List.all_takeWhile t mem
    exact Body.endsFields_eq_false_iff.mp (by simpa using stays)

end Grammar

end Flyweight
