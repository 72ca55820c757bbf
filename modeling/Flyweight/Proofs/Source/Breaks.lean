import Flyweight.Proofs.Source.Characters
import Flyweight.Proofs.Text.Lines
import Flyweight.Source.Text

/- Line breaks of generated source.

   What is written for a declaration is meant as lines, one below another. No name of a schema
   cuts one of them: in names, numbers and literals there is neither a line break nor a carriage
   return. So a block of text has lines only, if the texts that are put into it as they are, the
   names of types and the literals, are lines (`Declaration.unbroken_block`). -/

namespace Flyweight.Source

open Lines (Unbroken unbroken_ofList)

/-! ## Blocks -/

/-- Each line of the block is one line. -/
def Block.Unbroken (b : Block) : Prop := ∀ line ∈ b, Lines.Unbroken line

section Blocks
variable {b b' : Block} {line : String}

@[simp] theorem unbroken_nil : Block.Unbroken [] := by
  simp [Block.Unbroken]

@[simp] theorem unbroken_cons : Block.Unbroken (line :: b) ↔ Unbroken line ∧ b.Unbroken :=
  List.forall_mem_cons

@[simp] theorem unbroken_blocks : Block.Unbroken (b ++ b') ↔ b.Unbroken ∧ b'.Unbroken :=
  List.forall_mem_append

@[simp] theorem unbroken_map {α : Type} {items : List α} {f : α → String} :
    Block.Unbroken (items.map f) ↔ ∀ a ∈ items, Unbroken (f a) :=
  List.forall_mem_map

@[simp] theorem unbroken_flatMap {α : Type} {items : List α} {f : α → Block} :
    Block.Unbroken (items.flatMap f) ↔ ∀ a ∈ items, (f a).Unbroken := by
  constructor
  · intro h a mem line inside
    exact h line (List.mem_flatMap.mpr ⟨a, mem, inside⟩)
  · intro h line mem
    obtain ⟨a, listed, inside⟩ := List.mem_flatMap.mp mem
    exact h a listed line inside

@[simp] theorem unbroken_indented {level : Nat} : (b.indented level).Unbroken ↔ b.Unbroken := by
  simp [Block.indented, Block.Unbroken]

@[simp] theorem unbroken_empty : Unbroken "" := @unbroken_ofList [] rfl

@[simp] theorem unbroken_braces {head tail : String} :
    (braces head b tail).Unbroken ↔ Unbroken head ∧ b.Unbroken ∧ Unbroken tail := by
  have opens : Unbroken " \x7b" := unbroken_ofList rfl
  have closes : Unbroken "\x7d" := unbroken_ofList rfl
  simp [toString, braces, opens, closes]

@[simp] theorem unbroken_spaced {items : List Block} :
    (spaced items).Unbroken ↔ ∀ b ∈ items, b.Unbroken := by
  simp [spaced]

@[simp] theorem unbroken_method {signature : String} :
    (method signature b).Unbroken ↔ Unbroken signature ∧ b.Unbroken := by
  have front : Unbroken "pub fn " := unbroken_ofList rfl
  simp [toString, method, front]

@[simp] theorem unbroken_detailed {error details : String} :
    Unbroken (detailed error details) ↔ Unbroken error ∧ Unbroken details := by
  have opens : Unbroken " \x7b " := unbroken_ofList rfl
  have closes : Unbroken " \x7d" := unbroken_ofList rfl
  simp [toString, detailed, opens, closes]

@[simp] theorem unbroken_check {condition error : String} :
    (check condition error).Unbroken ↔ Unbroken condition ∧ Unbroken error := by
  have front : Unbroken "if " := unbroken_ofList rfl
  have opens : Unbroken "return Err(CodecError::" := unbroken_ofList rfl
  have closes : Unbroken ");" := unbroken_ofList rfl
  simp [toString, check, front, opens, closes]

end Blocks

/-! ## Names and numbers -/

/-- A text without characters that no name, number or literal has is a line. -/
theorem unbroken_of_notMem {text : String}
    (h : ∀ c, Letters.ForeignInCapitals c → c ∉ literalMarks → Json.isNumeric c = false →
      c ≠ '#' → c ∉ text.toList) : Unbroken text :=
  ⟨h _ Letters.capitals_feed (by decide) rfl (by decide),
    h _ Letters.capitals_return (by decide) rfl (by decide)⟩

@[simp] theorem unbroken_property (name : String) : Unbroken (Identifier.property name) :=
  unbroken_of_notMem fun _ foreign _ _ other => notMem_property foreign.toForeign other name

@[simp] theorem unbroken_typeName (name : String) : Unbroken (Identifier.typeName name) :=
  unbroken_of_notMem fun _ foreign _ _ _ => Words.notMem_camel foreign name

@[simp] theorem unbroken_constant (name : String) : Unbroken (Identifier.constant name) :=
  unbroken_of_notMem fun _ foreign _ _ _ => Words.notMem_shouting foreign name

@[simp] theorem unbroken_compound {before name after : String} :
    Unbroken (Identifier.compound before name after) ↔ Unbroken before ∧ Unbroken after := by
  have snake : Unbroken (Words.snake name) :=
    unbroken_of_notMem fun _ foreign _ _ _ => Words.notMem_snake foreign.toForeign name
  simp [Identifier.compound, snake]

@[simp] theorem unbroken_nat (n : Nat) : Unbroken n.repr :=
  unbroken_of_notMem fun _ _ _ numeric _ => notMem_toString_nat numeric n

@[simp] theorem unbroken_int (n : Int) : Unbroken n.repr :=
  unbroken_of_notMem fun _ _ _ numeric _ => notMem_toString numeric n

theorem unbroken_literal_constant {name literal : String} {p : Primitive} {c : Constant}
    (h : c.literal name p = .ok literal) : Unbroken literal :=
  unbroken_of_notMem fun _ _ apart numeric _ => notMem_literal_constant numeric apart h

theorem unbroken_literal {t : Token} {literal : String} (h : t.literal = .ok literal) :
    Unbroken literal :=
  unbroken_of_notMem fun _ _ apart numeric _ => notMem_literal numeric apart h

@[simp] theorem unbroken_text (c : Constant) : Unbroken c.text :=
  unbroken_of_notMem fun _ _ apart numeric _ => notMem_text numeric apart c

@[simp] theorem unbroken_rustType (p : Primitive) : Unbroken p.rustType := by
  cases p <;> exact unbroken_ofList rfl

@[simp] theorem unbroken_order (o : ByteOrder) : Unbroken o.expression := by
  cases o <;> exact unbroken_ofList rfl

@[simp] theorem unbroken_base (o : Owner) : Unbroken o.base := by
  unfold Owner.base
  split <;> exact unbroken_ofList rfl

@[simp] theorem unbroken_position (o : Owner) : Unbroken o.position := by
  unfold Owner.position
  split <;> exact unbroken_ofList rfl

@[simp] theorem unbroken_place {p : Place} : Unbroken p.expression ↔ Unbroken p.base := by
  have plus : Unbroken " + " := unbroken_ofList rfl
  unfold Place.expression
  split
  · rfl
  · simp [toString, plus]

/-! ## Members -/

section Members
variable (name : String)

-- What is left of a block, apart from the names and numbers in it, is the texts that are always
-- there: each is a list of characters, so it is gone through without reading it as a text.

theorem unbroken_fixedValueBlocks (p : Primitive) {literal : String} (h : Unbroken literal) :
    ∀ b ∈ fixedValueBlocks name p literal, b.Unbroken := by
  simp [toString, fixedValueBlocks, h]
  exact unbroken_ofList rfl

theorem unbroken_scalarBlocks {slot : Slot} (h : Unbroken slot.place.base) :
    ∀ b ∈ scalarBlocks name slot, b.Unbroken := by
  simp [toString, scalarBlocks, h]
  and_intros
  all_goals exact unbroken_ofList rfl

theorem unbroken_transferBlock {slice access : String} (h : Unbroken slice)
    (h' : Unbroken access) (length : Nat) : (transferBlock slice access length).Unbroken := by
  simp [toString, transferBlock, h, h']
  and_intros
  all_goals exact unbroken_ofList rfl

theorem unbroken_arrayBlocks {slot : Slot} (h : Unbroken slot.place.base) (length : Nat) :
    ∀ b ∈ arrayBlocks name slot length, b.Unbroken := by
  have read : (transferBlock "dst" "get_mut" length).Unbroken :=
    unbroken_transferBlock (unbroken_ofList rfl) (unbroken_ofList rfl) length
  have written : (transferBlock "src" "get" length).Unbroken :=
    unbroken_transferBlock (unbroken_ofList rfl) (unbroken_ofList rfl) length
  simp [toString, arrayBlocks, h, read, written]
  and_intros
  all_goals exact unbroken_ofList rfl

theorem unbroken_enumerationBlocks {slot : Slot} (h : Unbroken slot.place.base)
    (enumName : String) : ∀ b ∈ enumerationBlocks name slot enumName, b.Unbroken := by
  simp [toString, enumerationBlocks, h]
  and_intros
  all_goals exact unbroken_ofList rfl

theorem unbroken_nestedBlocks {place : Place} (h : Unbroken place.base) {typeName : String}
    (h' : Unbroken typeName) : ∀ b ∈ nestedBlocks name place typeName, b.Unbroken := by
  simp [toString, nestedBlocks, h, h']
  and_intros
  all_goals exact unbroken_ofList rfl

theorem unbroken_wordBlocks (p : Primitive) (order : ByteOrder) :
    ∀ b ∈ wordBlocks p order, b.Unbroken := by
  simp [toString, wordBlocks]
  and_intros
  all_goals exact unbroken_ofList rfl

theorem unbroken_choiceBlocks (bit : Nat) (p : Primitive) (order : ByteOrder) :
    ∀ b ∈ choiceBlocks name bit p order, b.Unbroken := by
  simp [toString, choiceBlocks]
  and_intros
  all_goals exact unbroken_ofList rfl

theorem unbroken_groupBlocks (owner : Owner) {typeName : String} (h : Unbroken typeName) :
    ∀ b ∈ groupBlocks name owner typeName, b.Unbroken := by
  simp [toString, groupBlocks, h]
  and_intros
  all_goals exact unbroken_ofList rfl

theorem unbroken_narrowed {target rust value : String} (h : Unbroken target) (h' : Unbroken rust)
    (h'' : Unbroken value) : (narrowed target rust value).Unbroken := by
  simp [toString, narrowed, h, h', h'']
  and_intros
  all_goals exact unbroken_ofList rfl

theorem unbroken_varDataBlocks (owner : Owner) (lengthOffset : Nat) (p : Primitive)
    (order : ByteOrder) (dataOffset : Nat) :
    ∀ b ∈ varDataBlocks name owner lengthOffset p order dataOffset, b.Unbroken := by
  have length : (narrowed "length" p.rustType "src.len()").Unbroken :=
    unbroken_narrowed (unbroken_ofList rfl) (unbroken_rustType p) (unbroken_ofList rfl)
  simp [toString, varDataBlocks, length]
  and_intros
  all_goals exact unbroken_ofList rfl

end Members

/-- The texts that a member has besides the names of the schema are lines. -/
def Member.Unbroken : Member → Prop
  | .fixedValue _ _ literal => Lines.Unbroken literal
  | .scalar _ slot | .array _ slot _ | .enumeration _ slot _ => Lines.Unbroken slot.place.base
  | .nested _ place typeName => Lines.Unbroken place.base ∧ Lines.Unbroken typeName
  | .group _ _ typeName => Lines.Unbroken typeName
  | .word .. | .choice .. | .varData .. => True

theorem Member.unbroken_blocks {m : Member} (h : m.Unbroken) : ∀ b ∈ m.blocks, b.Unbroken := by
  cases m with
  | fixedValue name p literal => exact unbroken_fixedValueBlocks name p h
  | scalar name slot => exact unbroken_scalarBlocks name h
  | array name slot length => exact unbroken_arrayBlocks name h length
  | enumeration name slot enumName => exact unbroken_enumerationBlocks name h enumName
  | nested name place typeName => exact unbroken_nestedBlocks name h.1 h.2
  | word p order => exact unbroken_wordBlocks p order
  | choice name bit p order => exact unbroken_choiceBlocks name bit p order
  | group name owner typeName => exact unbroken_groupBlocks name owner h
  | varData name owner lengthOffset p order dataOffset =>
    exact unbroken_varDataBlocks name owner lengthOffset p order dataOffset

section Bodies
variable {members : List Member} (h : ∀ m ∈ members, m.Unbroken)
include h

theorem unbroken_methodsOf : (methodsOf members).Unbroken := by
  rw [methodsOf, unbroken_flatMap]
  intro m mem
  exact unbroken_spaced.mpr (Member.unbroken_blocks (h m mem))

theorem unbroken_fieldsOf : (fieldsOf members).Unbroken := by
  rw [fieldsOf, unbroken_flatMap]
  intro m mem
  have own := h m mem
  cases m with
  | nested name place typeName =>
    simp [toString, Member.fieldLines, own.2]
    and_intros
    all_goals exact unbroken_ofList rfl
  | _ => exact unbroken_nil

theorem unbroken_initialsOf : (initialsOf members).Unbroken := by
  rw [initialsOf, unbroken_flatMap]
  intro m mem
  have own := h m mem
  cases m with
  | nested name place typeName =>
    simp [toString, Member.initialLines, own.2]
    and_intros
    all_goals exact unbroken_ofList rfl
  | _ => exact unbroken_nil

end Bodies

/-! ## Declarations -/

/-- The texts of the flyweight are lines. -/
structure FixedFlyweight.Unbroken (f : FixedFlyweight) : Prop where
  typeName : Lines.Unbroken f.typeName
  members : ∀ m ∈ f.members, m.Unbroken

theorem FixedFlyweight.unbroken_block {f : FixedFlyweight} (h : f.Unbroken) : f.block.Unbroken := by
  simp [toString, block, bindingBlocks, h.typeName, unbroken_fieldsOf h.members,
    unbroken_methodsOf h.members]
  and_intros
  all_goals exact unbroken_ofList rfl

/-- The texts of the cursor are lines. -/
structure GroupCursor.Unbroken (c : GroupCursor) : Prop where
  typeName : Lines.Unbroken c.typeName
  blockLength : Lines.Unbroken c.blockLengthSlot.place.base
  count : Lines.Unbroken c.countSlot.place.base
  members : ∀ m ∈ c.members, m.Unbroken

theorem unbroken_headerGet {slot : Slot} (h : Unbroken slot.place.base) :
    Unbroken (headerGet slot) := by
  unfold headerGet
  simp [toString, h]
  and_intros
  all_goals exact unbroken_ofList rfl

theorem unbroken_headerPut {slot : Slot} (h : Unbroken slot.place.base) {value : String}
    (h' : Unbroken value) : Unbroken (headerPut slot value) := by
  unfold headerPut
  simp [toString, h, h']
  and_intros
  all_goals exact unbroken_ofList rfl

@[simp] theorem unbroken_constructor {name : String} {parameters body : Block} :
    (constructor name parameters body).Unbroken ↔
      Unbroken name ∧ parameters.Unbroken ∧ body.Unbroken := by
  have front : Unbroken "fn " := unbroken_ofList rfl
  have opens : Unbroken "(" := unbroken_ofList rfl
  have closes : Unbroken ") -> CodecResult<Self>" := unbroken_ofList rfl
  simp [toString, constructor, front, opens, closes]

theorem unbroken_openingBlocks {c : GroupCursor} (h : c.Unbroken) :
    ∀ b ∈ openingBlocks c, b.Unbroken := by
  have type : Unbroken ("Self::BLOCK_LENGTH as " ++ c.blockLengthSlot.primitive.rustType) :=
    Lines.unbroken_append (unbroken_ofList rfl) (unbroken_rustType _)
  have blockLength := unbroken_headerPut h.blockLength type
  have narrow : (narrowed "num_in_group" c.countSlot.primitive.rustType "count").Unbroken :=
    unbroken_narrowed (unbroken_ofList rfl) (unbroken_rustType _) (unbroken_ofList rfl)
  have count : Unbroken (headerPut c.countSlot "num_in_group") :=
    unbroken_headerPut h.count (unbroken_ofList rfl)
  simp [openingBlocks, toString, narrow, blockLength, count, unbroken_headerGet h.blockLength,
    unbroken_headerGet h.count, unbroken_initialsOf h.members]
  and_intros
  all_goals exact unbroken_ofList rfl

theorem unbroken_cursorBlocks : ∀ b ∈ cursorBlocks, b.Unbroken := by
  simp [cursorBlocks]
  and_intros
  all_goals exact unbroken_ofList rfl

theorem GroupCursor.unbroken_block {c : GroupCursor} (h : c.Unbroken) : c.block.Unbroken := by
  have items : ∀ b ∈ openingBlocks c ++ cursorBlocks, b.Unbroken :=
    List.forall_mem_append.mpr ⟨unbroken_openingBlocks h, unbroken_cursorBlocks⟩
  have methods : (spaced (openingBlocks c ++ cursorBlocks)).Unbroken := unbroken_spaced.mpr items
  simp [-unbroken_spaced, block, toString, h.typeName, methods, unbroken_fieldsOf h.members,
    unbroken_methodsOf h.members]
  and_intros
  all_goals exact unbroken_ofList rfl

/-- The texts of the message are lines, and so are those of its cursors. -/
structure MessageFlyweight.Unbroken (m : MessageFlyweight) : Prop where
  typeName : Lines.Unbroken m.typeName
  members : ∀ member ∈ m.members, member.Unbroken
  cursors : ∀ c ∈ m.cursors, c.Unbroken

theorem MessageFlyweight.unbroken_ownBlock {m : MessageFlyweight} (h : m.Unbroken) :
    m.ownBlock.Unbroken := by
  simp [toString, ownBlock, bindingBlocks, h.typeName, unbroken_fieldsOf h.members,
    unbroken_methodsOf h.members]
  and_intros
  all_goals exact unbroken_ofList rfl

theorem MessageFlyweight.unbroken_block {m : MessageFlyweight} (h : m.Unbroken) :
    m.block.Unbroken := by
  rw [block, unbroken_blocks, unbroken_flatMap]
  exact ⟨unbroken_ownBlock h, fun c mem => GroupCursor.unbroken_block (h.cursors c mem)⟩

/-- The texts of the enum are lines. -/
structure Enumeration.Unbroken (e : Enumeration) : Prop where
  typeName : Lines.Unbroken e.typeName
  variants : ∀ v ∈ e.variants, Lines.Unbroken v.typeName ∧ Lines.Unbroken v.literal

theorem Enumeration.unbroken_block {e : Enumeration} (h : e.Unbroken) : e.block.Unbroken := by
  have variants : Block.Unbroken (e.variants.map fun v => v.typeName ++ ",") := by
    rw [unbroken_map]
    exact fun v mem => Lines.unbroken_append (h.variants v mem).1 (unbroken_ofList rfl)
  have values : Block.Unbroken (e.variants.map fun v => v.valueArm.line) := by
    rw [unbroken_map]
    intro v mem
    simp [Arm.line, Variant.valueArm, Variant.path, h.variants v mem]
    and_intros
    all_goals exact unbroken_ofList rfl
  have readings : Block.Unbroken (e.variants.map fun v => v.codeArm.okLine) := by
    rw [unbroken_map]
    intro v mem
    simp [Arm.okLine, Variant.codeArm, Variant.path, h.variants v mem]
    and_intros
    all_goals exact unbroken_ofList rfl
  simp [-unbroken_map, block, toString, h.typeName, variants, values, readings]
  and_intros
  all_goals exact unbroken_ofList rfl

/-- The texts of what is declared are lines. -/
def Declaration.Unbroken : Declaration → Prop
  | .enumeration e => e.Unbroken
  | .fixed f => f.Unbroken
  | .message m => m.Unbroken

theorem Declaration.unbroken_block {d : Declaration} (h : d.Unbroken) : d.block.Unbroken := by
  cases d with
  | enumeration e => exact Enumeration.unbroken_block h
  | fixed f => exact FixedFlyweight.unbroken_block h
  | message m => exact MessageFlyweight.unbroken_block h

end Flyweight.Source
