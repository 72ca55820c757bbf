import Flyweight.Proofs.Source.Breaks
import Flyweight.Proofs.Source.Codes
import Flyweight.Proofs.Source.Constants
import Flyweight.Proofs.Source.Retention
import Flyweight.Proofs.Source.Types

/- Carriage returns of generated source.

   The readers of tokens give declarations whose texts are lines, whatever the names and the
   constants in the tokens are (`unbroken_of_readFrom`). Apart from its declaration a unit has
   the package and the path of the codec in it, which are no names of the schema's elements. A
   carriage return in a unit is from one of these two (`return_notMem_units`). -/

namespace Flyweight.Source

open Lines (Unbroken unbroken_ofList)

/-! ## Readers -/

theorem unbroken_ownPlace : Unbroken ownPlace := unbroken_ofList rfl

theorem unbroken_ofElement {name base context : String} {first : Token} {part : List Member}
    (based : Unbroken base) (h : Member.ofElement name first base context = .ok part) :
    ∀ m ∈ part, m.Unbroken := by
  have single {m : Member} (own : m.Unbroken) : ∀ m' ∈ [m], m'.Unbroken := by
    simpa using own
  unfold Member.ofElement at h
  split at h
  · obtain ⟨e, _, h⟩ := bind_ok_iff.mp h
    split at h
    · obtain ⟨literal, written, h⟩ := bind_ok_iff.mp h
      obtain rfl := Except.ok.inj h
      exact single (unbroken_literal written)
    · split at h
      · obtain rfl := Except.ok.inj h
        simp
      · obtain rfl := Except.ok.inj h
        exact single based
      · obtain rfl := Except.ok.inj h
        exact single based
  · obtain ⟨m, read, rfl⟩ := map_ok_iff.mp h
    obtain ⟨e, _, read⟩ := bind_ok_iff.mp read
    obtain rfl := Except.ok.inj read
    exact single based
  · obtain rfl := Except.ok.inj h
    exact single ⟨based, unbroken_typeName first.name⟩
  · obtain rfl := Except.ok.inj h
    exact single ⟨based, unbroken_typeName first.name⟩
  · cases h

theorem unbroken_ofFields {context : String} {tokens : List Token} {members : List Member}
    (h : Member.ofFields context tokens = .ok members) : ∀ m ∈ members, m.Unbroken := by
  obtain ⟨parts, found, rfl, -, -⟩ := countFrom_fields h
  obtain ⟨entries, -, same, each⟩ := elements_of_fields found
  rw [same]
  intro m mem
  obtain ⟨entry, listed, inside⟩ := List.mem_flatMap.mp mem
  exact unbroken_ofElement unbroken_ownPlace (each entry listed).2.2.read m inside

theorem unbroken_ofComposite {context : String} {body : List Token} {members : List Member}
    (h : Member.ofComposite context body = .ok members) : ∀ m ∈ members, m.Unbroken := by
  obtain ⟨elements, -, rfl, each⟩ := elements_of_composite h
  intro m mem
  obtain ⟨e, listed, inside⟩ := List.mem_flatMap.mp mem
  exact unbroken_ofElement unbroken_ownPlace (each e listed).2.read m inside

theorem unbroken_ofVarData {owner : Owner} {tokens : List Token} {members : List Member}
    (h : Member.ofVarData owner tokens = .ok members) : ∀ m ∈ members, m.Unbroken := by
  obtain ⟨only, -⟩ := countFrom_varData h
  intro m mem
  have data := only m mem
  cases m with
  | varData => trivial
  | _ => cases data

theorem unbroken_ofSpan {typeName : String} {g : GroupSpan} {members : List Member}
    {c : GroupCursor} (named : Unbroken typeName) (inside : ∀ m ∈ members, m.Unbroken)
    (h : GroupCursor.ofSpan typeName g members = .ok c) : c.Unbroken := by
  obtain ⟨block, -, h⟩ := bind_ok_iff.mp h
  obtain ⟨count, -, h⟩ := bind_ok_iff.mp h
  obtain rfl := Except.ok.inj h
  have header : Unbroken "header" := unbroken_ofList rfl
  exact ⟨named, header, header, inside⟩

theorem unbroken_ofTokensFrom {owner : Owner} {index : Nat} {tokens : List Token} {code : GroupCode}
    (named : Unbroken owner.typeName) (h : GroupCode.ofTokensFrom owner index tokens = .ok code) :
    (∀ m ∈ code.members, m.Unbroken) ∧ ∀ c ∈ code.cursors, c.Unbroken := by
  -- The groups inside a group and those behind it are both shorter lists.
  induction size : tokens.length using Nat.strongRecOn generalizing owner index tokens code with
  | ind length ih =>
    cases tokens with
    | nil =>
      rw [GroupCode.ofTokensFrom] at h
      obtain rfl := Except.ok.inj h
      simp
    | cons first rest =>
      obtain ⟨inner, last, tail, g, fields, nested, varData, cursor, others, rfl, -, -, read,
        hf, hg, hd, made, later, rfl⟩ := ofTokensFrom_cons_ok h
      have shorter := GroupSpan.length_groups_lt read
      simp only [List.length_cons, List.length_append, List.length_nil] at size shorter
      have type : Unbroken (owner.groupType first.name) :=
        Lines.unbroken_append named (unbroken_typeName first.name)
      obtain ⟨members, cursors⟩ := ih _ (by omega) type hg rfl
      obtain ⟨members', cursors'⟩ := ih _ (by omega) named later rfl
      have own : ∀ m ∈ fields ++ nested.members ++ varData, m.Unbroken := by
        rw [List.forall_mem_append, List.forall_mem_append]
        exact ⟨⟨unbroken_ofFields hf, members⟩, unbroken_ofVarData hd⟩
      refine ⟨List.forall_mem_cons.mpr ⟨type, members'⟩, ?_⟩
      rw [List.cons_append, List.forall_mem_cons, List.forall_mem_append]
      exact ⟨unbroken_ofSpan type own made, cursors, cursors'⟩

theorem unbroken_fixed {typeName : String} {tokens : List Token} {f : FixedFlyweight}
    (named : Unbroken typeName) (h : FixedFlyweight.ofComposite typeName tokens = .ok f) :
    f.Unbroken := by
  obtain ⟨first, inner, last, members, -, -, read, rfl⟩ := composite_ok_iff.mp h
  exact ⟨named, unbroken_ofComposite read⟩

theorem unbroken_ofSet {typeName : String} {tokens : List Token} {f : FixedFlyweight}
    (named : Unbroken typeName) (h : FixedFlyweight.ofSet typeName tokens = .ok f) :
    f.Unbroken := by
  obtain ⟨first, _, h⟩ := bind_ok_iff.mp h
  obtain ⟨e, _, h⟩ := bind_ok_iff.mp h
  by_cases unsigned : e.primitive.isUnsigned = true
  · rw [if_pos unsigned] at h
    obtain ⟨inner, _, h⟩ := bind_ok_iff.mp h
    obtain ⟨choices, found, h⟩ := bind_ok_iff.mp h
    obtain rfl := Except.ok.inj h
    refine ⟨named, List.forall_mem_cons.mpr ⟨trivial, ?_⟩⟩
    intro m mem
    obtain ⟨t, _, read⟩ := mem_of_mapM found mem
    by_cases signal : t.signal = .choice
    · rw [if_pos signal] at read
      obtain ⟨_, _, _, _, _, _, _, rfl⟩ := (ofChoice_ok_iff signal).mp read
      trivial
    · rw [if_neg signal] at read
      cases read
  · rw [if_neg unsigned] at h
    obtain ⟨_, refused, _⟩ := bind_ok_iff.mp h
    cases refused

theorem unbroken_ofEnum {tokens : List Token} {e : Enumeration}
    (h : Enumeration.ofTokens tokens = .ok e) : e.Unbroken := by
  obtain ⟨first, inner, last, encoding, -, -, -, -, named, each⟩ := declares_of_ofTokens h
  refine ⟨?_, ?_⟩
  · rw [named]
    exact unbroken_typeName first.name
  · intro v mem
    obtain ⟨t, _, declares⟩ := mem_of_forall₂ each mem
    obtain ⟨own, -, -, written⟩ := declares.coded
    rw [declares.named]
    exact ⟨unbroken_typeName t.name, unbroken_literal_constant written⟩

theorem unbroken_ofMessage {tokens : List Token} {m : MessageFlyweight}
    (h : MessageFlyweight.ofTokens tokens = .ok m) : m.Unbroken := by
  obtain ⟨first, inner, last, body, fields, groups, varData, -, -, -, -, hf, hg, hd, rfl⟩ :=
    message_ok_iff.mp h
  obtain ⟨members, cursors⟩ := unbroken_ofTokensFrom (unbroken_typeName first.name) hg
  refine ⟨unbroken_typeName first.name, ?_, cursors⟩
  rw [List.forall_mem_append, List.forall_mem_append]
  exact ⟨⟨unbroken_ofFields hf, members⟩, unbroken_ofVarData hd⟩

/-- Whatever the schema, what it declares is written in lines. -/
theorem unbroken_of_readFrom {s : Schema} {d : Declaration} (h : Declaration.ReadFrom s d) :
    d.Unbroken := by
  cases h with
  | header given =>
    unfold Declaration.ofHeader at given
    split at given
    · cases given
    · obtain ⟨f, read, rfl⟩ := map_ok_iff.mp given
      have named : Unbroken messageHeaderName := unbroken_ofList rfl
      exact unbroken_fixed named read
  | type _ given =>
    obtain ⟨first, _, given⟩ := bind_ok_iff.mp given
    have named := unbroken_typeName first.name
    split at given
    · obtain ⟨e, read, rfl⟩ := map_ok_iff.mp given
      exact unbroken_ofEnum read
    · obtain ⟨f, read, rfl⟩ := map_ok_iff.mp given
      exact unbroken_ofSet named read
    · obtain ⟨f, read, rfl⟩ := map_ok_iff.mp given
      exact unbroken_fixed named read
    · cases given
  | message _ given =>
    obtain ⟨m, read, rfl⟩ := map_ok_iff.mp given
    exact unbroken_ofMessage read

/-! ## Units -/

theorem mem_text {c : Char} (other : c ≠ '\n') {b : Block} :
    c ∈ (Block.text b).toList ↔ ∃ line ∈ b, c ∈ line.toList := by
  simp [Block.text, other]

theorem Declaration.unbroken_typeName {d : Declaration} (h : d.Unbroken) :
    Lines.Unbroken d.typeName := by
  cases d with
  | enumeration e => exact h.typeName
  | fixed f => exact h.typeName
  | message m => exact h.typeName

/-- Of the lines that a unit starts with, two have a text that is not of the schema. -/
theorem return_prologue {codecPath package name : String} (named : Unbroken name) :
    (∃ line ∈ prologue codecPath package name, '\x0d' ∈ line.toList) ↔
      '\x0d' ∈ codecPath.toList ∨ '\x0d' ∈ package.toList := by
  have allow : Unbroken "#![allow(clippy::all, unused_parens, unused_imports, dead_code)]" :=
    unbroken_ofList rfl
  have uses : Unbroken "use super::*;" := unbroken_ofList rfl
  have title : Unbroken "//! Generated flyweight for `" := unbroken_ofList rfl
  have between : Unbroken "` (package `" := unbroken_ofList rfl
  have closes : Unbroken "`). Do not edit." := unbroken_ofList rfl
  have imports : Unbroken "use " := unbroken_ofList rfl
  have names : Unbroken
      "::\x7bself as codec, ByteOrder, CodecError, CodecResult, DirectBuffer\x7d;" :=
    unbroken_ofList rfl
  simp only [prologue, toString, List.mem_cons, List.not_mem_nil, or_false, exists_eq_or_imp,
    exists_eq_left, String.toList_append, List.mem_append, named.return_, allow.return_,
    uses.return_, title.return_, between.return_, closes.return_, imports.return_, names.return_,
    unbroken_empty.return_, or_false, false_or]
  exact or_comm

/-- Carriage returns come into a unit with the package and the path of the codec alone. -/
theorem return_unit {o : Options} {s : Schema} {d : Declaration} (h : d.Unbroken) :
    '\x0d' ∈ (d.unit o s).text.toList ↔
      '\x0d' ∈ o.codecPath.toList ∨ '\x0d' ∈ (o.package.getD s.package).toList := by
  have none_ : ¬ ∃ line ∈ d.block, '\x0d' ∈ line.toList := by
    rintro ⟨line, mem, inside⟩
    exact (Declaration.unbroken_block h line mem).return_ inside
  rw [Declaration.unit, mem_text (by decide),
    ← return_prologue (Declaration.unbroken_typeName h)]
  simp only [List.mem_append, or_and_right, exists_or, none_, or_false]

theorem return_notMem_units {o : Options} {s : Schema} {us : List SourceUnit}
    (h : units o s = .ok us) :
    (∀ u ∈ us, '\x0d' ∉ u.text.toList) ↔
      '\x0d' ∉ o.codecPath.toList ∧ '\x0d' ∉ (o.package.getD s.package).toList := by
  rw [← not_or]
  have each : ∀ u ∈ us, '\x0d' ∉ u.text.toList ↔
      ¬ ('\x0d' ∈ o.codecPath.toList ∨ '\x0d' ∈ (o.package.getD s.package).toList) := by
    intro u mem
    obtain ⟨d, rfl, source⟩ := readFrom_of_units h u mem
    exact not_congr (return_unit (unbroken_of_readFrom source))
  obtain ⟨header, types, messages, -, rfl⟩ := units_ok_iff.mp h
  constructor
  · intro none_
    exact (each header List.mem_cons_self).mp (none_ header List.mem_cons_self)
  · intro clean u mem
    exact (each u mem).mpr clean

end Flyweight.Source
