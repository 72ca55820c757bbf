import Mathlib.Data.List.Dedup
import Flyweight.Proofs.Source.Acceptance
import Flyweight.Proofs.Source.Filing

/- What becomes of the units that are put out.

   A sink in memory keeps one text for each name, a directory one for each file, and both
   keep the text that came last. Nothing makes the names of units different: types and
   messages are named by the words of their names, files by the same words in small
   letters, and the names of the message header and of the module index are fixed. This file

   1. shows that no unit has the name of the module index, and none its text;
   2. follows a shelf through the units that are put on it (`lookup_insertAll`);
   3. concludes that a unit is still there in the end as far as no later one has its name or
      its file, and that the index is (`units_retained`).

   That names do meet is shown by a schema of five types (`units_collide`). -/

namespace Flyweight.Source

open Command

/-! ## Names of units -/

theorem typeName_ofComposite {name : String} {tokens : List Token} {f : FixedFlyweight}
    (h : FixedFlyweight.ofComposite name tokens = .ok f) : f.typeName = name := by
  obtain ⟨first, _, h⟩ := bind_ok_iff.mp h
  obtain ⟨inner, _, h⟩ := bind_ok_iff.mp h
  obtain ⟨members, _, h⟩ := bind_ok_iff.mp h
  obtain rfl := Except.ok.inj h
  rfl

theorem typeName_ofSet {name : String} {tokens : List Token} {f : FixedFlyweight}
    (h : FixedFlyweight.ofSet name tokens = .ok f) : f.typeName = name := by
  obtain ⟨first, _, h⟩ := bind_ok_iff.mp h
  obtain ⟨e, _, h⟩ := bind_ok_iff.mp h
  by_cases unsigned : e.primitive.isUnsigned = true
  · rw [if_pos unsigned] at h
    obtain ⟨inner, _, h⟩ := bind_ok_iff.mp h
    obtain ⟨choices, _, h⟩ := bind_ok_iff.mp h
    obtain rfl := Except.ok.inj h
    rfl
  · rw [if_neg unsigned] at h
    obtain ⟨_, refused, _⟩ := bind_ok_iff.mp h
    cases refused

theorem typeName_ofEnum {tokens : List Token} {e : Enumeration}
    (h : Enumeration.ofTokens tokens = .ok e) :
    ∃ name, e.typeName = Identifier.typeName name := by
  obtain ⟨first, _, h⟩ := bind_ok_iff.mp h
  refine ⟨first.name, ?_⟩
  obtain ⟨encoding, _, h⟩ := bind_ok_iff.mp h
  by_cases integral : encoding.primitive.isIntegral = true
  · rw [if_pos integral] at h
    obtain ⟨inner, _, h⟩ := bind_ok_iff.mp h
    obtain ⟨variants, _, h⟩ := bind_ok_iff.mp h
    obtain rfl := Except.ok.inj h
    rfl
  · rw [if_neg integral] at h
    obtain ⟨_, refused, _⟩ := bind_ok_iff.mp h
    cases refused

/-- Apart from the message header, what is declared is named as a type. -/
theorem typeName_ofType {tokens : List Token} {d : Declaration}
    (h : Declaration.ofType tokens = .ok d) : ∃ name, d.typeName = Identifier.typeName name := by
  obtain ⟨first, _, h⟩ := bind_ok_iff.mp h
  split at h
  · obtain ⟨e, read, rfl⟩ := map_ok_iff.mp h
    exact typeName_ofEnum read
  · obtain ⟨f, read, rfl⟩ := map_ok_iff.mp h
    exact ⟨first.name, typeName_ofSet read⟩
  · obtain ⟨f, read, rfl⟩ := map_ok_iff.mp h
    exact ⟨first.name, typeName_ofComposite read⟩
  · cases h

theorem typeName_ofMessage {tokens : List Token} {d : Declaration}
    (h : Declaration.ofMessage tokens = .ok d) : ∃ name, d.typeName = Identifier.typeName name := by
  obtain ⟨m, read, rfl⟩ := map_ok_iff.mp h
  obtain ⟨first, _, read⟩ := bind_ok_iff.mp read
  refine ⟨first.name, ?_⟩
  by_cases signal : first.signal = .beginMessage
  · rw [if_neg (not_not_intro signal)] at read
    obtain ⟨inner, _, read⟩ := bind_ok_iff.mp read
    obtain ⟨body, _, read⟩ := bind_ok_iff.mp read
    obtain ⟨fields, _, read⟩ := bind_ok_iff.mp read
    obtain ⟨groups, _, read⟩ := bind_ok_iff.mp read
    obtain ⟨varData, _, read⟩ := bind_ok_iff.mp read
    obtain rfl := Except.ok.inj read
    rfl
  · rw [if_pos signal] at read
    obtain ⟨_, refused, _⟩ := bind_ok_iff.mp read
    cases refused

theorem typeName_ofHeader {tokens : List Token} {d : Declaration}
    (h : Declaration.ofHeader tokens = .ok d) : d.typeName = messageHeaderName := by
  unfold Declaration.ofHeader at h
  split at h
  · cases h
  · obtain ⟨f, read, rfl⟩ := map_ok_iff.mp h
    exact typeName_ofComposite read

/-- The declaration is that of the message header, of a type or of a message of the schema. -/
inductive Declaration.ReadFrom (s : Schema) (d : Declaration) : Prop where
  | header (read : ofHeader s.header = .ok d)
  | type {tokens : List Token} (listed : tokens ∈ s.types) (read : ofType tokens = .ok d)
  | message {tokens : List Token} (listed : tokens ∈ s.messages) (read : ofMessage tokens = .ok d)

theorem readFrom_of_units {o : Options} {s : Schema} {us : List SourceUnit}
    (h : units o s = .ok us) :
    ∀ u ∈ us, ∃ d, u = Declaration.unit o s d ∧ Declaration.ReadFrom s d := by
  obtain ⟨header, types, messages, generated, rfl⟩ := units_ok_iff.mp h
  intro u mem
  rcases List.mem_cons.mp mem with rfl | behind
  · obtain ⟨d, read, rfl⟩ := map_ok_iff.mp generated.header
    exact ⟨d, rfl, .header read⟩
  · rcases List.mem_append.mp behind with type | message
    · obtain ⟨tokens, listed, made⟩ := mem_of_forall₂ generated.types type
      obtain ⟨d, read, rfl⟩ := map_ok_iff.mp made
      exact ⟨d, rfl, .type listed read⟩
    · obtain ⟨tokens, listed, made⟩ := mem_of_forall₂ generated.messages message
      obtain ⟨d, read, rfl⟩ := map_ok_iff.mp made
      exact ⟨d, rfl, .message listed read⟩

/-- Every unit is that of a declaration, which does not have the name of the module index. -/
theorem declaration_of_units {o : Options} {s : Schema} {us : List SourceUnit}
    (h : units o s = .ok us) :
    ∀ u ∈ us, ∃ d, u = Declaration.unit o s d ∧ u.name ≠ moduleIndexName := by
  intro u mem
  obtain ⟨d, rfl, source⟩ := readFrom_of_units h u mem
  refine ⟨d, rfl, ?_⟩
  show d.typeName ≠ moduleIndexName
  cases source with
  | header read =>
    rw [typeName_ofHeader read]
    decide
  | type _ read =>
    obtain ⟨name, named⟩ := typeName_ofType read
    rw [named]
    exact Words.camel_ne_mod name
  | message _ read =>
    obtain ⟨name, named⟩ := typeName_ofMessage read
    rw [named]
    exact Words.camel_ne_mod name

/-! ## Texts of units -/

/-- The text of a unit and that of the index differ behind the words that both start with. -/
theorem text_ne_index {o : Options} {s : Schema} (d : Declaration) (names : List String) :
    (d.unit o s).text ≠ moduleIndex names := by
  have unit : (d.unit o s).text.toList[14]? = some 'f' := by
    simp only [Declaration.unit, Block.text, prologue, String.toList_join, List.cons_append,
      List.map_cons, List.flatMap_cons, String.toList_append, List.append_assoc]
    rw [List.getElem?_append_left (by decide)]
    rfl
  have index : (moduleIndex names).toList[14]? = some 'm' := by
    simp [moduleIndex, Block.text, String.toList_join]
  intro same
  rw [same, index] at unit
  cases unit

/-! ## In memory -/

namespace Shelf

theorem lookup_insert (shelf : Shelf) (name text other : String) :
    (shelf.insert name text).units.lookup other =
      if other = name then some text else shelf.units.lookup other := by
  rw [← lookup_replace shelf.units name other text]
  unfold insert
  split <;> rfl

def names (shelf : Shelf) : List String := shelf.units.map (·.1)

theorem names_insert (shelf : Shelf) (name text : String) :
    (shelf.insert name text).names =
      if name ∈ shelf.names then shelf.names else shelf.names ++ [name] := by
  rw [names, names, ← keys_replace shelf.units name text]
  unfold insert
  split <;> rfl

/-- The shelf after units with these names and texts have been put on it. -/
def insertAll (shelf : Shelf) (calls : List (String × String)) : Shelf :=
  calls.foldl (fun shelf call => shelf.insert call.1 call.2) shelf

theorem outcome_putEach (calls : List (String × String)) (shelf : Shelf) :
    outcome (putEach Shelf.sink calls) shelf = (.ok (), shelf.insertAll calls) := by
  induction calls generalizing shelf with
  | nil => rfl
  | cons call rest ih =>
    rw [putEach_cons, outcome_bind]
    exact ih (shelf.insert call.1 call.2)

/-- Units of other names leave the text of a name alone. -/
theorem lookup_insertAll_other {calls : List (String × String)} {name : String}
    (others : ∀ call ∈ calls, call.1 ≠ name) (shelf : Shelf) :
    (shelf.insertAll calls).units.lookup name = shelf.units.lookup name := by
  induction calls generalizing shelf with
  | nil => rfl
  | cons call rest ih =>
    have first := others call List.mem_cons_self
    show ((shelf.insert call.1 call.2).insertAll rest).units.lookup name = _
    rw [ih fun c inside => others c (List.mem_cons_of_mem call inside), lookup_insert,
      if_neg (Ne.symm first)]

/-- The last of the units of one name is the one that is found. -/
theorem lookup_insertAll {before after : List (String × String)} {name text : String}
    (last : ∀ c ∈ after, c.1 ≠ name) (shelf : Shelf) :
    (shelf.insertAll (before ++ (name, text) :: after)).units.lookup name = some text := by
  have split_ : shelf.insertAll (before ++ (name, text) :: after) =
      ((shelf.insertAll before).insert name text).insertAll after := by
    rw [insertAll, List.foldl_append]
    rfl
  rw [split_, lookup_insertAll_other last, lookup_insert, if_pos rfl]

theorem nodup_insertAll {shelf : Shelf} (distinct : shelf.names.Nodup)
    (calls : List (String × String)) : (shelf.insertAll calls).names.Nodup := by
  induction calls generalizing shelf with
  | nil => exact distinct
  | cons call rest ih =>
    apply ih
    rw [names_insert]
    split
    · exact distinct
    · rename_i new
      rw [← List.concat_eq_append]
      exact distinct.concat new

theorem mem_names_insertAll {calls : List (String × String)} {shelf : Shelf} {name : String} :
    name ∈ (shelf.insertAll calls).names ↔ name ∈ shelf.names ∨ name ∈ calls.map (·.1) := by
  induction calls generalizing shelf with
  | nil => simp [insertAll]
  | cons call rest ih =>
    show name ∈ ((shelf.insert call.1 call.2).insertAll rest).names ↔ _
    rw [ih, names_insert, List.map_cons, List.mem_cons]
    split
    · rename_i old
      constructor
      · rintro (here | behind)
        · exact .inl here
        · exact .inr (.inr behind)
      · rintro (here | rfl | behind)
        · exact .inl here
        · exact .inl old
        · exact .inr behind
    · rw [List.mem_append, List.mem_singleton, or_assoc]

end Shelf

/-! ## Units of a schema -/

/-- How the units of a schema are held in memory. -/
structure Shelved (o : Options) (us : List SourceUnit) (shelf : Shelf) : Prop where
  held : ∀ before u after, us = before ++ u :: after → (∀ v ∈ after, v.name ≠ u.name) →
    shelf.units.lookup u.name = some u.text
  index : o.moduleIndex = true →
    shelf.units.lookup moduleIndexName = some (moduleIndex (us.map (·.name)))
  distinct : shelf.names.Nodup
  named : ∀ name, name ∈ shelf.names ↔
    name ∈ us.map (·.name) ∨ o.moduleIndex = true ∧ name = moduleIndexName
  count : shelf.units.length =
    (us.map (·.name)).dedup.length + if o.moduleIndex then 1 else 0

/-- How the units of a schema stand in a directory, of a tree that was `t` before. -/
structure Filed (o : Options) (us : List SourceUnit) (directory : String) (t t' : FileTree) :
    Prop where
  written : ∀ before u after, us = before ++ u :: after →
    (∀ v ∈ after, Identifier.fileStem v.name ≠ Identifier.fileStem u.name) →
    (o.moduleIndex = true → Identifier.fileStem u.name ≠ moduleIndexName) →
    t'.read (unitPath directory u.name) = .ok u.text
  index : o.moduleIndex = true →
    t'.read (unitPath directory moduleIndexName) = .ok (moduleIndex (us.map (·.name)))
  only : ∀ place, t'.node? place = some (.file (moduleIndex (us.map (·.name)))) →
    t.node? place = some (.file (moduleIndex (us.map (·.name)))) ∨ o.moduleIndex = true ∧
      t'.walk [] (FileTree.openedComponents (unitPath directory moduleIndexName)) = .ok place

theorem mem_indexCalls {o : Options} {us : List SourceUnit} {call : String × String} :
    call ∈ indexCalls o us ↔
      o.moduleIndex = true ∧ call = (moduleIndexName, moduleIndex (us.map (·.name))) := by
  unfold indexCalls
  split
  · rename_i wanted
    simp [wanted]
  · rename_i unwanted
    simp [unwanted]

/-- The calls for a unit, before it and behind it. -/
theorem calls_around {o : Options} {us before after : List SourceUnit} {u : SourceUnit}
    (shape : us = before ++ u :: after) :
    us.map SourceUnit.call ++ indexCalls o us =
      before.map SourceUnit.call ++ u.call :: (after.map SourceUnit.call ++ indexCalls o us) := by
  rw [shape, List.map_append, List.map_cons, List.append_assoc, List.cons_append]

/-- The call for the module index is the last one. -/
theorem calls_index {o : Options} (wanted : o.moduleIndex = true) (us : List SourceUnit) :
    us.map SourceUnit.call ++ indexCalls o us =
      us.map SourceUnit.call ++ (moduleIndexName, moduleIndex (us.map (·.name))) :: [] := by
  rw [indexCalls, if_pos wanted]

theorem names_of_calls {o : Options} {us : List SourceUnit} {name : String} :
    name ∈ (us.map SourceUnit.call ++ indexCalls o us).map (·.1) ↔
      name ∈ us.map (·.name) ∨ o.moduleIndex = true ∧ name = moduleIndexName := by
  rw [List.map_append, List.mem_append, List.map_map]
  refine or_congr Iff.rfl ?_
  constructor
  · intro mem
    obtain ⟨call, inside, rfl⟩ := List.mem_map.mp mem
    obtain ⟨wanted, rfl⟩ := mem_indexCalls.mp inside
    exact ⟨wanted, rfl⟩
  · rintro ⟨wanted, rfl⟩
    exact List.mem_map.mpr ⟨_, mem_indexCalls.mpr ⟨wanted, rfl⟩, rfl⟩

theorem shelved_of_units {o : Options} {s : Schema} {us : List SourceUnit}
    (h : units o s = .ok us) :
    Shelved o us (({} : Shelf).insertAll (us.map SourceUnit.call ++ indexCalls o us)) := by
  have unnamed : moduleIndexName ∉ us.map (·.name) := by
    intro mem
    obtain ⟨u, inside, same⟩ := List.mem_map.mp mem
    obtain ⟨d, _, differs⟩ := declaration_of_units h u inside
    exact differs same
  have distinct : (({} : Shelf).insertAll
      (us.map SourceUnit.call ++ indexCalls o us)).names.Nodup :=
    Shelf.nodup_insertAll (show ({} : Shelf).names.Nodup from List.nodup_nil) _
  have named (name : String) :
      name ∈ (({} : Shelf).insertAll (us.map SourceUnit.call ++ indexCalls o us)).names ↔
        name ∈ us.map (·.name) ∨ o.moduleIndex = true ∧ name = moduleIndexName := by
    rw [Shelf.mem_names_insertAll, names_of_calls]
    exact or_iff_right List.not_mem_nil
  refine ⟨?_, ?_, distinct, named, ?_⟩
  · intro before u after shape last
    rw [calls_around shape]
    refine Shelf.lookup_insertAll ?_ {}
    intro c mem
    rcases List.mem_append.mp mem with unit | index
    · obtain ⟨v, inside, rfl⟩ := List.mem_map.mp unit
      exact last v inside
    · obtain ⟨_, rfl⟩ := mem_indexCalls.mp index
      intro same
      apply unnamed
      rw [shape]
      exact List.mem_map.mpr ⟨u, by simp, same.symm⟩
  · intro wanted
    rw [calls_index wanted]
    exact Shelf.lookup_insertAll (fun c none_ => absurd none_ List.not_mem_nil) {}
  · -- The names are those of the units once each, and that of the index.
    have index : (indexCalls o us).map (·.1) = if o.moduleIndex then [moduleIndexName] else [] := by
      unfold indexCalls
      split <;> rfl
    have once : ((us.map (·.name)).dedup ++ (indexCalls o us).map (·.1)).Nodup := by
      rw [index]
      split
      · rw [← List.concat_eq_append]
        exact (List.nodup_dedup _).concat fun mem => unnamed (List.mem_dedup.mp mem)
      · rw [List.append_nil]
        exact List.nodup_dedup _
    have same : (({} : Shelf).insertAll (us.map SourceUnit.call ++ indexCalls o us)).names.Perm
        ((us.map (·.name)).dedup ++ (indexCalls o us).map (·.1)) := by
      apply (List.perm_ext_iff_of_nodup distinct once).mpr
      intro name
      rw [named, ← names_of_calls, List.map_append, List.mem_append, List.mem_append,
        List.mem_dedup, List.map_map]
      rfl
    have lengths := same.length_eq
    rw [Shelf.names, List.length_map, List.length_append, index] at lengths
    rw [lengths]
    split <;> rfl

theorem filed_of_puts {o : Options} {s : Schema} {us : List SourceUnit}
    (h : units o s = .ok us) {directory : String} {t t' : FileTree}
    (puts : PutsFiles directory (us.map SourceUnit.call ++ indexCalls o us) t t') :
    Filed o us directory t t' := by
  -- What stands at the place of a file is read from its path.
  have reads {name text : String} (found : ∃ here, LeadsTo t' directory here ∧
      (fileName name).utf8ByteSize ≤ FileTree.longestName ∧
      t'.node? (here ++ [fileName name]) = some (.file text)) :
      t'.read (unitPath directory name) = .ok text := by
    obtain ⟨here, leads, short, holds⟩ := found
    exact FileTree.read_joined (slash_notMem_fileName name) (proper_fileName name) leads.walk
      leads.stands short holds
  have indexed (wanted : o.moduleIndex = true) : ∃ here, LeadsTo t' directory here ∧
      (fileName moduleIndexName).utf8ByteSize ≤ FileTree.longestName ∧
      t'.node? (here ++ [fileName moduleIndexName]) =
        some (.file (moduleIndex (us.map (·.name)))) := by
    have shape := calls_index wanted us
    have behind : ∀ c ∈ ([] : List (String × String)), fileName c.1 ≠ fileName moduleIndexName :=
      fun c none_ => absurd none_ List.not_mem_nil
    have last := puts.last _ _ [] shape
    exact last behind
  refine ⟨?_, ?_, ?_⟩
  · intro before u after shape last apart
    apply reads
    apply puts.last _ u.call _ (calls_around shape)
    intro c mem same
    have stems := fileName_injective same
    rcases List.mem_append.mp mem with unit | index
    · obtain ⟨v, inside, rfl⟩ := List.mem_map.mp unit
      exact last v inside stems
    · obtain ⟨wanted, rfl⟩ := mem_indexCalls.mp index
      exact apart wanted (stems.symm.trans fileStem_index)
  · intro wanted
    exact reads (indexed wanted)
  · intro place there
    rcases puts.files place _ there with old | ⟨call, inside, same, here, leads, rfl⟩
    · exact .inl old
    · refine .inr ?_
      rcases List.mem_append.mp inside with unit | index
      · obtain ⟨u, listed, rfl⟩ := List.mem_map.mp unit
        obtain ⟨d, made, _⟩ := declaration_of_units h u listed
        change _ = u.text at same
        rw [made] at same
        exact absurd same.symm (text_ne_index d _)
      · obtain ⟨wanted, rfl⟩ := mem_indexCalls.mp index
        refine ⟨wanted, ?_⟩
        obtain ⟨here', leads', short, _⟩ := indexed wanted
        obtain rfl := leads.unique leads'
        exact walk_fileName leads short

theorem outcome_putAll {o : Options} {s : Schema} {us : List SourceUnit}
    (h : units o s = .ok us) (shelf : Shelf) :
    outcome (putAll o s Shelf.sink) shelf =
      (.ok us, shelf.insertAll (us.map SourceUnit.call ++ indexCalls o us)) := by
  rw [putAll_of_ok _ h, outcome_bind, Shelf.outcome_putEach]
  rfl

/-- What succeeds in putting out the units of a schema puts each of them out. -/
theorem putEach_of_putAll {o : Options} {s : Schema} {us result : List SourceUnit}
    (h : units o s = .ok us) {directory : String} {t t' : FileTree}
    (put : outcome (putAll o s (directorySink FileTree.storage directory)) t = (.ok result, t')) :
    result = us ∧ outcome (putEach (directorySink FileTree.storage directory)
      (us.map SourceUnit.call ++ indexCalls o us)) t = (.ok (), t') := by
  rw [putAll_of_ok _ h, outcome_bind] at put
  cases calls : outcome (putEach (directorySink FileTree.storage directory)
      (us.map SourceUnit.call ++ indexCalls o us)) t with
  | mk answer t'' =>
    rw [calls] at put
    cases answer with
    | error e => cases put
    | ok _ =>
      cases put
      exact ⟨rfl, rfl⟩

/-- When all units of a schema are put out, each is held in the end under its name, or in its
file, unless a later one has the same; the module index is held as well, and in its own file
only. -/
theorem units_retained {o : Options} {s : Schema} {us : List SourceUnit}
    (h : units o s = .ok us) :
    (∃ shelf, outcome (putAll o s Shelf.sink) {} = (.ok us, shelf) ∧ Shelved o us shelf) ∧
      ∀ directory t t' result,
        outcome (putAll o s (directorySink FileTree.storage directory)) t = (.ok result, t') →
        result = us ∧ Filed o us directory t t' := by
  refine ⟨⟨_, outcome_putAll h {}, shelved_of_units h⟩, ?_⟩
  intro directory t t' result put
  obtain ⟨same, calls⟩ := putEach_of_putAll h put
  exact ⟨same, filed_of_puts h (putsFiles_of_putEach calls)⟩

/-- A header and one type, in memory and in a directory of a tree without files. -/
theorem units_retained_single :
    let composite (name : String) (size : UInt64) : List Token :=
      [{ signal := .beginComposite, name, size }, { signal := .endComposite, name }]
    let s : Schema := { package := "p", header := composite "h" 0, types := [composite "flag" 1] }
    ∃ us shelf t, units {} s = .ok us ∧ us.map (·.name) = ["MessageHeader", "Flag"] ∧
      outcome (putAll {} s Shelf.sink) {} = (.ok us, shelf) ∧ Shelved {} us shelf ∧
      outcome (putAll {} s (directorySink FileTree.storage "out")) {} = (.ok us, t) ∧
      Filed {} us "out" {} t := by
  intro composite s
  have numbers : (units {} s).toOption.map (·.map (·.name)) = some ["MessageHeader", "Flag"] := by
    decide +kernel
  have written : (outcome (putAll {} s (directorySink FileTree.storage "out")) {}).1.toOption.map
      (·.length) = some 2 := by
    decide +kernel
  obtain ⟨us, generated, named⟩ := ok_of_map_toOption numbers
  obtain ⟨result, put, -⟩ := ok_of_map_toOption written
  obtain ⟨⟨shelf, held, shelved⟩, files⟩ := units_retained generated
  obtain ⟨rfl, filed⟩ := files "out" {} _ result (Prod.ext put rfl)
  exact ⟨result, shelf, _, generated, named, held, shelved, Prod.ext put rfl, filed⟩

/-- Two types named alike but for a capital, two whose names have the same words in small
letters, and one whose file is that of the module index: the six units and the index make six
entries in memory, where the first of the two types is replaced, and four files. -/
theorem units_collide :
    let composite (name : String) (size : UInt64) : List Token :=
      [{ signal := .beginComposite, name, size }, { signal := .endComposite, name }]
    let s : Schema := { package := "p", header := composite "h" 0, types :=
      [composite "flag" 1, composite "Flag" 2, composite "XYZ" 3, composite "x_y_z" 4,
        composite "mod" 5] }
    ∃ us shelf t, units {} s = .ok us ∧
      outcome (putAll {} s Shelf.sink) {} = (.ok us, shelf) ∧
      outcome (putAll {} s (directorySink FileTree.storage "out")) {} = (.ok us, t) ∧
      (us.length, shelf.units.length, t.files.length) = (6, 6, 4) ∧
      (∃ u ∈ us, shelf.units.lookup u.name ≠ some u.text) ∧
      ∃ u ∈ us, t.read (unitPath "out" u.name) ≠ .ok u.text := by
  intro composite s
  let shelf := (outcome (putAll {} s Shelf.sink) {}).2
  let written := outcome (putAll {} s (directorySink FileTree.storage "out")) {}
  have found : (units {} s).toOption.map (fun us =>
      ((us.length, shelf.units.length, written.2.files.length),
        us[1]?.map fun u => (decide (shelf.units.lookup u.name = some u.text),
          decide (written.2.read (unitPath "out" u.name) = .ok u.text)))) =
      some ((6, 6, 4), some (false, false)) := by
    decide +kernel
  have put : written.1.toOption.map (·.length) = some 6 := by
    decide +kernel
  obtain ⟨us, generated, numbers⟩ := ok_of_map_toOption found
  obtain ⟨result, put, -⟩ := ok_of_map_toOption put
  obtain ⟨counts, lost⟩ := Prod.mk.inj numbers
  obtain ⟨u, first, lost⟩ := Option.map_eq_some_iff.mp lost
  obtain ⟨replaced, overwritten⟩ := Prod.mk.inj lost
  have inside : u ∈ us := List.mem_of_getElem? first
  obtain rfl : result = us := (putEach_of_putAll generated (Prod.ext put rfl)).1
  have answer := congrArg Prod.fst (outcome_putAll generated {})
  have held : outcome (putAll {} s Shelf.sink) {} = (.ok result, shelf) := Prod.ext answer rfl
  exact ⟨result, shelf, written.2, generated, held, Prod.ext put rfl, counts,
    ⟨u, inside, of_decide_eq_false replaced⟩, u, inside, of_decide_eq_false overwritten⟩

end Flyweight.Source
