import Flyweight.Proofs.Source.ModuleIndex
import Flyweight.Proofs.Source.Returns

/- The modules of a bundle.

   A bundle has the code of each unit as a module in the text. The source of the unit is cut into
   lines, of which some are left out; they are written, trimmed, cut again and moved to the right.
   This file

   1. follows these steps on lines without carriage returns (`bundleBlock_eq`): what comes out
      is a block of lines;
   2. reads the modules from the text of a bundle again (`inlined_bundle`): those of the units in
      their order, each with the lines of code of its source;
   3. compares the bundle of a schema with the files that are written for it
      (`bundle_keeps_lines`): they have the same code for a unit whose file no later unit is
      written to, nor the module index;
   4. shows that the bundle has more than the files where two units, or a unit and the index,
      are written to one file (`bundle_unlike_files`).

   Files are named by the words of the units' names, and nothing makes these differ. -/

namespace Flyweight.Source

open Command
open Lines (Unbroken ofText_text unbroken_append unbroken_ofList)

namespace Modules

/-! ## Lines of code -/

theorem unbroken_codeLines {text : String} (h : '\x0d' ∉ text.toList) :
    ∀ line ∈ codeLines text, Unbroken line := by
  intro line mem
  have inside := List.mem_filter.mp (Lines.mem_of_trimmed mem)
  exact Lines.unbroken_of_ofText h line inside.1

theorem heldLines_cases (text : String) :
    (codeLines text = [] ∧ heldLines text = [""]) ∨
      (codeLines text ≠ [] ∧ heldLines text = codeLines text) := by
  unfold heldLines
  split
  · rename_i none_
    exact .inl ⟨none_, rfl⟩
  · rename_i some_
    exact .inr ⟨some_, rfl⟩

theorem unbroken_heldLines {text : String} (h : '\x0d' ∉ text.toList) :
    ∀ line ∈ heldLines text, Unbroken line := by
  rcases heldLines_cases text with ⟨-, held⟩ | ⟨-, held⟩
  · rw [held]
    intro line mem
    obtain rfl := List.mem_singleton.mp mem
    exact unbroken_ofList rfl
  · rw [held]
    exact unbroken_codeLines h

/-- A module has the lines of the source that may stand inside it; an empty line may also stand
for no code. -/
theorem mem_heldLines_iff {text line : String} (some_ : line ≠ "") :
    line ∈ heldLines text ↔ line ∈ Lines.ofText text ∧ mayStandInside line = true := by
  have code : line ∈ codeLines text ↔ line ∈ Lines.ofText text ∧ mayStandInside line = true := by
    rw [codeLines, Lines.mem_trimmed_iff some_, List.mem_filter]
  rw [← code]
  rcases heldLines_cases text with ⟨none_, held⟩ | ⟨-, held⟩
  · simp [none_, held, some_]
  · rw [held]

/-- A line of code that one source has and another has not tells their modules apart. -/
theorem heldLines_ne {text other : String} (line : String) (some_ : line ≠ "")
    (stays : mayStandInside line = true) (here : line ∈ Lines.ofText text)
    (absent : line ∉ Lines.ofText other) : heldLines other ≠ heldLines text := by
  intro same
  have held := (mem_heldLines_iff some_).mpr ⟨here, stays⟩
  rw [← same, mem_heldLines_iff some_] at held
  exact absent held.1

/-! ## Blocks -/

/-- The lines of a source that may stand inside a module, as they are moved to the right. -/
theorem indent_body {text : String} (h : '\x0d' ∉ text.toList) :
    Lines.indent (Lines.trimBreaks (Block.text ((Lines.ofText text).filter mayStandInside))) 1 =
      Lines.join ((codeLines text).map (Lines.indentLine 1)) := by
  have lines : ∀ line ∈ (Lines.ofText text).filter mayStandInside, '\n' ∉ line.toList :=
    fun line mem => (Lines.unbroken_of_ofText h line (List.mem_filter.mp mem).1).feed
  calc Lines.indent (Lines.trimBreaks (Block.text ((Lines.ofText text).filter mayStandInside))) 1
      = Lines.indent (Lines.join (codeLines text)) 1 := by
        rw [Lines.trimBreaks_text lines, codeLines]
    _ = Lines.join ((codeLines text).map (Lines.indentLine 1)) := by
        rw [Lines.indent, Lines.ofText_join (unbroken_codeLines h) (Lines.getLast?_trimmed _)]

/-- With the break behind them these are the lines of the module. -/
theorem join_codeLines (text : String) :
    Lines.join ((codeLines text).map (Lines.indentLine 1)) ++ "\n" =
      Block.text ((heldLines text).map (Lines.indentLine 1)) := by
  rcases heldLines_cases text with ⟨none_, held⟩ | ⟨some_, held⟩
  · rw [none_, held]
    rfl
  · rw [held, Lines.text_eq_join (by simpa using some_)]

theorem bundleBlock_eq {text : String} (h : '\x0d' ∉ text.toList) (name : String) :
    bundleBlock name text = Block.text (blockLines name text) := by
  have held : ((heldLines text).map ((· ++ "\n") ∘ Lines.indentLine 1)).flatMap String.toList =
      (Lines.join ((codeLines text).map (Lines.indentLine 1))).toList ++ ['\n'] := by
    have chars := congrArg String.toList (join_codeLines text)
    simpa [Block.text] using chars.symm
  apply String.toList_inj.mp
  rw [bundleBlock, indent_body h]
  simp [blockLines, Block.text, toString, held]

theorem unbroken_blockLines {text : String} (h : '\x0d' ∉ text.toList) (name : String) :
    ∀ line ∈ blockLines name text, Unbroken line := by
  have identifier := unbroken_moduleName name
  intro line mem
  simp only [blockLines, List.mem_append, List.mem_cons, List.not_mem_nil, or_false,
    List.mem_map] at mem
  rcases mem with ((rfl | rfl) | ⟨held, inside, rfl⟩) | rfl | rfl | rfl | rfl
  · exact unbroken_ofList rfl
  · exact unbroken_append (unbroken_append (unbroken_ofList rfl) identifier) (unbroken_ofList rfl)
  · exact Lines.unbroken_indentLine_iff.mpr (unbroken_heldLines h held inside)
  · exact unbroken_ofList rfl
  · exact unbroken_ofList rfl
  · exact unbroken_append (unbroken_append (unbroken_ofList rfl) identifier) (unbroken_ofList rfl)
  · exact unbroken_ofList rfl

/-! ## Reading -/

theorem inlined_skip {line : String} (other : between? "pub mod " " \x7b" line = none)
    (rest : List String) : inlined (line :: rest) = inlined rest := by
  rw [inlined, other]

theorem unindented_indentLine (line : String) : unindented (Lines.indentLine 1 line) = line := by
  unfold Lines.indentLine
  split
  · rename_i empty
    rw [String.isEmpty_iff.mp empty]
    rfl
  · simp [unindented, List.replicate]

/-- A line that is moved to the right closes nothing. -/
theorem indentLine_ne_close (line : String) : Lines.indentLine 1 line ≠ "\x7d" := by
  unfold Lines.indentLine
  split
  · decide
  · intro same
    have chars := congrArg String.toList same
    simp [List.replicate] at chars

theorem inlined_block (name text : String) (rest : List String) :
    inlined (blockLines name text ++ rest) =
      (Identifier.moduleName name, heldLines text) :: inlined rest := by
  have opens : between? "pub mod " " \x7b" ("pub mod " ++ Identifier.moduleName name ++ " \x7b") =
      some (Identifier.moduleName name) := between?_enclosed _ _ _
  have exports : between? "pub mod " " \x7b"
      ("pub use " ++ Identifier.moduleName name ++ "::*;") = none :=
    between?_eq_none _ (by simp)
  have inside : ∀ line ∈ (heldLines text).map (Lines.indentLine 1),
      decide (line ≠ "\x7d") = true := by
    intro line mem
    obtain ⟨held, -, rfl⟩ := List.mem_map.mp mem
    exact decide_eq_true (indentLine_ne_close held)
  have back : ((heldLines text).map (Lines.indentLine 1)).map unindented = heldLines text := by
    simp [Function.comp_def, unindented_indentLine]
  have front : between? "pub mod " " \x7b"
      "#[allow(clippy::all, unused_parens, unused_imports, dead_code)]" = none := by
    decide +kernel
  let behind := "\x7d" :: "" :: ("pub use " ++ Identifier.moduleName name ++ "::*;") :: "" :: rest
  let lines := (heldLines text).map (Lines.indentLine 1)
  calc inlined (blockLines name text ++ rest)
      = inlined (("pub mod " ++ Identifier.moduleName name ++ " \x7b") :: (lines ++ behind)) := by
        simp only [blockLines, List.cons_append, List.nil_append, List.append_assoc]
        exact inlined_skip front _
    _ = (Identifier.moduleName name,
          ((lines ++ behind).takeWhile (· ≠ "\x7d")).map unindented) ::
          inlined ((lines ++ behind).dropWhile (· ≠ "\x7d")) := by
        rw [inlined, opens]
    _ = (Identifier.moduleName name, heldLines text) :: inlined behind := by
        rw [List.takeWhile_append_of_pos inside, List.dropWhile_append_of_pos inside,
          List.takeWhile_cons_of_neg (by decide), List.dropWhile_cons_of_neg (by decide),
          List.append_nil, back]
    _ = (Identifier.moduleName name, heldLines text) :: inlined rest := by
        rw [inlined_skip (by decide +kernel), inlined_skip (by decide +kernel),
          inlined_skip exports, inlined_skip (by decide +kernel)]

/-- The blocks of the units, one after another. -/
theorem bundle_join {us : List (String × String)} (h : ∀ u ∈ us, '\x0d' ∉ u.2.toList) :
    bundle us = String.join (us.map fun u => Block.text (blockLines u.1 u.2)) := by
  have each : us.map (fun u => bundleBlock u.1 u.2) =
      us.map fun u => Block.text (blockLines u.1 u.2) :=
    List.map_congr_left fun u mem => bundleBlock_eq (h u mem) u.1
  exact congrArg String.join each

theorem text_flatMap {α : Type} (items : List α) (lines : α → Block) :
    Block.text (items.flatMap lines) = String.join (items.map fun a => Block.text (lines a)) := by
  apply String.toList_inj.mp
  simp [Block.text, List.flatMap_map, List.map_flatMap, List.flatMap_assoc]

theorem inlined_bundle {us : List (String × String)} (h : ∀ u ∈ us, '\x0d' ∉ u.2.toList) :
    inlined (Lines.ofText (bundle us)) =
      us.map fun u => (Identifier.moduleName u.1, heldLines u.2) := by
  have unbroken : ∀ line ∈ us.flatMap fun u => blockLines u.1 u.2, Unbroken line := by
    intro line mem
    obtain ⟨u, inside, held⟩ := List.mem_flatMap.mp mem
    exact unbroken_blockLines (h u inside) u.1 line held
  rw [bundle_join h, ← text_flatMap, ofText_text unbroken]
  clear unbroken h
  induction us with
  | nil => simp [inlined]
  | cons u rest ih => rw [List.flatMap_cons, inlined_block, ih, List.map_cons]

end Modules

/-! ## Units of a schema -/

/-- A unit is in lines what every unit starts with and the block of its declaration. -/
theorem lines_unit {o : Options} {s : Schema} {d : Declaration} (h : d.Unbroken)
    (codec : Unbroken o.codecPath) (package : Unbroken (o.package.getD s.package)) :
    Lines.ofText (d.unit o s).text =
      prologue o.codecPath (o.package.getD s.package) d.typeName ++ d.block := by
  have first : Block.Unbroken (prologue o.codecPath (o.package.getD s.package) d.typeName) := by
    simp [toString, prologue, codec, package, d.unbroken_typeName h]
    and_intros
    all_goals exact unbroken_ofList rfl
  have whole := unbroken_blocks.mpr ⟨first, d.unbroken_block h⟩
  rw [Declaration.unit, ofText_text whole]

/-- The index never has the code of a unit, which imports what the other modules have. -/
theorem heldLines_index_ne {o : Options} {s : Schema} {d : Declaration} (h : d.Unbroken)
    (codec : Unbroken o.codecPath) (package : Unbroken (o.package.getD s.package))
    (names : List String) :
    Modules.heldLines (moduleIndex names) ≠ Modules.heldLines (d.unit o s).text := by
  apply Modules.heldLines_ne "use super::*;" (by decide) (by decide +kernel)
  · rw [lines_unit h codec package]
    simp [prologue]
  · have declares (identifier : String) : declaration identifier ≠ "use super::*;" := by
      intro same
      have chars := congrArg (·.toList.head?) same
      simp [declaration] at chars
    have exports (identifier : String) : reexport identifier ≠ "use super::*;" := by
      intro same
      have chars := congrArg (·.toList.head?) same
      simp [reexport] at chars
    rw [lines_moduleIndex]
    simp [declares, exports]

theorem bundleOf_ok {o : Options} {s : Schema} {us : List SourceUnit} (h : units o s = .ok us) :
    bundleOf o s = .ok (bundle (us.map SourceUnit.call)) := by
  rw [bundleOf, h]
  rfl

/-- The modules of the bundle of a schema are its units. -/
theorem inlined_units {us : List SourceUnit} (h : ∀ u ∈ us, '\x0d' ∉ u.text.toList) :
    Modules.inlined (Lines.ofText (bundle (us.map SourceUnit.call))) =
      us.map fun u => (u.moduleName, Modules.heldLines u.text) := by
  rw [Modules.inlined_bundle, List.map_map]
  · rfl
  · intro call mem
    obtain ⟨u, inside, rfl⟩ := List.mem_map.mp mem
    exact h u inside

/-- What is written for a unit that no later one replaces has the lines of its module in the
bundle. -/
theorem inlined_written {o : Options} {s : Schema} {us : List SourceUnit} (h : units o s = .ok us)
    {directory : String} {t t' : FileTree} {result before after : List SourceUnit} {u : SourceUnit}
    (put : outcome (putAll o s (directorySink FileTree.storage directory)) t = (.ok result, t'))
    (place : us = before ++ u :: after)
    (last : ∀ v ∈ after, Identifier.fileStem v.name ≠ Identifier.fileStem u.name)
    (apart : o.moduleIndex = true → Identifier.fileStem u.name ≠ moduleIndexName) :
    ∃ source, t'.read (unitPath directory u.name) = .ok source ∧
      (us.map fun v => (v.moduleName, Modules.heldLines v.text))[before.length]? =
        some (u.moduleName, Modules.heldLines source) := by
  obtain ⟨-, calls⟩ := putEach_of_putAll h put
  refine ⟨u.text, (filed_of_puts h (putsFiles_of_putEach calls)).written before u after place last
    apart, ?_⟩
  simp [place]

/-- A bundle is one block for each unit, in their order, if no unit has carriage returns. The
modules that are read from it are those of the units, each with the lines of its source that may
stand inside a module, in their order; only empty lines at the two ends are left out. The units
of a schema have no carriage returns unless the package or the path of the codec has one. So a
unit has the same code in the bundle and in its file in a directory, unless a later unit or the
module index is written to that file. -/
theorem bundle_keeps_lines :
    (∀ us : List (String × String), (∀ u ∈ us, '\x0d' ∉ u.2.toList) →
      bundle us = String.join (us.map fun u => Block.text (Modules.blockLines u.1 u.2)) ∧
      Modules.inlined (Lines.ofText (bundle us)) =
        us.map fun u => (Identifier.moduleName u.1, Modules.heldLines u.2)) ∧
    ∀ o s us, units o s = .ok us →
      ((∀ u ∈ us, '\x0d' ∉ u.text.toList) ↔
        '\x0d' ∉ o.codecPath.toList ∧ '\x0d' ∉ (o.package.getD s.package).toList) ∧
      ((∀ u ∈ us, '\x0d' ∉ u.text.toList) → ∃ text, bundleOf o s = .ok text ∧
        Modules.inlined (Lines.ofText text) =
          us.map (fun u => (u.moduleName, Modules.heldLines u.text)) ∧
        ∀ directory t t' result,
          outcome (putAll o s (directorySink FileTree.storage directory)) t = (.ok result, t') →
          ∀ before u after, us = before ++ u :: after →
            (∀ v ∈ after, Identifier.fileStem v.name ≠ Identifier.fileStem u.name) →
            (o.moduleIndex = true → Identifier.fileStem u.name ≠ moduleIndexName) →
            ∃ source, t'.read (unitPath directory u.name) = .ok source ∧
              (Modules.inlined (Lines.ofText text))[before.length]? =
                some (u.moduleName, Modules.heldLines source)) := by
  refine ⟨fun us h => ⟨Modules.bundle_join h, Modules.inlined_bundle h⟩, ?_⟩
  intro o s us generated
  refine ⟨return_notMem_units generated, fun h => ?_⟩
  refine ⟨_, bundleOf_ok generated, inlined_units h, ?_⟩
  intro directory t t' result put before u after place last apart
  rw [inlined_units h]
  exact inlined_written generated put place last apart

/-- A unit with an empty line inside and one that has nothing but its documentation; and a
header with one type, whose code is the same in the bundle and in its file. -/
theorem bundle_keeps_lines_flag :
    let composite (name : String) (size : UInt64) : List Token :=
      [{ signal := .beginComposite, name, size }, { signal := .endComposite, name }]
    let s : Schema := { package := "p", header := composite "h" 0, types := [composite "flag" 1] }
    Modules.inlined (Lines.ofText (bundle
        [("Flag", "//! A flag.\n#![allow(unused)]\n\nuse super::*;\n\npub struct Flag;\n"),
          ("Nothing", "//! Nothing.\n\n")])) =
        [("flag", ["use super::*;", "", "pub struct Flag;"]), ("nothing", [""])] ∧
      ∃ us text t source, units {} s = .ok us ∧ us.map (·.name) = ["MessageHeader", "Flag"] ∧
        bundleOf {} s = .ok text ∧
        outcome (putAll {} s (directorySink FileTree.storage "out")) {} = (.ok us, t) ∧
        t.read (unitPath "out" "Flag") = .ok source ∧
        (Modules.inlined (Lines.ofText text))[1]? = some ("flag", Modules.heldLines source) := by
  intro composite s
  constructor
  · exact (bundle_keeps_lines.1 _ (by decide +kernel)).2.trans (by decide +kernel)
  · have names : (units {} s).toOption.map (·.map (·.name)) = some ["MessageHeader", "Flag"] := by
      decide +kernel
    have written : (outcome (putAll {} s (directorySink FileTree.storage "out")) {}).1.toOption.map
        (·.length) = some 2 := by
      decide +kernel
    obtain ⟨us, generated, named⟩ := ok_of_map_toOption names
    obtain ⟨result, put, -⟩ := ok_of_map_toOption written
    obtain ⟨clean, keeps⟩ := bundle_keeps_lines.2 {} s us generated
    obtain ⟨text, bundled, -, same⟩ := keeps (clean.mpr ⟨by decide, by decide⟩)
    obtain ⟨header, rest, rfl, -, rest_⟩ := List.map_eq_cons_iff.mp named
    obtain ⟨flag, none_, rfl, flag_, empty⟩ := List.map_eq_cons_iff.mp rest_
    obtain rfl := List.map_eq_nil_iff.mp empty
    obtain rfl := (putEach_of_putAll generated (Prod.ext put rfl)).1
    obtain ⟨source, file, module⟩ := same "out" {} _ _ (Prod.ext put rfl) [header] flag [] rfl
      (by simp) (by rw [flag_]; decide +kernel)
    rw [SourceUnit.moduleName, flag_] at module
    rw [flag_] at file
    exact ⟨_, text, _, source, generated, named, bundled, Prod.ext put rfl, file, module⟩

/-- Two types named alike but for a capital, and one whose file is that of the module index: the
bundle has the code of each, but the file of the first has that of the second, and the file of
the third has the index. -/
theorem bundle_unlike_files :
    let composite (name : String) (size : UInt64) : List Token :=
      [{ signal := .beginComposite, name, size }, { signal := .endComposite, name }]
    let s : Schema := { package := "p", header := composite "h" 0, types :=
      [composite "flag" 1, composite "Flag" 2, composite "mod" 3] }
    ∃ us text t, units {} s = .ok us ∧
      us.map (·.name) = ["MessageHeader", "Flag", "Flag", "Mod"] ∧
      (∀ u ∈ us, '\x0d' ∉ u.text.toList) ∧ bundleOf {} s = .ok text ∧
      outcome (putAll {} s (directorySink FileTree.storage "out")) {} = (.ok us, t) ∧
      ∀ i ∈ [1, 3], ∃ u source, us[i]? = some u ∧
        (Modules.inlined (Lines.ofText text))[i]? = some (u.moduleName, Modules.heldLines u.text) ∧
        t.read (unitPath "out" u.name) = .ok source ∧
        Modules.heldLines source ≠ Modules.heldLines u.text := by
  intro composite s
  let flyweight (typeName : String) (encodedLength : Nat) : Declaration :=
    .fixed { typeName, encodedLength, members := [] }
  let header := (flyweight "MessageHeader" 0).unit {} s
  let first := (flyweight "Flag" 1).unit {} s
  let second := (flyweight "Flag" 2).unit {} s
  let third := (flyweight "Mod" 3).unit {} s
  have types : List.Forall₂ (fun tokens u => typeUnit {} s tokens = .ok u) s.types
      [first, second, third] :=
    .cons (map_ok_iff.mpr ⟨flyweight "Flag" 1, by decide +kernel, rfl⟩)
      (.cons (map_ok_iff.mpr ⟨flyweight "Flag" 2, by decide +kernel, rfl⟩)
        (.cons (map_ok_iff.mpr ⟨flyweight "Mod" 3, by decide +kernel, rfl⟩) .nil))
  have generated : units {} s = .ok [header, first, second, third] :=
    units_ok_iff.mpr
      ⟨header, _, [], ⟨map_ok_iff.mpr ⟨_, by decide +kernel, rfl⟩, types, .nil⟩, rfl⟩
  have clean := (return_notMem_units generated).mpr ⟨by decide, by decide⟩
  have written : (outcome (putAll {} s (directorySink FileTree.storage "out")) {}).1.toOption.map
      (·.length) = some 4 := by
    decide +kernel
  obtain ⟨result, put, -⟩ := ok_of_map_toOption written
  obtain ⟨rfl, calls⟩ := putEach_of_putAll generated (Prod.ext put rfl)
  have filed := filed_of_puts generated (putsFiles_of_putEach calls)
  have codec : Unbroken ({} : Options).codecPath := unbroken_ofList rfl
  have package : Unbroken (({} : Options).package.getD s.package) := unbroken_ofList rfl
  have whole (typeName : String) (named : Unbroken typeName) (n : Nat) :
      (flyweight typeName n).Unbroken :=
    ⟨named, fun m none_ => absurd none_ List.not_mem_nil⟩
  have replaced : Modules.heldLines second.text ≠ Modules.heldLines first.text := by
    apply Modules.heldLines_ne "    pub const ENCODED_LENGTH: usize = 1;" (by decide)
      (by decide +kernel)
    · rw [lines_unit (whole "Flag" (unbroken_ofList rfl) 1) codec package]
      decide +kernel
    · rw [lines_unit (whole "Flag" (unbroken_ofList rfl) 2) codec package]
      decide +kernel
  refine ⟨_, _, _, generated, rfl, clean, bundleOf_ok generated, Prod.ext put rfl, ?_⟩
  intro i place
  rw [inlined_units clean]
  rcases List.mem_cons.mp place with rfl | place
  · have file : FileTree.read _ (unitPath "out" "Flag") = .ok second.text :=
      filed.written [header, first] second [third] rfl (by decide +kernel) (by decide +kernel)
    exact ⟨first, second.text, rfl, rfl, file, replaced⟩
  · obtain rfl := List.mem_singleton.mp place
    have file := filed.index rfl
    rw [show unitPath "out" moduleIndexName = unitPath "out" "Mod" by decide +kernel] at file
    exact ⟨third, _, rfl, rfl, file,
      heldLines_index_ne (whole "Mod" (unbroken_ofList rfl) 3) codec package _⟩

end Flyweight.Source
