import Flyweight.Proofs.Command.Outcome
import Flyweight.Proofs.Source.Acceptance
import Flyweight.Proofs.Text.Identifiers
import Flyweight.Proofs.Text.Lines
import Flyweight.Source.Modules

/- The module index and the files of the modules.

   The index has two lines for each unit. They are read from its text again, since nothing in a
   module's identifier could end a line or the declaration early (`declared_moduleIndex`). The
   identifier and the file of a unit are made from the unit's name in two ways, of which only one
   escapes reserved words. The mark of a raw identifier is not a part of a file's name; an
   underscore is. So the file in which a module is looked up is that of its unit exactly if the
   words of the name are not `self`, `super` or `crate` (`modules_resolve`). -/

namespace Flyweight.Source

open Command
open Lines (Unbroken ofText_text unbroken_append unbroken_ofList)

/-! ## Lines with a part of their own -/

namespace Modules

theorem between?_enclosed (before after middle : String) :
    between? before after (before ++ middle ++ after) = some middle := by
  have shape : (before ++ middle ++ after).toList =
      before.toList ++ (middle.toList ++ after.toList) := by
    rw [String.toList_append, String.toList_append, List.append_assoc]
  have front : before.toList.isPrefixOf (before.toList ++ (middle.toList ++ after.toList)) = true :=
    List.isPrefixOf_iff_prefix.mpr (List.prefix_append _ _)
  have back : after.toList.isSuffixOf (middle.toList ++ after.toList) = true :=
    List.isSuffixOf_iff_suffix.mpr (List.suffix_append _ _)
  simp only [between?, shape, List.drop_left, front, back, Bool.and_self, if_true,
    List.length_append, Nat.add_sub_cancel, List.take_left, String.ofList_toList]

theorem between?_eq_none {before line : String} (after : String)
    (other : ¬ before.toList <+: line.toList) : between? before after line = none := by
  have differs : before.toList.isPrefixOf line.toList = false := by
    rw [← Bool.not_eq_true, List.isPrefixOf_iff_prefix]
    exact other
  simp only [between?, differs, Bool.false_and, Bool.false_eq_true, if_false]

end Modules

theorem unbroken_moduleName (name : String) : Unbroken (Identifier.moduleName name) :=
  ⟨Identifier.notMem_escape (Words.notMem_snake Letters.foreign_feed name) (by decide),
    Identifier.notMem_escape (Words.notMem_snake Letters.foreign_return name) (by decide)⟩

/-! ## The index -/

/-- The line that declares a module. -/
def declaration (identifier : String) : String := "pub mod " ++ identifier ++ ";"

/-- The line that exports a module. -/
def reexport (identifier : String) : String := "pub use " ++ identifier ++ "::*;"

/-- The index in lines. -/
theorem lines_moduleIndex (names : List String) :
    Lines.ofText (moduleIndex names) =
      ["//! Generated module index. Do not edit.", ""] ++
        names.map (fun name => declaration (Identifier.moduleName name)) ++ [""] ++
        names.map fun name => reexport (Identifier.moduleName name) := by
  have shape : moduleIndex names = Block.text
      (["//! Generated module index. Do not edit.", ""] ++
        names.map (fun name => declaration (Identifier.moduleName name)) ++ [""] ++
        names.map fun name => reexport (Identifier.moduleName name)) := by
    simp only [moduleIndex, List.map_map]
    rfl
  rw [shape, ofText_text]
  intro line mem
  simp only [List.mem_append, List.mem_cons, List.not_mem_nil, or_false, List.mem_map] at mem
  rcases mem with (((rfl | rfl) | ⟨name, -, rfl⟩) | rfl) | ⟨name, -, rfl⟩
  · exact unbroken_ofList rfl
  · exact unbroken_ofList rfl
  · exact unbroken_append (unbroken_append (unbroken_ofList rfl) (unbroken_moduleName name))
      (unbroken_ofList rfl)
  · exact unbroken_ofList rfl
  · exact unbroken_append (unbroken_append (unbroken_ofList rfl) (unbroken_moduleName name))
      (unbroken_ofList rfl)

/-- What is read line by line from the index is read from the lines of the modules, if nothing
is read from the others. -/
theorem filterMap_moduleIndex {read : String → Option String}
    (heading : read "//! Generated module index. Do not edit." = none) (blank : read "" = none)
    (names : List String) :
    (Lines.ofText (moduleIndex names)).filterMap read =
      names.filterMap (fun name => read (declaration (Identifier.moduleName name))) ++
        names.filterMap fun name => read (reexport (Identifier.moduleName name)) := by
  simp only [lines_moduleIndex, List.filterMap_append, List.filterMap_cons, List.filterMap_nil,
    heading, blank, List.filterMap_map, List.nil_append, List.append_nil]
  rfl

theorem declared_moduleIndex (names : List String) :
    Modules.declared (Lines.ofText (moduleIndex names)) = names.map Identifier.moduleName := by
  have own (identifier : String) :
      Modules.between? "pub mod " ";" (declaration identifier) = some identifier :=
    Modules.between?_enclosed _ _ _
  have other (identifier : String) :
      Modules.between? "pub mod " ";" (reexport identifier) = none := by
    apply Modules.between?_eq_none
    simp [reexport]
  rw [Modules.declared, filterMap_moduleIndex (by decide +kernel) (by decide +kernel)]
  simp [own, other]

theorem reexported_moduleIndex (names : List String) :
    Modules.reexported (Lines.ofText (moduleIndex names)) = names.map Identifier.moduleName := by
  have own (identifier : String) :
      Modules.between? "pub use " "::*;" (reexport identifier) = some identifier :=
    Modules.between?_enclosed _ _ _
  have other (identifier : String) :
      Modules.between? "pub use " "::*;" (declaration identifier) = none := by
    apply Modules.between?_eq_none
    simp [declaration]
  rw [Modules.reexported, filterMap_moduleIndex (by decide +kernel) (by decide +kernel)]
  simp [own, other]

/-! ## Files -/

/-- Paths of files in one directory are the same only for the same name. -/
theorem join_inj {directory file other : String} :
    FileTree.join directory file = FileTree.join directory other ↔ file = other := by
  constructor
  · intro same
    unfold FileTree.join at same
    split at same
    · exact same
    · exact String.append_right_inj _ |>.mp same
    · exact String.append_right_inj _ |>.mp same
  · exact congrArg (FileTree.join directory)

/-- The words of the name are the identifier without its mark, except where the identifier has
an underscore instead. -/
theorem bare_moduleName (name : String) :
    Identifier.bare (Identifier.moduleName name) = Identifier.fileStem name ↔
      Identifier.fileStem name ∉ Identifier.neverRaw := by
  have unmarked := Words.notMem_snake Letters.foreign_mark name
  rw [Identifier.moduleName, Identifier.bare_escape unmarked, Identifier.fileStem]
  split
  · rename_i special
    refine ⟨fun same => absurd same ?_, fun free => absurd special free⟩
    exact Identifier.append_underscore_ne (Words.getLast?_snake name)
  · rename_i free
    exact ⟨fun _ => free, fun _ => rfl⟩

theorem path_moduleName (directory name : String) :
    Modules.path directory (Identifier.moduleName name) = unitPath directory name ↔
      Identifier.fileStem name ∉ Identifier.neverRaw := by
  rw [← bare_moduleName, Modules.path, unitPath, join_inj]
  exact String.append_left_inj ".rs"

/-- The index declares the modules of the units, and exports the same ones in the same order.
Their identifiers are not reserved. A module is looked up in the file of its unit exactly if
the stem of the file, which the identifier has without its mark, could be a raw identifier. -/
theorem modules_resolve (names : List String) :
    Modules.declared (Lines.ofText (moduleIndex names)) = names.map Identifier.moduleName ∧
      Modules.reexported (Lines.ofText (moduleIndex names)) = names.map Identifier.moduleName ∧
      ∀ name, Identifier.moduleName name ∉ Identifier.reserved ∧
        (Identifier.bare (Identifier.moduleName name) = Identifier.fileStem name ↔
          Identifier.fileStem name ∉ Identifier.neverRaw) ∧
        ∀ directory,
          Modules.path directory (Identifier.moduleName name) = unitPath directory name ↔
            Identifier.fileStem name ∉ Identifier.neverRaw :=
  ⟨declared_moduleIndex names, reexported_moduleIndex names, fun name =>
    ⟨Identifier.escape_notMem_reserved _, bare_moduleName name, fun directory =>
      path_moduleName directory name⟩⟩

/-- A type that is called a crate gets a file of that name, but a module with an underscore,
which is looked up in a file that is not there. -/
theorem crate_unresolved :
    let composite (name : String) (size : UInt64) : List Token :=
      [{ signal := .beginComposite, name, size }, { signal := .endComposite, name }]
    let s : Schema := { package := "p", header := composite "h" 0, types := [composite "crate" 1] }
    ∃ us t, units {} s = .ok us ∧ us.map (·.name) = ["MessageHeader", "Crate"] ∧
      outcome (putAll {} s (directorySink FileTree.storage "out")) {} = (.ok us, t) ∧
      ((t.read (unitPath "out" moduleIndexName)).toOption.map fun index =>
        Modules.declared (Lines.ofText index)) = some ["message_header", "crate_"] ∧
      (t.read (unitPath "out" "Crate")).toOption.isSome = true ∧
      (t.read (Modules.path "out" "crate_")).toOption = none := by
  intro composite s
  let written := outcome (putAll {} s (directorySink FileTree.storage "out")) {}
  have names : (units {} s).toOption.map (·.map (·.name)) = some ["MessageHeader", "Crate"] := by
    decide +kernel
  have put : (units {} s).toOption = written.1.toOption := by
    decide +kernel
  have files : ((written.2.read (unitPath "out" moduleIndexName)).toOption.map (fun index =>
        Modules.declared (Lines.ofText index)),
      (written.2.read (unitPath "out" "Crate")).toOption.isSome,
      (written.2.read (Modules.path "out" "crate_")).toOption) =
      (some ["message_header", "crate_"], true, none) := by
    decide +kernel
  obtain ⟨us, generated, named⟩ := ok_of_map_toOption names
  have answer : written.1.toOption.map id = some us := by
    rw [← put, generated]
    rfl
  obtain ⟨result, put, same⟩ := ok_of_map_toOption answer
  obtain rfl : result = us := same
  obtain ⟨index, files⟩ := Prod.mk.inj files
  obtain ⟨there, missing⟩ := Prod.mk.inj files
  exact ⟨result, written.2, generated, named, Prod.ext put rfl, index, there, missing⟩

end Flyweight.Source
