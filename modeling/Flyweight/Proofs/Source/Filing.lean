import Flyweight.Proofs.FileTree.Writing
import Flyweight.Proofs.Source.Output
import Flyweight.Proofs.Text.Names

/- Units in a directory.

   A unit is written to a file that is named by the words of the unit's name, in a directory
   that is made if it is missing. What one unit does to the tree of files is said once
   (`putsFile_of_sink`): its text is in its file, the directory is where it was, and every
   other file is as before. For a run over many units it follows that

   1. the last unit of a file is the one that is found in it;
   2. a file that is in the tree afterwards either was there before or is that of a unit
      (`putsFiles_of_putEach`).

   The path of the directory may be any that leads somewhere. It leads to the same place for
   every unit, since no directory is ever removed. -/

namespace Flyweight.Source

open Command

/-! ## Names of files -/

/-- The name of a unit's file. -/
def fileName (name : String) : String := Identifier.fileStem name ++ ".rs"

/-- The module index has a file of the name that the language gives it. -/
theorem fileStem_index : Identifier.fileStem moduleIndexName = moduleIndexName := by
  decide +kernel

theorem slash_notMem_fileName (name : String) : '/' ∉ (fileName name).toList := by
  rw [fileName, String.toList_append, List.mem_append, not_or]
  exact ⟨Words.notMem_snake Letters.foreign_slash name, by decide⟩

/-- The file's name ends as that of a source file, so it means no place by itself. -/
theorem proper_fileName (name : String) : FileTree.Proper (fileName name) := by
  have ends {other : String} (short : other.toList.length < 3) : fileName name ≠ other := by
    rintro rfl
    rw [fileName, String.toList_append, List.length_append] at short
    have three : ".rs".toList.length = 3 := by decide
    omega
  exact ⟨ends (by decide), ends (by decide), ends (by decide), ends (by decide)⟩

theorem fileName_injective {name other : String} (h : fileName name = fileName other) :
    Identifier.fileStem name = Identifier.fileStem other := by
  have chars := congrArg String.toList h
  rw [fileName, fileName, String.toList_append, String.toList_append] at chars
  exact String.toList_inj.mp (List.append_cancel_right chars)

/-! ## One unit -/

/-- Names lead to a directory. -/
structure LeadsTo (t : FileTree) (directory : String) (here : List String) : Prop where
  walk : t.walk [] (FileTree.components directory) = .ok here
  stands : t.node? here = some .directory

theorem LeadsTo.later {t t' : FileTree} {directory : String} {here : List String}
    (h : LeadsTo t directory here) (later : t.Extends t') : LeadsTo t' directory here :=
  ⟨FileTree.walk_of_extends later h.walk, later here h.stands⟩

theorem LeadsTo.unique {t : FileTree} {directory : String} {here other : List String}
    (h : LeadsTo t directory here) (h' : LeadsTo t directory other) : here = other :=
  Except.ok.inj (h.walk.symm.trans h'.walk)

/-- A unit's file has its place in the directory that its path leads to. -/
theorem walk_fileName {t : FileTree} {directory name : String} {here : List String}
    (leads : LeadsTo t directory here)
    (short : (fileName name).utf8ByteSize ≤ FileTree.longestName) :
    t.walk [] (FileTree.openedComponents (unitPath directory name)) =
      .ok (here ++ [fileName name]) := by
  have path : FileTree.openedComponents (unitPath directory name) =
      FileTree.components directory ++ [fileName name] :=
    FileTree.openedComponents_join (slash_notMem_fileName name) (proper_fileName name).named
  rw [path, FileTree.walk_append, leads.walk]
  exact (FileTree.walk_single (proper_fileName name)).mpr ⟨leads.stands, short, rfl⟩

/-- What one unit does to a tree: its text is in its file, and no other file is changed. -/
structure PutsFile (directory : String) (call : String × String) (here : List String)
    (t t' : FileTree) : Prop where
  later : t.Extends t'
  leads : LeadsTo t' directory here
  short : (fileName call.1).utf8ByteSize ≤ FileTree.longestName
  holds : t'.node? (here ++ [fileName call.1]) = some (.file call.2)
  others : ∀ place, place ≠ here ++ [fileName call.1] → ∀ text,
    t'.node? place = some (.file text) ↔ t.node? place = some (.file text)

theorem putsFile_of_sink {directory : String} {call : String × String} {t t' : FileTree}
    (h : outcome (directorySink FileTree.storage directory call.1 call.2) t = (.ok (), t')) :
    ∃ here, PutsFile directory call here t t' := by
  have added : t.Adds (outcome (FileTree.storage.ensureDirectory directory) t).2 :=
    FileTree.adds_ensureDirectories (FileTree.components directory) t
  rw [directorySink, outcome_adapt, outcome_bind] at h
  generalize outcome (FileTree.storage.ensureDirectory directory) t = made at h added
  obtain ⟨_ | _, made⟩ := made
  · cases h
  · simp only at h added
    cases written : outcome (FileTree.storage.write (unitPath directory call.1) call.2) made with
    | mk result t'' =>
      rw [written] at h
      cases result with
      | error e => cases h
      | ok _ =>
        cases h
        obtain ⟨here, inside, stands, short, other, rfl⟩ :=
          FileTree.write_joined (slash_notMem_fileName call.1) (proper_fileName call.1) written
        have root : here ++ [fileName call.1] ≠ [] := by
          simp
        have put : made.Extends (made.put (here ++ [fileName call.1]) (.file call.2)) :=
          FileTree.extends_put root other
        refine ⟨here, added.later.trans put, LeadsTo.later ⟨inside, stands⟩ put, short, ?_, ?_⟩
        · rw [FileTree.node?_put _ root, if_pos rfl]
        · intro place differs text
          rw [FileTree.node?_put _ root, if_neg differs]
          exact added.files place text

/-! ## Many units -/

/-- Several units, one after the other. -/
theorem putEach_cons_ok {directory : String} {call : String × String}
    {rest : List (String × String)} {t t' : FileTree}
    (h : outcome (putEach (directorySink FileTree.storage directory) (call :: rest)) t =
      (.ok (), t')) :
    ∃ here t'', PutsFile directory call here t t'' ∧
      outcome (putEach (directorySink FileTree.storage directory) rest) t'' = (.ok (), t') := by
  rw [putEach_cons, outcome_bind] at h
  cases first : outcome (directorySink FileTree.storage directory call.1 call.2) t with
  | mk result t'' =>
    rw [first] at h
    cases result with
    | error e => cases h
    | ok _ =>
      obtain ⟨here, puts⟩ := putsFile_of_sink first
      exact ⟨here, t'', puts, h⟩

/-- A file that no further unit is written to keeps its text. -/
theorem node?_of_putEach {directory file : String} {calls : List (String × String)}
    (others : ∀ call ∈ calls, fileName call.1 ≠ file) {t t' : FileTree} {here : List String}
    (leads : LeadsTo t directory here)
    (h : outcome (putEach (directorySink FileTree.storage directory) calls) t = (.ok (), t')) :
    t.Extends t' ∧ ∀ text, t'.node? (here ++ [file]) = some (.file text) ↔
      t.node? (here ++ [file]) = some (.file text) := by
  induction calls generalizing t with
  | nil =>
    cases h
    exact ⟨.refl _, fun text => Iff.rfl⟩
  | cons call rest ih =>
    obtain ⟨here', t'', puts, behind⟩ := putEach_cons_ok h
    -- The directory is at the same place in both trees.
    have stays := leads.later puts.later
    obtain rfl : here = here' := stays.unique puts.leads
    have differs : here ++ [file] ≠ here ++ [fileName call.1] := by
      intro same
      have equal : file = fileName call.1 := by simpa using same
      exact others call List.mem_cons_self equal.symm
    obtain ⟨later, kept⟩ := ih (fun c inside => others c (List.mem_cons_of_mem call inside))
      stays behind
    exact ⟨puts.later.trans later, fun text => (kept text).trans (puts.others _ differs text)⟩

/-- What many units do to a tree. -/
structure PutsFiles (directory : String) (calls : List (String × String)) (t t' : FileTree) :
    Prop where
  later : t.Extends t'
  last : ∀ before call after, calls = before ++ call :: after →
    (∀ c ∈ after, fileName c.1 ≠ fileName call.1) →
    ∃ here, LeadsTo t' directory here ∧
      (fileName call.1).utf8ByteSize ≤ FileTree.longestName ∧
      t'.node? (here ++ [fileName call.1]) = some (.file call.2)
  files : ∀ place text, t'.node? place = some (.file text) →
    t.node? place = some (.file text) ∨ ∃ call ∈ calls, text = call.2 ∧
      ∃ here, LeadsTo t' directory here ∧ place = here ++ [fileName call.1]

theorem putsFiles_of_putEach {directory : String} {calls : List (String × String)}
    {t t' : FileTree}
    (h : outcome (putEach (directorySink FileTree.storage directory) calls) t = (.ok (), t')) :
    PutsFiles directory calls t t' := by
  induction calls generalizing t with
  | nil =>
    cases h
    refine ⟨.refl _, ?_, fun place text there => .inl there⟩
    intro before call after shape
    simp at shape
  | cons first rest ih =>
    obtain ⟨here, t'', puts, behind⟩ := putEach_cons_ok h
    have others := ih behind
    refine ⟨puts.later.trans others.later, ?_, ?_⟩
    · intro before call after shape alone
      cases before with
      | nil =>
        -- The unit put first is followed by units for other files.
        obtain ⟨rfl, rfl⟩ := List.cons.inj shape
        obtain ⟨later, kept⟩ := node?_of_putEach alone puts.leads behind
        exact ⟨here, puts.leads.later later, puts.short, (kept first.2).mpr puts.holds⟩
      | cons earlier more =>
        obtain ⟨rfl, rfl⟩ := List.cons.inj shape
        exact others.last more call after rfl alone
    · intro place text there
      rcases others.files place text there with old | ⟨call, inside, same, at_⟩
      · by_cases own : place = here ++ [fileName first.1]
        · subst own
          rw [puts.holds] at old
          cases old
          exact .inr ⟨first, List.mem_cons_self, rfl, here, puts.leads.later others.later, rfl⟩
        · exact .inl ((puts.others place own text).mp old)
      · exact .inr ⟨call, List.mem_cons_of_mem first inside, same, at_⟩

end Flyweight.Source
