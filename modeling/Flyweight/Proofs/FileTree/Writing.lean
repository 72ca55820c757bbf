import Flyweight.Proofs.Command.Outcome
import Flyweight.FileTree

/- Files that are written and read back.

   Operations only ever add directories and put text into files, so a path that has led to
   a place goes on leading there (`walk_of_extends`), and what a file holds is what was
   written into it last. This file

   1. says what a tree holds after a node is put into it (`node?_put`);
   2. proves that making directories adds directories and changes no file
      (`adds_ensureDirectories`);
   3. says which place a file below a directory is written to (`write_joined`), and that
      the text at that place is what is read from the path (`read_joined`). -/

namespace Flyweight

/-! ## Replacing an entry -/

section Entries
variable {κ β : Type} [DecidableEq κ]

theorem lookup_entry [BEq κ] [LawfulBEq κ] (key other : κ) (value : β) (rest : List (κ × β)) :
    ((key, value) :: rest).lookup other = if other = key then some value else rest.lookup other := by
  rw [List.lookup_cons]
  by_cases same : other = key
  · rw [beq_iff_eq.mpr same, if_pos same]
  · rw [beq_eq_false_iff_ne.mpr same, if_neg same]

theorem lookup_map_other [BEq κ] [LawfulBEq κ] {l : List (κ × β)} {key other : κ} {value : β}
    (differs : other ≠ key) :
    (l.map fun e => if e.1 = key then (key, value) else e).lookup other = l.lookup other := by
  induction l with
  | nil => rfl
  | cons e rest ih =>
    obtain ⟨k, v⟩ := e
    rw [List.map_cons, lookup_entry]
    by_cases here : k = key
    · rw [if_pos here, lookup_entry, ih, here, if_neg differs, if_neg differs]
    · rw [if_neg here, lookup_entry, ih]

theorem lookup_map_self [BEq κ] [LawfulBEq κ] {l : List (κ × β)} {key : κ} {value : β}
    (there : key ∈ l.map (·.1)) :
    (l.map fun e => if e.1 = key then (key, value) else e).lookup key = some value := by
  induction l with
  | nil => cases there
  | cons e rest ih =>
    obtain ⟨k, v⟩ := e
    rw [List.map_cons]
    by_cases here : k = key
    · rw [if_pos here, lookup_entry, if_pos rfl]
    · rw [if_neg here, lookup_entry, if_neg (Ne.symm here)]
      apply ih
      rcases List.mem_cons.mp there with first | behind
      · exact absurd first.symm here
      · exact behind

/-- The entry of a key is the new one; the others are as before. -/
theorem lookup_replace [BEq κ] [LawfulBEq κ] (l : List (κ × β)) (key other : κ) (value : β) :
    (if l.any (·.1 = key) then l.map fun e => if e.1 = key then (key, value) else e
      else l ++ [(key, value)]).lookup other =
      if other = key then some value else l.lookup other := by
  have there : l.any (·.1 = key) = true ↔ key ∈ l.map (·.1) := by
    simp [List.any_eq_true]
  by_cases mem : key ∈ l.map (·.1)
  · rw [if_pos (there.mpr mem)]
    by_cases same : other = key
    · rw [same, lookup_map_self mem, if_pos rfl]
    · rw [lookup_map_other same, if_neg same]
  · rw [if_neg (fun h => mem (there.mp h)), List.lookup_append, lookup_entry]
    by_cases same : other = key
    · have absent : l.lookup key = none := by
        rw [List.lookup_eq_none_iff]
        intro e inside
        rw [bne_iff_ne]
        intro equal
        exact mem (List.mem_map.mpr ⟨e, inside, equal.symm⟩)
      simp [same, absent]
    · simp [same]

theorem keys_replace (l : List (κ × β)) (key : κ) (value : β) :
    (if l.any (·.1 = key) then l.map fun e => if e.1 = key then (key, value) else e
      else l ++ [(key, value)]).map (·.1) =
      if key ∈ l.map (·.1) then l.map (·.1) else l.map (·.1) ++ [key] := by
  have there : l.any (·.1 = key) = true ↔ key ∈ l.map (·.1) := by
    simp [List.any_eq_true]
  by_cases mem : key ∈ l.map (·.1)
  · rw [if_pos (there.mpr mem), if_pos mem, List.map_map]
    apply List.map_congr_left
    intro e _
    by_cases same : e.1 = key
    · simp [same]
    · simp [same]
  · rw [if_neg (fun h => mem (there.mp h)), if_neg mem, List.map_append]
    rfl

end Entries

namespace FileTree

open Command

/-! ## Nodes -/

theorem node?_put (t : FileTree) {place : List String} (proper : place ≠ []) (node : FileNode)
    (other : List String) :
    (t.put place node).node? other = if other = place then some node else t.node? other := by
  by_cases root : other = []
  · subst root
    rw [if_neg (Ne.symm proper)]
    rfl
  · have entries : (t.put place node).nodes =
        if t.nodes.any (·.1 = place) then
          t.nodes.map fun e => if e.1 = place then (place, node) else e
        else t.nodes ++ [(place, node)] := by
      unfold put
      split <;> rfl
    have below : other.isEmpty = false := by
      cases other with
      | nil => exact absurd rfl root
      | cons _ _ => rfl
    simp only [node?, below, entries, lookup_replace, Bool.false_eq_true, if_false]

/-- Later in the life of a tree: directories are still there. -/
def Extends (t t' : FileTree) : Prop :=
  ∀ place, t.node? place = some .directory → t'.node? place = some .directory

theorem Extends.refl (t : FileTree) : Extends t t := fun _ there => there

theorem Extends.trans {t t' t'' : FileTree} (h : Extends t t') (h' : Extends t' t'') :
    Extends t t'' := fun place there => h' place (h place there)

/-- What is no directory may be replaced. -/
theorem extends_put {t : FileTree} {place : List String} {node : FileNode} (proper : place ≠ [])
    (other : t.node? place ≠ some .directory) : Extends t (t.put place node) := by
  intro place' there
  rw [node?_put t proper]
  by_cases same : place' = place
  · subst same
    exact absurd there other
  · rw [if_neg same, there]

/-! ## Places -/

theorem walk_append (t : FileTree) (here : List String) (front back : List String) :
    t.walk here (front ++ back) = t.walk here front >>= fun place => t.walk place back := by
  induction front generalizing here with
  | nil => rfl
  | cons name rest ih =>
    simp only [List.cons_append, walk]
    split
    · rfl
    · rfl
    · split
      · exact ih here
      · split
        · split
          · rfl
          · exact ih here.dropLast
        · split
          · rfl
          · split
            · rfl
            · exact ih (here ++ [name])

/-- Names that lead to a place go on leading there. -/
theorem walk_of_extends {t t' : FileTree} (later : Extends t t') {here names place : List String}
    (h : t.walk here names = .ok place) : t'.walk here names = .ok place := by
  induction names generalizing here with
  | nil => exact h
  | cons name rest ih =>
    simp only [walk] at h ⊢
    split at h
    · cases h
    · cases h
    · rename_i directory
      rw [later here directory]
      simp only
      by_cases dot : name = "."
      · rw [if_pos dot] at h ⊢
        exact ih h
      · rw [if_neg dot] at h ⊢
        by_cases dots : name = ".."
        · rw [if_pos dots] at h ⊢
          by_cases root : here.isEmpty = true
          · rw [if_pos root] at h
            cases h
          · rw [if_neg root] at h ⊢
            exact ih h
        · rw [if_neg dots] at h ⊢
          by_cases slash : name = "/"
          · rw [if_pos slash] at h
            cases h
          · rw [if_neg slash] at h ⊢
            by_cases long : longestName < name.utf8ByteSize
            · rw [if_pos long] at h
              cases h
            · rw [if_neg long] at h ⊢
              exact ih h

/-- A proper name: one that is there, and does not mean a place by itself. -/
structure Proper (name : String) : Prop where
  named : name ≠ ""
  here : name ≠ "."
  above : name ≠ ".."
  root : name ≠ "/"

theorem walk_single {t : FileTree} {here place : List String} {name : String}
    (proper : Proper name) :
    t.walk here [name] = .ok place ↔ t.node? here = some .directory ∧
      name.utf8ByteSize ≤ longestName ∧ place = here ++ [name] := by
  simp only [walk, if_neg proper.here, if_neg proper.above, if_neg proper.root]
  split
  · rename_i missing
    simp [missing]
  · rename_i text file
    simp [file]
  · rename_i directory
    by_cases long : longestName < name.utf8ByteSize
    · simp only [directory, if_pos long, reduceCtorEq, true_and, false_iff]
      omega
    · rw [if_neg long]
      constructor
      · intro h
        exact ⟨directory, by omega, (Except.ok.inj h).symm⟩
      · intro given
        rw [given.2.2]

/-! ## Making directories -/

/-- Directories are added, and every file is as it was. -/
structure Adds (t t' : FileTree) : Prop where
  later : Extends t t'
  files : ∀ place text, t'.node? place = some (.file text) ↔ t.node? place = some (.file text)

theorem Adds.refl (t : FileTree) : Adds t t := ⟨.refl t, fun _ _ => Iff.rfl⟩

theorem Adds.trans {t t' t'' : FileTree} (h : Adds t t') (h' : Adds t' t'') : Adds t t'' :=
  ⟨h.later.trans h'.later, fun place text => (h'.files place text).trans (h.files place text)⟩

theorem adds_makeDirectory (names : List String) (t : FileTree) :
    Adds t (outcome (makeDirectory names) t).2 := by
  rw [makeDirectory, outcome_bind, outcome_get]
  simp only [outcome_bind, outcome_lift]
  cases t.walk [] names with
  | error e => exact .refl t
  | ok place =>
    simp only
    cases at_ : t.node? place with
    | some node => exact .refl t
    | none =>
      simp only [outcome_set]
      have proper : place ≠ [] := by
        rintro rfl
        cases at_
      refine ⟨extends_put proper (by simp [at_]), ?_⟩
      intro other text
      rw [node?_put t proper]
      by_cases same : other = place
      · subst same
        simp [at_]
      · rw [if_neg same]

theorem adds_ensureDirectory (names : List String) (t : FileTree) :
    Adds t (outcome (ensureDirectory names) t).2 := by
  rw [ensureDirectory, outcome_tryCatch]
  have made := adds_makeDirectory names t
  generalize outcome (makeDirectory names) t = result at made ⊢
  obtain ⟨e | _, t'⟩ := result
  · simp only [outcome_bind, outcome_get]
    split
    · exact made
    · exact made
  · exact made

theorem adds_ensureDirectories (names : List String) (t : FileTree) :
    Adds t (outcome (ensureDirectories names) t).2 := by
  induction size : names.length using Nat.strongRecOn generalizing names t with
  | ind length ih =>
    rw [ensureDirectories]
    split
    · exact .refl t
    · rename_i nonempty
      rw [outcome_tryCatch]
      have made := adds_ensureDirectory names t
      generalize outcome (ensureDirectory names) t = result at made ⊢
      obtain ⟨e | _, t'⟩ := result
      · -- The directories around the last one are made before it is tried once more.
        simp only at made ⊢
        split
        · rw [outcome_bind]
          have around := ih _ (size ▸ length_parent_lt nonempty) (parent names) t' rfl
          generalize outcome (ensureDirectories (parent names)) t' = result at around ⊢
          obtain ⟨e' | _, t''⟩ := result
          · exact made.trans around
          · exact (made.trans around).trans (adds_ensureDirectory names t'')
        · exact made
      · exact made

/-! ## Paths -/

theorem splitSlashes_ne_nil (text : List Char) : splitSlashes text ≠ [] := by
  cases text with
  | nil => simp [splitSlashes]
  | cons c rest =>
    unfold splitSlashes
    split
    · simp
    · simp
    · split <;> simp

theorem splitSlashes_cons {c : Char} (other : c ≠ '/') (rest : List Char) :
    ∃ name others, splitSlashes rest = name :: others ∧
      splitSlashes (c :: rest) = (c :: name) :: others := by
  obtain ⟨name, others, cut⟩ := List.exists_cons_of_ne_nil (splitSlashes_ne_nil rest)
  refine ⟨name, others, cut, ?_⟩
  rw [splitSlashes.eq_def]
  simp [cut]

theorem splitSlashes_append (front back : List Char) :
    splitSlashes (front ++ '/' :: back) = splitSlashes front ++ splitSlashes back := by
  induction front with
  | nil => rfl
  | cons c rest ih =>
    by_cases slash : c = '/'
    · subst slash
      show [] :: splitSlashes (rest ++ '/' :: back) = [] :: splitSlashes rest ++ splitSlashes back
      rw [ih]
      rfl
    · obtain ⟨name, others, cut, whole⟩ := splitSlashes_cons slash rest
      obtain ⟨name', others', cut', whole'⟩ := splitSlashes_cons slash (rest ++ '/' :: back)
      rw [ih, cut, List.cons_append] at cut'
      obtain ⟨rfl, rfl⟩ := List.cons.inj cut'
      rw [List.cons_append, whole, whole']
      rfl

theorem splitSlashes_single {name : List Char} (whole : '/' ∉ name) :
    splitSlashes name = [name] := by
  induction name with
  | nil => rfl
  | cons c rest ih =>
    rw [List.mem_cons, not_or] at whole
    obtain ⟨name, others, cut, first⟩ := splitSlashes_cons (Ne.symm whole.1) rest
    rw [ih whole.2] at cut
    obtain ⟨rfl, rfl⟩ := List.cons.inj cut
    exact first

/-- The names of a path that is cut at one of its slashes. -/
theorem components_cut {path file : String} {front : List Char}
    (shape : path.toList = front ++ '/' :: file.toList) (whole : '/' ∉ file.toList)
    (named : file ≠ "") (directory : String)
    (same : (splitSlashes directory.toList).filter (· ≠ []) =
      (splitSlashes front).filter (· ≠ []))
    (start : directory.toList.head? = path.toList.head?) :
    components path = components directory ++ [file] := by
  have proper : file.toList ≠ [] := by
    simpa using named
  have names : (splitSlashes path.toList).filter (· ≠ []) =
      (splitSlashes directory.toList).filter (· ≠ []) ++ [file.toList] := by
    rw [shape, splitSlashes_append, splitSlashes_single whole, List.filter_append, same]
    simp [proper]
  simp only [components, names, start, List.map_append, List.map_cons, List.map_nil,
    String.ofList_toList]
  split <;> rfl

/-- The path of a file in a directory has the names of the directory's path and the file's. -/
theorem components_join {directory file : String} (whole : '/' ∉ file.toList)
    (named : file ≠ "") : components (join directory file) = components directory ++ [file] := by
  have proper : file.toList ≠ [] := by
    simpa using named
  unfold join
  split
  · rename_i empty
    have nothing : directory.toList = [] := List.getLast?_eq_none_iff.mp empty
    have start : file.toList.head? ≠ some '/' := by
      intro slash
      exact whole (List.mem_of_mem_head? slash)
    simp [components, nothing, splitSlashes, splitSlashes_single whole, proper, start]
  · rename_i slash
    obtain ⟨front, shape⟩ := List.getLast?_eq_some_iff.mp slash
    have joined : (directory ++ file).toList = front ++ '/' :: file.toList := by
      rw [String.toList_append, shape, List.append_assoc, List.singleton_append]
    refine components_cut joined whole named directory ?_ ?_
    · rw [shape, splitSlashes_append, List.filter_append]
      simp [splitSlashes]
    · rw [joined, shape]
      cases front <;> rfl
  · rename_i last other
    have joined : (directory ++ "/" ++ file).toList = directory.toList ++ '/' :: file.toList := by
      rw [String.toList_append, String.toList_append, List.append_assoc]
      rfl
    refine components_cut joined whole named directory rfl ?_
    rw [joined]
    cases shape : directory.toList with
    | nil =>
      rw [shape] at other
      cases other
    | cons _ _ => rfl

theorem toList_join (directory file : String) :
    ∃ front, (join directory file).toList = front ++ file.toList := by
  unfold join
  split
  · exact ⟨[], rfl⟩
  · exact ⟨directory.toList, String.toList_append⟩
  · exact ⟨(directory ++ "/").toList, String.toList_append⟩

/-- A path that ends with a file's name does not ask for a directory. -/
theorem openedComponents_join {directory file : String} (whole : '/' ∉ file.toList)
    (named : file ≠ "") :
    openedComponents (join directory file) = components directory ++ [file] := by
  have proper : file.toList ≠ [] := by
    simpa using named
  obtain ⟨front, shape⟩ := toList_join directory file
  have ends : (join directory file).toList.getLast? ≠ some '/' := by
    rw [shape, List.getLast?_append, List.getLast?_eq_some_getLast proper, Option.some_or]
    intro slash
    rw [← Option.some.inj slash] at whole
    exact whole (List.getLast_mem proper)
  rw [openedComponents, if_neg ends, components_join whole named]

theorem join_ne_empty {directory file : String} (named : file ≠ "") :
    join directory file ≠ "" := by
  have proper : file.toList ≠ [] := by
    simpa using named
  obtain ⟨front, shape⟩ := toList_join directory file
  intro empty
  rw [empty] at shape
  exact proper (List.append_eq_nil_iff.mp shape.symm).2

/-! ## Writing and reading -/

theorem write_ok {path text : String} {t t' : FileTree}
    (h : outcome (write path text) t = (.ok (), t')) :
    ∃ place, t.walk [] (openedComponents path) = .ok place ∧ place ≠ [] ∧
      t.node? place ≠ some .directory ∧ t' = t.put place (.file text) := by
  rw [write, outcome_bind, outcome_get] at h
  simp only [outcome_bind, outcome_lift] at h
  cases leads : t.walk [] (openedComponents path) with
  | error e =>
    rw [leads] at h
    cases h
  | ok place =>
    rw [leads] at h
    simp only at h
    split at h
    · cases h
    · rename_i other
      have directory : t.node? place ≠ some .directory := other
      refine ⟨place, rfl, ?_, directory, ?_⟩
      · rintro rfl
        exact directory rfl
      · cases h
        rfl

theorem read_ok {path text : String} {t : FileTree} {place : List String} (named : path ≠ "")
    (leads : t.walk [] (openedComponents path) = .ok place)
    (holds : t.node? place = some (.file text)) : t.read path = .ok text := by
  have nonempty : path.isEmpty = false := by
    simpa using named
  simp only [read, nonempty, leads, bind, Except.bind, holds]
  rfl

section Joined
variable {directory file : String} (whole : '/' ∉ file.toList) (proper : Proper file)
include whole proper

/-- A file that is written in a directory: the directory is there, and the text stands at the
file's place in it. -/
theorem write_joined {text : String} {t t' : FileTree}
    (h : outcome (write (join directory file) text) t = (.ok (), t')) :
    ∃ here, t.walk [] (components directory) = .ok here ∧ t.node? here = some .directory ∧
      file.utf8ByteSize ≤ longestName ∧ t.node? (here ++ [file]) ≠ some .directory ∧
      t' = t.put (here ++ [file]) (.file text) := by
  obtain ⟨place, leads, _, other, rfl⟩ := write_ok h
  rw [openedComponents_join whole proper.named, walk_append] at leads
  cases inside : t.walk [] (components directory) with
  | error e =>
    rw [inside] at leads
    cases leads
  | ok here =>
    rw [inside] at leads
    obtain ⟨stands, short, rfl⟩ := (walk_single proper).mp leads
    exact ⟨here, rfl, stands, short, other, rfl⟩

/-- The text at a file's place in a directory is read from the path of the file. -/
theorem read_joined {text : String} {t : FileTree} {here : List String}
    (inside : t.walk [] (components directory) = .ok here)
    (stands : t.node? here = some .directory) (short : file.utf8ByteSize ≤ longestName)
    (holds : t.node? (here ++ [file]) = some (.file text)) :
    t.read (join directory file) = .ok text := by
  refine read_ok (join_ne_empty proper.named) ?_ holds
  rw [openedComponents_join whole proper.named, walk_append, inside]
  exact (walk_single proper).mpr ⟨stands, short, rfl⟩

end Joined

end FileTree

end Flyweight
