/- A tree of text files below a working directory.

   A path is a list of names; a lookup walks it name by name, so that each of the
   ways in which it can fail is told apart. Operations keep what they did before
   they failed (`FileTree.Op`). -/

namespace Flyweight

/-- Why a file operation failed. -/
inductive FileError where
  | notFound
  | alreadyExists
  | notADirectory
  | isADirectory
  | nameTooLong
  /-- any other cause, which only files outside of a `FileTree` have -/
  | other (text : String)
  deriving DecidableEq, Repr

/-- The wording of the error. -/
def FileError.message : FileError → String
  | notFound => "No such file or directory (os error 2)"
  | alreadyExists => "File exists (os error 17)"
  | notADirectory => "Not a directory (os error 20)"
  | isADirectory => "Is a directory (os error 21)"
  | nameTooLong => "File name too long (os error 36)"
  | other text => text

/-- The operations on files that the rest of the library needs, wherever the files
are. -/
structure Files (m : Type → Type) where
  read : String → ExceptT FileError m String
  /-- makes a directory and those around it that are missing -/
  ensureDirectory : String → ExceptT FileError m Unit
  /-- writes a file, in place of the one that is there -/
  write : String → String → ExceptT FileError m Unit

/-- What stands at a place of the tree. -/
inductive FileNode where
  | directory
  | file (text : String)
  deriving DecidableEq, Repr

/-- The nodes below the working directory, each with the names that lead to it. -/
structure FileTree where
  nodes : List (List String × FileNode) := []
  deriving Repr

namespace FileTree

/-- A file operation. -/
abbrev Op (α : Type) := ExceptT FileError (StateM FileTree) α

/-- Cuts characters at every slash. -/
def splitSlashes : List Char → List (List Char)
  | [] => [[]]
  | '/' :: rest => [] :: splitSlashes rest
  | c :: rest =>
    match splitSlashes rest with
    | [] => [[c]]
    | name :: others => (c :: name) :: others

/-- The names of a path; that of a path from the root of all files starts with a
slash of its own. -/
def components (path : String) : List String :=
  let names := ((splitSlashes path.toList).filter (· ≠ [])).map String.ofList
  if path.toList.head? = some '/' then "/" :: names else names

/-- A path below a directory. -/
def join (directory name : String) : String :=
  match directory.toList.getLast? with
  | none => name
  | some '/' => directory ++ name
  | some _ => directory ++ "/" ++ name

/-- The last name of a path, if it is a proper name. -/
def fileName? (path : String) : Option String :=
  match ((components path).filter (· ≠ ".")).getLast? with
  | some name => if name = ".." ∨ name = "/" then none else some name
  | none => none

/-- What follows the last dot of a file's name; a dot that starts the name does
not count. -/
def extension? (path : String) : Option String := do
  let name ← fileName? path
  let reversed := name.toList.reverse
  let after := reversed.takeWhile (· ≠ '.')
  let before := (reversed.drop after.length).drop 1
  if before.isEmpty then none else some (String.ofList after.reverse)

/-- What stands at a place; the working directory itself always is one. -/
def node? (t : FileTree) (place : List String) : Option FileNode :=
  if place.isEmpty then some .directory else t.nodes.lookup place

/-- The tree with a node put at a place. -/
def put (t : FileTree) (place : List String) (node : FileNode) : FileTree :=
  if t.nodes.any (·.1 = place) then
    ⟨t.nodes.map fun entry => if entry.1 = place then (place, node) else entry⟩
  else ⟨t.nodes ++ [(place, node)]⟩

/-- The greatest length of a name in bytes. -/
def longestName : Nat := 255

/-- The place that names lead to from the directory `here`. All but the last have
to lead to directories; nothing is known outside the working directory. -/
def walk (t : FileTree) (here : List String) : List String → Except FileError (List String)
  | [] => .ok here
  | name :: rest =>
    match t.node? here with
    | none => .error .notFound
    | some (.file _) => .error .notADirectory
    | some .directory =>
      if name = "." then t.walk here rest
      else if name = ".." then
        if here.isEmpty then .error .notFound else t.walk here.dropLast rest
      else if name = "/" then .error .notFound
      else if longestName < name.utf8ByteSize then .error .nameTooLong
      else t.walk (here ++ [name]) rest

/-- The names of a path that is to be opened: a slash at its end asks for a
directory. -/
def openedComponents (path : String) : List String :=
  if path.toList.getLast? = some '/' then components path ++ ["."] else components path

/-- The text of a file. -/
def read (t : FileTree) (path : String) : Except FileError String := do
  if path.isEmpty then throw .notFound
  let place ← t.walk [] (openedComponents path)
  match t.node? place with
  | none => .error .notFound
  | some .directory => .error .isADirectory
  | some (.file text) => .ok text

/-- Writes a file, in place of the one that is there. -/
def write (path text : String) : Op Unit := do
  let t ← get
  let place ← t.walk [] (openedComponents path)
  match t.node? place with
  | some .directory => throw .isADirectory
  | _ => set (t.put place (.file text))

/-- Makes one directory. -/
def makeDirectory (names : List String) : Op Unit := do
  let t ← get
  let place ← t.walk [] names
  match t.node? place with
  | some _ => throw .alreadyExists
  | none => set (t.put place .directory)

/-- Whether the names lead to a directory. -/
def isDirectory (t : FileTree) (names : List String) : Bool :=
  match t.walk [] names with
  | .ok place => t.node? place == some .directory
  | .error _ => false

/-- The names without the last proper one. -/
def parent (names : List String) : List String :=
  (names.reverse.dropWhile (· = ".")).drop 1 |>.dropWhile (· = ".") |>.reverse

theorem length_parent_lt {names : List String} (h : names ≠ []) :
    (parent names).length < names.length := by
  have drops : ∀ (l : List String), (l.dropWhile (· = ".")).length ≤ l.length := fun l =>
    (List.dropWhile_sublist _).length_le
  have hpos := List.length_pos_iff.mpr h
  have h1 := drops names.reverse
  have h2 := drops ((names.reverse.dropWhile (· = ".")).drop 1)
  simp only [parent, List.length_reverse, List.length_drop] at h1 h2 ⊢
  omega

/-- Makes a directory unless it is there. -/
def ensureDirectory (names : List String) : Op Unit :=
  tryCatch (makeDirectory names) fun e => do
    if e = .alreadyExists ∧ (← get).isDirectory names then return () else throw e

/-- Makes a directory and those around it that are missing. -/
def ensureDirectories (names : List String) : Op Unit :=
  if _nonempty : names = [] then return ()
  else
    tryCatch (ensureDirectory names) fun e => do
      if e = .notFound then
        ensureDirectories (parent names)
        ensureDirectory names
      else throw e
termination_by names.length
decreasing_by exact length_parent_lt ‹_›

/-- The files of a tree. -/
def storage : Files (StateM FileTree) where
  read path := do
    match (← get).read path with
    | .ok text => return text
    | .error e => throw e
  ensureDirectory path := ensureDirectories (components path)
  write := write

/-- A tree of the given files, with the directories around them. -/
def ofFiles (files : List (String × String)) : FileTree :=
  files.foldl
    (fun t file =>
      let names := components file.1
      let (_, t) := (ensureDirectories names.dropLast).run t
      t.put names (.file file.2))
    {}

/-- The files of the tree with their paths. -/
def files (t : FileTree) : List (String × String) :=
  t.nodes.filterMap fun (place, node) =>
    match node with
    | .file text => some ("/".intercalate place, text)
    | .directory => none

end FileTree

end Flyweight
