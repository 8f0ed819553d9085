import DomainFlow.FileAccess
import DomainFlow.Ordered.Set
import DomainFlow.Path

/-!
# File trees

A model of a file system with a working directory: what each place holds, a place being given by
the names that lead to it from the root. A path is followed piece by piece, from the root if it is
absolute and from the working directory otherwise, and every piece but the last has to lead to a
directory.

## Main definitions

* `FileTree`: what places hold, with a directory to start from
* `FileTree.locate`: the place that a path means
* `FileTree.read`, `FileTree.write`, `FileTree.createDirectory`, `FileTree.filesBelow`
* `FileAccess (StateM FileTree)`: programs run on a file tree
-/

namespace DomainFlow

/-- What a file holds. -/
inductive Content
  | text (s : String)
  /-- Bytes that are no text. -/
  | binary
  deriving DecidableEq

/-- What a place holds. -/
inductive TreeEntry
  | directory
  | file (content : Content)
  deriving DecidableEq

/-- **A file tree**: what places hold, and the place that relative paths start from. The root is the
place without names. -/
structure FileTree where
  entries : SortedMap (List String) TreeEntry
  workingDirectory : List String
  isDirectory : workingDirectory = [] ∨ entries.get? workingDirectory = some .directory
  deriving DecidableEq

namespace FileTree

/-- The tree without files, with the root as working directory. -/
def empty : FileTree := ⟨∅, [], .inl rfl⟩

instance : EmptyCollection FileTree := ⟨empty⟩

instance : Inhabited FileTree := ⟨empty⟩

/-! ## Places -/

/-- What a place holds. -/
def entry? (tree : FileTree) : List String → Option TreeEntry
  | [] => some .directory
  | place => tree.entries.get? place

theorem entry?_eq_get? (tree : FileTree) {place : List String} (h : place ≠ []) :
    tree.entry? place = tree.entries.get? place := by
  cases place with
  | nil => exact absurd rfl h
  | cons name names => rfl

/-- The working directory is there. -/
theorem entry?_workingDirectory (tree : FileTree) :
    tree.entry? tree.workingDirectory = some .directory := by
  rcases tree.isDirectory with hroot | hstored
  · rw [hroot]
    rfl
  · unfold entry?
    split
    · rfl
    · exact hstored

/-- The place that one more piece of a path leads to. -/
def step (tree : FileTree) (place : List String) (piece : String) :
    Except FileError (List String) :=
  match tree.entry? place with
  | some .directory =>
    .ok (if piece = "" ∨ piece = "." then place
      else if piece = ".." then place.dropLast
      else place ++ [piece])
  | some (.file _) => .error .notADirectory
  | none => .error .notFound

/-- The place that a path starts from. -/
def start (tree : FileTree) (path : String) : List String :=
  if Path.isAbsolute path then [] else tree.workingDirectory

/-- The place that the pieces of a path lead to. -/
def follow (tree : FileTree) (start pieces : List String) : Except FileError (List String) :=
  pieces.foldlM tree.step start

/-- **The place that a path means**, whether it holds anything or not. The empty path means none. -/
def locate (tree : FileTree) (path : String) : Except FileError (List String) :=
  if path = "" then .error .notFound else tree.follow (tree.start path) (Path.pieces path)

/-- What a path leads to. -/
def find? (tree : FileTree) (path : String) : Option TreeEntry :=
  match tree.locate path with
  | .ok place => tree.entry? place
  | .error _ => none

/-- The kind of what a path leads to. -/
def kind? (tree : FileTree) (path : String) : Option PathKind :=
  (tree.find? path).map fun
    | .directory => .directory
    | .file _ => .file

/-! ## Files -/

/-- **The text of a file.** -/
def read (tree : FileTree) (path : String) : Except FileError String := do
  match tree.entry? (← tree.locate path) with
  | some (.file (.text s)) => .ok s
  | some (.file .binary) => .error .notText
  | some .directory => .error .isADirectory
  | none => .error .notFound

/-- The tree in which a place holds something else. A directory stays what it is. -/
def put (tree : FileTree) (place : List String) (entry : TreeEntry) : FileTree :=
  if h : tree.entry? place = some .directory then tree
  else {
    entries := tree.entries.insert place entry
    workingDirectory := tree.workingDirectory
    isDirectory := tree.isDirectory.imp_right fun hstored => by
      have hne : tree.workingDirectory ≠ place := fun heq => h (heq ▸ tree.entry?_workingDirectory)
      rw [SortedMap.get?_insert, if_neg hne, hstored] }

/-- **Writes a file.** -/
def write (tree : FileTree) (path text : String) : Except FileError FileTree := do
  let place ← tree.locate path
  match tree.entry? place with
  | some .directory => .error .isADirectory
  | _ => .ok (tree.put place (.file (.text text)))

/-- **The files below a directory**, by the names that lead to them. -/
def filesBelow (tree : FileTree) (path : String) : List (List String) :=
  match tree.locate path with
  | .error _ => []
  | .ok place =>
    tree.entries.entries.filterMap fun
      | (_, .directory) => none
      | (other, .file _) =>
        if place.isPrefixOf other ∧ place ≠ other then some (other.drop place.length) else none

/-- **Makes a directory** in one that is there. Slashes at the end of its path do not matter. -/
def createDirectory (tree : FileTree) (path : String) : Except FileError FileTree := do
  if path = "" then .error .notFound
  else
    let place ← tree.follow (tree.start path) (Path.piecesUntilEnd path)
    match tree.entry? place with
    | some _ => .error .alreadyExists
    | none => .ok (tree.put place .directory)

/-! ## Programs on a tree -/

/-- Puts a change to the tree into effect, if it succeeds. -/
def update (change : FileTree → Except FileError FileTree) :
    StateM FileTree (Except FileError Unit) := fun tree =>
  match change tree with
  | .ok tree => (.ok (), tree)
  | .error e => (.error e, tree)

instance : FileAccess (StateM FileTree) where
  kind? path := fun tree => (tree.kind? path, tree)
  readText path := fun tree => (tree.read path, tree)
  writeText path text := update (·.write path text)
  createDirectory path := update (·.createDirectory path)
  filesBelow path := fun tree => (tree.filesBelow path, tree)

end FileTree

end DomainFlow
