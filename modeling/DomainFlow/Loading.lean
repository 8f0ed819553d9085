import DomainFlow.Codec.Fact
import DomainFlow.Codec.Settings
import DomainFlow.FileAccess
import DomainFlow.Ordered.Set
import DomainFlow.Path

/-!
# Loading

Batches are loaded from files and from directories. In a directory every fact file counts, however
deep it lies, and they are taken in the order of the names that lead to them. Settings are loaded
from a file that is given or found under one of its usual names.

## Main definitions

* `loadBatches`: the batches below a list of paths
* `loadSettings`: the settings of a run
-/

namespace DomainFlow

variable {m : Type → Type} [Monad m] [FileAccess m]

/-- The text of a file. -/
def readFile (path : String) : ExceptT Failure m String := ExceptT.mk do
  match ← FileAccess.readText path with
  | .ok s => pure (.ok s)
  | .error e => pure (.error (.file e))

/-! ## Batches -/

/-- **The batch of a file.** Where the batch does not say where it comes from, the path does. -/
def loadBatch (path : String) : ExceptT Failure m Batch := do
  match Batch.parse? (← readFile path) with
  | some batch => pure (if batch.source = "" then { batch with source := path } else batch)
  | none => throw (.badFacts path)

/-- Whether the last of some names is that of a fact file. -/
def isFactFile (names : List String) : Bool :=
  match names.getLast? with
  | some name => Path.hasExtension "json" name
  | none => false

/-- The fact files below a directory, in the order of the names that lead to them. -/
def factFilesBelow (directory : String) : m (List String) := do
  let files ← FileAccess.filesBelow directory
  pure ((SortedSet.ofList (files.filter isFactFile)).toList.map (Path.joinAll directory))

/-- The files to load for a path: a file itself, and the fact files below a directory. -/
def filesFor (path : String) : m (List String) := do
  match ← FileAccess.kind? path with
  | some .directory => factFilesBelow path
  | some .file => pure [path]
  | _ => pure []

/-- **The batches below a list of paths**, in order. A path that leads nowhere is skipped. -/
def loadBatches (paths : List String) : ExceptT Failure m (List Batch) := do
  let files ← paths.mapM fun path => (filesFor path : m (List String))
  files.flatten.mapM loadBatch

/-! ## Settings -/

/-- The settings of a file. -/
def readSettings (path : String) : ExceptT Failure m Settings := do
  match Settings.parse? (← readFile path) with
  | some settings => pure settings
  | none => throw (.badSettings path)

/-- The names of settings files, in the order in which they are looked for. -/
def settingsFileNames : List String := ["Archflow.toml", "archflow.toml", ".archflow.toml"]

/-- The settings of the first path that leads anywhere; the standard ones if none does. -/
def firstSettings : List String → ExceptT Failure m Settings
  | [] => pure .standard
  | path :: rest => do
    match ← (FileAccess.kind? path : m (Option PathKind)) with
    | some _ => readSettings path
    | none => firstSettings rest

/-- **The settings of a run**, from a given path or from a usual place. -/
def loadSettings (path : Option String) : ExceptT Failure m Settings :=
  firstSettings (match path with
    | some path => [path]
    | none => settingsFileNames)

end DomainFlow
