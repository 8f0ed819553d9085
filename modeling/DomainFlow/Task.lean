import DomainFlow.Build
import DomainFlow.Export

/-!
# Tasks

What a run can be asked for, under given settings.

## Main definitions

* `Task.analyze`: writes the documents of the graph and its chains
* `Task.chains`: the chains of the graph
* `Task.create`: writes a settings file
-/

namespace DomainFlow

namespace Task

variable {m : Type → Type} [Monad m] [FileAccess m]

/-- **Builds the graph and writes its documents**; the result is their paths. Directory and format
may replace those of the settings. -/
def analyze (settings : Settings) (generatedAt : Document → String) (paths : List String)
    (directory format : Option String) : ExceptT Failure m (List String) := do
  let built ← build settings paths
  let exports := Exports.ofStore settings.project.name settings.output.includeMetadata generatedAt
    built.store built.store.traceAll
  exports.write (directory.getD settings.project.outputPath)
    ((format.map fun format => [format]).getD settings.output.formats)

/-- **The chains of the graph**, or the one from a given node. -/
def chains (settings : Settings) (paths : List String) (start : Option String) :
    ExceptT Failure m (List Chain) := do
  let built ← build settings paths
  match start with
  | none => pure built.store.traceAll
  | some start =>
    match built.store.traceFrom? start with
    | some chain => pure [chain]
    | none => throw (.unknownEntryPoint start)

/-- The name of a new settings file. -/
def newSettingsName : String := "archflow.toml"

/-- **Writes a file with the standard settings**, unless it exists; the result is its path. Where
no directory is given, the file goes to the working directory and is shown below `here`. -/
def create (here : String) (directory : Option String) : ExceptT Failure m String := do
  match ← (FileAccess.createDirectories (directory.getD "") : m (Except FileError Unit)) with
  | .error e => throw (.directory e)
  | .ok () => do
    let path := Path.join (directory.getD "") newSettingsName
    let shown := Path.join (directory.getD here) newSettingsName
    match ← (FileAccess.kind? path : m (Option PathKind)) with
    | some _ => pure shown
    | none => do
      match ← (FileAccess.writeText path Settings.standard.render : m (Except FileError Unit)) with
      | .ok () => pure shown
      | .error e => throw (.file e)

end Task

end DomainFlow
