import DomainFlow.Diagram
import DomainFlow.FileAccess
import DomainFlow.Path

/-!
# Exporting

The documents of a graph and its chains, written to a directory in the formats asked for. Every
document tells the time of its own making.

## Main definitions

* `Document`: one of the documents
* `Format`: a kind of documents
* `Exports`: all that documents are made of
* `Exports.documents`: the documents in some formats
* `Exports.write`: writes the documents
-/

namespace DomainFlow

/-- **A document**: the graph, the chains, or the diagrams of the chains. -/
inductive Document
  | graph
  | chains
  | diagrams
  deriving DecidableEq

/-- **A kind of documents.** -/
inductive Format
  | json
  | mermaid
  deriving DecidableEq

/-- The formats that a name asks for, if it is known. -/
def Format.ofName? : String → Option (List Format)
  | "json" => some [.json]
  | "mermaid" => some [.mermaid]
  | "all" => some [.json, .mermaid]
  | _ => none

/-- **The formats that names ask for**; fails on the first unknown name. -/
def Format.ofNames (names : List String) : Except Failure (List Format) :=
  match names.find? fun name => (ofName? name).isNone with
  | some name => .error (.unsupportedFormat name)
  | none => .ok (names.flatMap fun name => (ofName? name).getD [])

/-- **All that documents are made of.** -/
structure Exports where
  project : String
  metadata : Document → Option Metadata
  store : Store
  chains : List Chain

namespace Exports

/-- The exports of a store under the name of a project, each document made at a time of its own. -/
def ofStore (project : String) (includeMetadata : Bool) (generatedAt : Document → String)
    (store : Store) (chains : List Chain) : Exports where
  project := project
  metadata document :=
    if includeMetadata then some (.ofStore project (generatedAt document) store) else none
  store := store
  chains := chains

/-- The text of the document of the graph. -/
def graphText (exports : Exports) : String := graphDocument (exports.metadata .graph) exports.store

/-- The text of the document of the chains. -/
def chainsText (exports : Exports) : String :=
  chainsDocument (exports.metadata .chains) exports.chains

/-- The text of the document of diagrams. -/
def diagramText (exports : Exports) : String :=
  diagramDocument exports.project (exports.metadata .diagrams) exports.chains

/-- **The documents in some formats**: names and texts, each document once. -/
def documents (exports : Exports) (formats : List Format) : List (String × String) :=
  (if .json ∈ formats then
    [("graph.json", exports.graphText), ("chains.json", exports.chainsText)] else []) ++
  (if .mermaid ∈ formats then [("chains.md", exports.diagramText)] else [])

variable {m : Type → Type} [Monad m] [FileAccess m]

/-- Writes a document to a directory; the result is its path. -/
def writeDocument (directory : String) (document : String × String) :
    ExceptT Failure m String := ExceptT.mk do
  let path := Path.join directory document.1
  match ← FileAccess.writeText path document.2 with
  | .ok () => pure (.ok path)
  | .error e => pure (.error (.file e))

/-- **Writes the documents in the named formats to a directory**, which is made first; the result
is their paths. Nothing is written if a format is unknown. -/
def write (exports : Exports) (directory : String) (formats : List String) :
    ExceptT Failure m (List String) := do
  match ← (FileAccess.createDirectories directory : m (Except FileError Unit)) with
  | .error e => throw (.file e)
  | .ok () => do
    let formats ← (pure (Format.ofNames formats) : ExceptT Failure m _)
    match formats with
    | .error failure => throw failure
    | .ok formats => (exports.documents formats).mapM (writeDocument directory)

end Exports

end DomainFlow
