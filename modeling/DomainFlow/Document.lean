import DomainFlow.Codec.Chain
import DomainFlow.Codec.Graph

/-!
# Exported documents

The graph and the chains as indented JSON documents. Where metadata is wanted, a document opens
with the project, the time of its making and the fingerprint of the store.

## Main definitions

* `Metadata`
* `graphDocument`, `chainsDocument`
-/

namespace DomainFlow

/-- **Where a document comes from.** -/
structure Metadata where
  project : String
  generatedAt : String
  fingerprint : String
  deriving DecidableEq

/-- The JSON form of metadata. -/
def Metadata.toJson (metadata : Metadata) : Json :=
  .object [
    ("project", .text metadata.project),
    ("generated_at", .text metadata.generatedAt),
    ("fingerprint", .text metadata.fingerprint)]

/-- The metadata of the documents of a store. -/
def Metadata.ofStore (project generatedAt : String) (store : Store) : Metadata :=
  ⟨project, generatedAt, store.fingerprint⟩

/-- The JSON form of the document of a graph. -/
def graphDocumentJson (metadata : Option Metadata) (store : Store) : Json :=
  .object [
    ("metadata", .ofOption Metadata.toJson metadata),
    ("stats", store.statistics.toJson),
    ("nodes", .ofList Node.toJson store.nodes.values),
    ("relationships", store.relationshipsJson),
    ("ownership", store.ownershipJson)]

/-- **The document of a graph.** -/
def graphDocument (metadata : Option Metadata) (store : Store) : String :=
  (graphDocumentJson metadata store).toIndented

/-- The JSON form of the document of chains. -/
def chainsDocumentJson (metadata : Option Metadata) (chains : List Chain) : Json :=
  .object [
    ("metadata", .ofOption Metadata.toJson metadata),
    ("chains", .ofList Chain.toJson chains)]

/-- **The document of chains.** -/
def chainsDocument (metadata : Option Metadata) (chains : List Chain) : String :=
  (chainsDocumentJson metadata chains).toIndented

end DomainFlow
