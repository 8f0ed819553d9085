import DomainFlow.Codec.Fact
import DomainFlow.Sha256
import DomainFlow.Store

/-!
# The JSON forms of the graph

Nodes, relationships, ownership, contributions and stores as JSON. A relationship is written flat,
with the type and the method of each endpoint as fields of their own, and an owned entity stands with
its owner and the tier that settled it, as a pair. A store is known by a hash of its graph: the
compact JSON of its nodes, relationships and owners. Which batches were merged and which nodes are
derived does not enter.

## Main definitions

* `Node.toJson`, `Relationship.toJson`, `Ownership.toJson`, `Store.toJson`, `Store.Statistics.toJson`
* `Node.ofJson?`, `Relationship.ofJson?`, `Ownership.ofJson?`, `Delta.ofJson?`, `Store.ofJson?`
* `Store.content`: the text that stands for a store
* `Store.fingerprint`: its hash
-/

namespace DomainFlow

/-! ## Maps -/

/-- The JSON form of a map with text keys. -/
def SortedMap.toJson {β : Type} (f : β → Json) (m : SortedMap String β) : Json :=
  .object (m.entries.map fun (key, value) => (key, f value))

/-- The map of a JSON object; the last value of a key counts. -/
def SortedMap.ofJson? {β : Type} (f : Json → Option β) (j : Json) : Option (SortedMap String β) :=
  (j.entries? f).map .ofLast

/-! ## Nodes and relationships -/

/-- The JSON form of a node. -/
def Node.toJson (node : Node) : Json :=
  .object [("id", .text node.id), ("name", .text node.name), ("kind", .text node.kind.name)]

/-- The node of a JSON form. -/
def Node.ofJson? (j : Json) : Option Node := do
  let [id, name, kind] ← j.fields? ["id", "name", "kind"] 3 | none
  some {
    id := ← Json.required Json.text? id
    name := ← Json.required Json.text? name
    kind := ← Json.required (fun j => j.name?.bind NodeKind.ofName?) kind }

/-- The JSON form of a relationship. -/
def Relationship.toJson (r : Relationship) : Json :=
  .object [
    ("from_id", .text r.source.typeId),
    ("from_method", .text r.source.method),
    ("to_id", .text r.target.typeId),
    ("to_method", .text r.target.method),
    ("kind", .text r.kind.name)]

/-- The relationship of a JSON form. -/
def Relationship.ofJson? (j : Json) : Option Relationship := do
  let [sourceType, sourceMethod, targetType, targetMethod, kind] ← j.fields?
    ["from_id", "from_method", "to_id", "to_method", "kind"] 5 | none
  some {
    source := ⟨← Json.required Json.text? sourceType, ← Json.required Json.text? sourceMethod⟩
    target := ⟨← Json.required Json.text? targetType, ← Json.required Json.text? targetMethod⟩
    kind := ← Json.required (fun j => j.name?.bind RelationshipKind.ofName?) kind }

/-! ## Ownership -/

/-- The JSON form of an owner and the tier that settled it. -/
def Ownership.claimJson (claim : String × Tier) : Json :=
  .arr [.text claim.1, .text claim.2.name]

/-- The owner and tier of a JSON form. -/
def Ownership.claimOfJson? : Json → Option (String × Tier)
  | .arr [owner, tier] => do some (← owner.text?, ← tier.name?.bind Tier.ofName?)
  | _ => none

/-- **The JSON form of ownership.** -/
def Ownership.toJson (ownership : Ownership) : Json :=
  .object [
    ("owners", ownership.owners.toJson claimJson),
    ("unresolved", .ofList .text ownership.unresolved)]

/-- **The ownership of a JSON form.** -/
def Ownership.ofJson? (j : Json) : Option Ownership := do
  let [owners, unresolved] ← j.fields? ["owners", "unresolved"] 2 | none
  some {
    owners := ← Json.required (SortedMap.ofJson? claimOfJson?) owners
    unresolved := ← Json.required (Json.list? Json.text?) unresolved }

/-- The JSON form of an ownership. -/
def OwnershipFact.toJson (fact : OwnershipFact) : Json :=
  .object [
    ("child_entity", .text fact.childEntity), ("owner_aggregate", .text fact.ownerAggregate)]

/-- The ownership of a JSON form. -/
def OwnershipFact.ofJson? (j : Json) : Option OwnershipFact := do
  let [child, owner] ← j.fields? ["child_entity", "owner_aggregate"] 2 | none
  some {
    childEntity := ← Json.required Json.text? child
    ownerAggregate := ← Json.required Json.text? owner }

/-! ## Contributions -/

/-- The JSON form of diagnostics. -/
def Diagnostics.toJson (diagnostics : Diagnostics) : Json :=
  .object [
    ("malformed_facts", .nat diagnostics.malformedFacts),
    ("discarded_calls", .nat diagnostics.discardedCalls),
    ("unresolved_entities", .ofList .text diagnostics.unresolvedEntities)]

/-- The diagnostics of a JSON form. -/
def Diagnostics.ofJson? (j : Json) : Option Diagnostics := do
  let [malformed, discarded, unresolved] ← j.fields?
    ["malformed_facts", "discarded_calls", "unresolved_entities"] 3 | none
  some {
    malformedFacts := ← Json.required Json.nat? malformed
    discardedCalls := ← Json.required Json.nat? discarded
    unresolvedEntities := ← Json.required (Json.list? Json.text?) unresolved }

/-- The JSON form of a contribution. -/
def Delta.toJson (delta : Delta) : Json :=
  .object [
    ("source", .text delta.source),
    ("fingerprint", .text delta.fingerprint),
    ("nodes", .ofList Node.toJson delta.nodes),
    ("relationships", .ofList Relationship.toJson delta.relationships),
    ("ownership", .ofList OwnershipFact.toJson delta.ownership),
    ("diagnostics", delta.diagnostics.toJson)]

/-- The contribution of a JSON form, in which every field has a default. -/
def Delta.ofJson? (j : Json) : Option Delta := do
  let [source, fingerprint, nodes, relationships, ownership, diagnostics] ← j.fields?
    ["source", "fingerprint", "nodes", "relationships", "ownership", "diagnostics"] 0 | none
  some {
    source := ← Json.orDefault "" Json.text? source
    fingerprint := ← Json.orDefault "" Json.text? fingerprint
    nodes := ← Json.orDefault [] (Json.list? Node.ofJson?) nodes
    relationships := ← Json.orDefault [] (Json.list? Relationship.ofJson?) relationships
    ownership := ← Json.orDefault [] (Json.list? OwnershipFact.ofJson?) ownership
    diagnostics := ← Json.orDefault ⟨0, 0, []⟩ Diagnostics.ofJson? diagnostics }

/-! ## Stores -/

namespace Store

/-- The JSON form of the nodes, by id. -/
def nodesJson (store : Store) : Json := store.nodes.toJson Node.toJson

/-- The JSON form of the relationships. -/
def relationshipsJson (store : Store) : Json :=
  .ofList Relationship.toJson store.relationships.toList

/-- The JSON form of the owners. -/
def ownershipJson (store : Store) : Json := store.ownership.toJson .text

/-- **The JSON form of a store.** -/
def toJson (store : Store) : Json :=
  .object [
    ("nodes", store.nodesJson),
    ("relationships", store.relationshipsJson),
    ("ownership", store.ownershipJson),
    ("merged_batches", .ofList .text store.mergedBatches.toList),
    ("derived", .ofList .text store.derived.toList)]

/-- **The store of a JSON form.** A node need not stand at its id. -/
def ofJson? (j : Json) : Option Store := do
  let [nodes, relationships, ownership, mergedBatches, derived] ← j.fields?
    ["nodes", "relationships", "ownership", "merged_batches", "derived"] 4 | none
  some {
    nodes := ← Json.required (SortedMap.ofJson? Node.ofJson?) nodes
    relationships :=
      .ofList (← Json.required (Json.list? Relationship.ofJson?) relationships)
    ownership := ← Json.required (SortedMap.ofJson? Json.text?) ownership
    mergedBatches := .ofList (← Json.required (Json.list? Json.text?) mergedBatches)
    derived := .ofList (← Json.orDefault [] (Json.list? Json.text?) derived) }

/-- The text that stands for a store. -/
def content (store : Store) : String :=
  store.nodesJson.toCompact ++ store.relationshipsJson.toCompact ++ store.ownershipJson.toCompact

/-- **The fingerprint of a store.** -/
def fingerprint (store : Store) : String := Sha256.hexadecimal store.content

/-- The JSON form of numbers by kind. -/
def countsJson {α : Type} (name : α → String) (counts : List (α × Nat)) : Json :=
  .object (counts.map fun (kind, n) => (name kind, .nat n))

/-- The JSON form of the numbers of a store. -/
def Statistics.toJson (statistics : Statistics) : Json :=
  .object [
    ("total_nodes", .nat statistics.nodes),
    ("total_relationships", .nat statistics.relationships),
    ("owned_entities", .nat statistics.ownedEntities),
    ("merged_batches", .nat statistics.mergedBatches),
    ("nodes_by_kind", countsJson NodeKind.name statistics.nodesByKind),
    ("relationships_by_kind", countsJson RelationshipKind.name statistics.relationshipsByKind)]

end Store

end DomainFlow
