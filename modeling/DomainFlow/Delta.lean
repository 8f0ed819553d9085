import DomainFlow.Classification
import DomainFlow.Fact.Fingerprint

/-!
# What a batch contributes to the graph

The analysis of a batch resolves ownership, propagates events, classifies the facts, and collects
the nodes: those that the types declare and those that the relationships need. It depends on the
batch and the settings alone, and it drops what it cannot use instead of failing.

## Main definitions

* `Delta`: the contribution of a batch
* `declaredNodes`: the nodes that a list of types declares
* `Batch.analyze`: the contribution of a batch
-/

namespace DomainFlow

/-- What a batch said that did not make it into the graph. -/
structure Diagnostics where
  malformedFacts : Nat
  discardedCalls : Nat
  unresolvedEntities : List String
  deriving DecidableEq

/-- An entity and the aggregate that owns it. -/
structure OwnershipFact where
  childEntity : String
  ownerAggregate : String
  deriving DecidableEq

/-- **The contribution of a batch to the graph.** -/
structure Delta where
  source : String
  fingerprint : String
  nodes : List Node
  relationships : List Relationship
  ownership : List OwnershipFact
  diagnostics : Diagnostics
  deriving DecidableEq

/-- How a batch is analysed. -/
structure AnalysisSettings where
  /-- Whether a method causes the events that its namesakes raise. -/
  mergeSameNameEvents : Bool
  /-- The suffixes that an entity may add to the name of its aggregate. -/
  ownershipSuffixes : List String
  /-- Whether batches may be analysed at the same time; the result does not depend on it. -/
  parallelBatches : Bool
  deriving DecidableEq

/-- The owners as facts, in the order of the entities. -/
def Ownership.facts (ownership : Ownership) : List OwnershipFact :=
  ownership.owners.entries.map fun (child, owner, _) => ⟨child, owner⟩

/-! ## Nodes -/

/-- The node that a contract of a converter declares. -/
def conversionNode? (converter : TypeFact) : Contract → Option Node
  | .convertsEvent domainEvent integrationEvent =>
    some ⟨Node.conversionId domainEvent integrationEvent, converter.name,
      .integrationEventConverter⟩
  | _ => none

/-- The nodes that a type declares: itself and its methods, or the conversions of a converter. -/
def TypeFact.nodes (fact : TypeFact) : List Node :=
  match fact.kind.nodeKind? with
  | none => []
  -- a converter is drawn as its conversions and is no node itself
  | some .integrationEventConverter => fact.contracts.filterMap (conversionNode? fact)
  | some kind =>
    ⟨fact.id, fact.name, kind⟩ ::
      match kind.methodKind? with
      | some methodKind =>
        fact.methods.map fun method => ⟨Node.methodId fact.id method, method, methodKind⟩
      | none => []

/-- The nodes that a list of types declares. -/
def declaredNodes (types : List TypeFact) : List Node := types.flatMap TypeFact.nodes

/-- The node of a method that an endpoint needs, if the type carries method nodes. -/
def endpointNode? (types : List TypeFact) (endpoint : MethodRef) : Option Node := do
  guard (endpoint.method ≠ "")
  let fact ← declaration? types endpoint.typeId
  let methodKind ← (← fact.kind.nodeKind?).methodKind?
  some ⟨Node.methodId endpoint.typeId endpoint.method, endpoint.method, methodKind⟩

/-- The nodes that the endpoints of relationships need. -/
def endpointNodes (types : List TypeFact) (relationships : List Relationship) : List Node :=
  relationships.flatMap fun r => [r.source, r.target].filterMap (endpointNode? types)

/-- The map of nodes by id; the first node of an id counts. -/
def nodeMap (nodes : List Node) : SortedMap String Node :=
  .ofFirst (nodes.map fun node => (node.id, node))

/-! ## Analysis -/

namespace Batch

/-- The classification of a batch. -/
def classification (batch : Batch) (settings : AnalysisSettings) : Classification :=
  Scope.classify ⟨batch.types, batch.ownership settings.ownershipSuffixes⟩ batch.calls
    (batch.events settings.mergeSameNameEvents)

/-- **The contribution of a batch.** -/
def analyze (batch : Batch) (settings : AnalysisSettings) : Delta :=
  let ownership := batch.ownership settings.ownershipSuffixes
  let found := batch.classification settings
  let relationships := found.relationships.toList
  { source := batch.source
    fingerprint := batch.fingerprint
    nodes := (nodeMap (declaredNodes batch.types ++
      endpointNodes batch.types relationships)).values
    relationships := relationships
    ownership := ownership.facts
    diagnostics := ⟨found.malformed, found.discarded, ownership.unresolved⟩ }

end Batch

end DomainFlow
