import DomainFlow.Delta

/-!
# The store of the architecture graph

The store collects what batches contribute. Merging is settled per node, per relationship and per
owned entity, so the result does not depend on the order of the batches: of several declarations of
a node the preceding one counts, of several owners the least.

A relationship may name a method that no batch declares as a node, because the batch it comes from
saw the type with another kind. After every merge the store derives the nodes that such endpoints
need from its declared nodes alone.

## Main definitions

* `Store`: the graph, the owners, and which nodes are derived
* `Store.endpointId`: the id of the node that an endpoint means
* `Store.derive`: the derived nodes, anew from the declared ones
* `Store.merge`, `Store.ofDeltas`: merging contributions
* `Store.violations`: the relationships that break the rules of the graph
-/

namespace DomainFlow

/-- **The architecture graph of the batches merged so far.** -/
structure Store where
  nodes : SortedMap String Node
  relationships : SortedSet Relationship
  /-- The owner of every owned entity. -/
  ownership : SortedMap String String
  /-- The fingerprints of the batches merged. -/
  mergedBatches : SortedSet String
  /-- The ids of the nodes that no batch declares. -/
  derived : SortedSet String
  deriving DecidableEq

/-- The two endpoints of a relationship. -/
def Relationship.endpoints (r : Relationship) : List MethodRef := [r.source, r.target]

namespace Store

/-- The store before any merge. -/
def empty : Store := ⟨∅, ∅, ∅, ∅, ∅⟩

instance : EmptyCollection Store := ⟨empty⟩

instance : Inhabited Store := ⟨empty⟩

/-- The node of an id. -/
def node? (store : Store) (id : String) : Option Node := store.nodes.get? id

/-! ## Endpoints -/

/-- The node that stands for an endpoint with a method on a type that carries method nodes. -/
def methodNode? (nodes : SortedMap String Node) (endpoint : MethodRef) : Option Node := do
  guard (endpoint.method ≠ "")
  let methodKind ← (← nodes.get? endpoint.typeId).kind.methodKind?
  some ⟨Node.methodId endpoint.typeId endpoint.method, endpoint.method, methodKind⟩

/-- **The id of the node that an endpoint means**: that of the method where the type carries method
nodes, otherwise that of the type. -/
def endpointId (store : Store) (endpoint : MethodRef) : String :=
  match methodNode? store.nodes endpoint with
  | some node => node.id
  | none => endpoint.typeId

/-- The id of the node that a relationship starts at. -/
def sourceId (store : Store) (r : Relationship) : String := store.endpointId r.source

/-- The id of the node that a relationship ends at. -/
def targetId (store : Store) (r : Relationship) : String := store.endpointId r.target

/-! ## Derived nodes -/

/-- The nodes that some batch declares. -/
def declared (store : Store) : SortedMap String Node :=
  store.nodes.filter fun id _ => !store.derived.contains id

/-- The nodes that the endpoints of relationships need and the given nodes lack. -/
def missingNodes (nodes : SortedMap String Node) (relationships : List Relationship) :
    SortedMap String Node :=
  nodeMap (((relationships.flatMap Relationship.endpoints).filterMap (methodNode? nodes)).filter
    fun node => !nodes.contains node.id)

/-- **Derives the nodes that the endpoints need**, in place of those derived before. -/
def derive (store : Store) : Store :=
  -- only declared kinds count, so nodes derived before cannot bring about others
  let missing := missingNodes store.declared store.relationships.toList
  { store with nodes := store.declared.orElse missing, derived := .ofList missing.keys }

/-! ## Merging -/

/-- Of two declarations of a node, the one that counts. -/
def chooseNode (present : Option Node) (node : Node) : Node :=
  match present with
  | some old => if node.precedes old then node else old
  | none => node

/-- Adds the declaration of a node. It replaces a derived node. -/
def addNode (store : Store) (node : Node) : Store :=
  if node.id ∈ store.derived then
    -- a derived node gives way whatever it is, since no batch declared it
    { store with
      nodes := store.nodes.insert node.id node
      derived := store.derived.erase node.id }
  else
    { store with nodes := store.nodes.alter node.id fun present => some (chooseNode present node) }

/-- Of two owners of an entity, the one that counts. -/
def chooseOwner (present : Option String) (owner : String) : String :=
  match present with
  | some old => if owner < old then owner else old
  | none => owner

/-- Adds the owner of an entity. -/
def addOwner (store : Store) (fact : OwnershipFact) : Store :=
  { store with
    ownership := store.ownership.alter fact.childEntity fun present =>
      some (chooseOwner present fact.ownerAggregate) }

/-- Adds a relationship. -/
def addRelationship (store : Store) (r : Relationship) : Store :=
  { store with relationships := store.relationships.insert r }

/-- Adds the fingerprint of a batch; a contribution without one came from no batch. -/
def addFingerprint (store : Store) (fingerprint : String) : Store :=
  if fingerprint = "" then store
  else { store with mergedBatches := store.mergedBatches.insert fingerprint }

/-- Adds all that a contribution says, without deriving nodes. -/
def add (store : Store) (delta : Delta) : Store :=
  let withNodes := delta.nodes.foldl addNode store
  let withRelationships := delta.relationships.foldl addRelationship withNodes
  let withOwners := delta.ownership.foldl addOwner withRelationships
  withOwners.addFingerprint delta.fingerprint

/-- **Merges a contribution.** -/
def merge (store : Store) (delta : Delta) : Store := (store.add delta).derive

/-- Merges contributions in order. -/
def mergeAll (store : Store) (deltas : List Delta) : Store := deltas.foldl merge store

/-- The store of a list of contributions. -/
def ofDeltas (deltas : List Delta) : Store := mergeAll ∅ deltas

/-- What a merge added. -/
structure Growth where
  nodes : Nat
  relationships : Nat
  deriving DecidableEq

/-- How much a store has grown. Nodes can also get fewer, and then none count as added. -/
def growth (before after : Store) : Growth where
  nodes := after.nodes.size - before.nodes.size
  relationships := after.relationships.size - before.relationships.size

/-! ## The rules of the graph -/

/-- **How a relationship breaks the rules of the graph.** -/
inductive Violation
  | unclassified (relationship : Relationship)
  | missingNode (relationship : Relationship) (id : String)
  deriving DecidableEq

/-- What is said of a violation. -/
def Violation.message : Violation → String
  | unclassified r => "unclassified relationship " ++ r.source.typeId ++ " -> " ++
      r.target.typeId ++ " stored"
  | missingNode r id => r.kind.name ++ " relationship " ++ r.source.typeId ++ " -> " ++
      r.target.typeId ++ " references missing node " ++ id

/-- The violations of a relationship: it has to have a known kind, and the nodes of both endpoints
have to be in the store. -/
def violationsOf (store : Store) (r : Relationship) : List Violation :=
  if r.kind = .unknown then [.unclassified r]
  else ([store.sourceId r, store.targetId r].filter fun id => !store.nodes.contains id).map
    (.missingNode r)

/-- **The violations in a store**, in the order of the relationships. -/
def violations (store : Store) : List Violation :=
  store.relationships.toList.flatMap store.violationsOf

/-! ## Counts -/

/-- What a store holds, in numbers. Only kinds that occur are counted, in the order of the kinds. -/
structure Statistics where
  nodes : Nat
  relationships : Nat
  ownedEntities : Nat
  mergedBatches : Nat
  nodesByKind : List (NodeKind × Nat)
  relationshipsByKind : List (RelationshipKind × Nat)
  deriving DecidableEq

/-- How often each of the given values occurs in a list, without those that do not occur. -/
def tally {α : Type} [BEq α] (values : List α) (l : List α) : List (α × Nat) :=
  (values.map fun a => (a, l.count a)).filter (·.2 ≠ 0)

/-- **The numbers of a store.** -/
def statistics (store : Store) : Statistics where
  nodes := store.nodes.size
  relationships := store.relationships.size
  ownedEntities := store.ownership.size
  mergedBatches := store.mergedBatches.size
  nodesByKind := tally NodeKind.all (store.nodes.values.map (·.kind))
  relationshipsByKind := tally RelationshipKind.all (store.relationships.toList.map (·.kind))

end Store

end DomainFlow
