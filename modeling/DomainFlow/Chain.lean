import DomainFlow.EntryPoint

/-!
# Chains

A chain is the walk from one node, in a form that can be drawn: the nodes with ids of their own,
numbered in the order in which the walk visits them, and the arrows as edges between these ids.

## Main definitions

* `Chain`, with its `ChainNode`s and `ChainEdge`s
* `Store.trace`: the chain of a walk
* `Store.traceFrom?`: the chain from a node of the graph
* `Store.traceAll`: the chains from all entry points
-/

namespace DomainFlow

/-- **A node of a chain.** -/
structure ChainNode where
  /-- The id in the drawing, which is unique within the chain. -/
  localId : String
  /-- The id in the graph. -/
  nodeId : String
  name : String
  /-- The kind, unless the graph lacks the node. -/
  kind : Option NodeKind
  deriving DecidableEq

/-- **An edge of a chain**, between local ids. -/
structure ChainEdge where
  source : String
  target : String
  label : Label
  deriving DecidableEq

/-- **A chain.** The first node is the one it starts at, and its id names the chain. -/
structure Chain where
  name : String
  entryPoint : Option EntryPoint
  nodes : List ChainNode
  edges : List ChainEdge
  deriving DecidableEq

namespace Chain

/-- The local id of the node at a place. -/
def localId (place : Nat) : String := "N" ++ toString place

/-- The local id of a node among those visited. -/
def localIdIn (visited : List String) (id : String) : String := localId (visited.idxOf id)

/-- The ids of the nodes. -/
def nodeIds (chain : Chain) : List String := chain.nodes.map (·.nodeId)

/-- Whether a node is in the chain. -/
def contains (chain : Chain) (id : String) : Bool := chain.nodes.any (·.nodeId = id)

/-- The labels of the edges. -/
def labels (chain : Chain) : List Label := chain.edges.map (·.label)

/-- The node id behind a local id; a local id without a node stands for itself. -/
def nodeIdOf (chain : Chain) (localId : String) : String :=
  match chain.nodes.find? (·.localId = localId) with
  | some node => node.nodeId
  | none => localId

end Chain

namespace Store

/-- The node of a chain for a visited id. -/
def chainNode (store : Store) (id : String) (place : Nat) : ChainNode :=
  match store.node? id with
  | some node => ⟨Chain.localId place, id, node.name, some node.kind⟩
  | none => ⟨Chain.localId place, id, id, none⟩

/-- The chain of the walk from a node along given arrows. -/
def traceAlong (store : Store) (flow : List Arrow) (start : String) : Chain :=
  let arrows := walkFrom flow start
  let visited := visits start arrows
  { name := start
    entryPoint := none
    nodes := visited.zipIdx.map fun (id, place) => store.chainNode id place
    edges := arrows.map fun arrow =>
      ⟨Chain.localIdIn visited arrow.source, Chain.localIdIn visited arrow.target, arrow.label⟩ }

/-- **The chain of the walk from a node.** -/
def trace (store : Store) (start : String) : Chain := store.traceAlong store.flow start

/-- The chain from a node of the graph; there is none from any other id. -/
def traceFrom? (store : Store) (start : String) : Option Chain :=
  if store.nodes.contains start then some (store.trace start) else none

/-- **The chains from all entry points.** -/
def traceAll (store : Store) : List Chain :=
  let flow := store.flow
  store.entryPoints.map fun entry =>
    { store.traceAlong flow entry.nodeId with entryPoint := some entry }

end Store

end DomainFlow
