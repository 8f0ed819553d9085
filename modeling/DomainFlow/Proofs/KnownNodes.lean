import Mathlib.Data.List.Forall2
import DomainFlow.Proofs.ChainGraph
import DomainFlow.Proofs.Consistency
import DomainFlow.Proofs.EntryPoints

/-!
# Chains of known nodes

Where nothing is violated, a relationship starts and ends at nodes of the store. A walk from a node
therefore meets nodes only, and since an entry point is an end of some relationship, every entry point
is a node to walk from. So the chains from all entry points are the chains from single nodes, and none
of them has to stand in for a node that the store lacks.

## Main definitions

* `Chain.Resolved`: a chain that shows nodes of a store as they are stored
* `Chain.Retraces`: a chain that differs from another one in the entry point alone

## Main results

* `Store.contains_of_reaches`: a flow from a node leads to nodes
* `Store.contains_of_mem_entryPoints`: every entry point is a node
* `Store.traceAll_agrees`: the chains from all entry points, and from single nodes
-/

namespace DomainFlow

/-- **A chain that shows nodes of a store as they are stored**: each with the name and the kind of the
node that stands under its id. -/
def Chain.Resolved (store : Store) (chain : Chain) : Prop :=
  ∀ node ∈ chain.nodes, ∃ stored, store.node? node.nodeId = some stored ∧
    node.name = stored.name ∧ node.kind = some stored.kind

/-- **A chain that differs from another one in the entry point alone.** -/
structure Chain.Retraces (chain single : Chain) : Prop where
  name : chain.name = single.name
  nodes : chain.nodes = single.nodes
  edges : chain.edges = single.edges

namespace Store

variable {store : Store}

/-! ## Chains from single nodes -/

/-- There is a chain from every node, and from no other id. -/
theorem traceFrom?_eq_none_iff {id : String} :
    store.traceFrom? id = none ↔ id ∉ store.nodes.keys := by
  rw [SortedMap.mem_keys_iff, traceFrom?]
  split
  · next h => exact iff_of_false nofun (not_not_intro h)
  · next h => exact iff_of_true rfl h

theorem traceFrom?_eq_some_iff {id : String} {chain : Chain} :
    store.traceFrom? id = some chain ↔ id ∈ store.nodes.keys ∧ store.trace id = chain := by
  rw [SortedMap.mem_keys_iff, traceFrom?, Option.ite_none_right_eq_some, Option.some.injEq]

/-- A node of a chain is shown as it is stored. -/
theorem chainNode_of_node? {id : String} {node : Node} (h : store.node? id = some node)
    (place : Nat) : store.chainNode id place = ⟨Chain.localId place, id, node.name, some node.kind⟩ := by
  rw [chainNode, h]

/-! ## Valid stores -/

section Valid

variable (hvalid : store.violations = [])

include hvalid

theorem contains_ends {r : Relationship} (hr : r ∈ store.relationships) :
    store.nodes.contains (store.sourceId r) = true ∧
      store.nodes.contains (store.targetId r) = true :=
  (violations_eq_nil_iff.1 hvalid r hr).2

/-- **A flow from a node leads to nodes.** -/
theorem contains_of_reaches {a b : String} (ha : store.nodes.contains a = true)
    (h : Reaches store.edges a b) : store.nodes.contains b = true := by
  have hclosed : ∀ e ∈ store.edges, store.nodes.contains e.1 = true →
      store.nodes.contains e.2 = true := by
    intro e he _
    obtain ⟨r, hr, -, rfl⟩ := mem_edges.1 he
    exact (contains_ends hvalid hr).2
  exact h.mem_of_closed (P := fun id => store.nodes.contains id = true) hclosed ha

/-- **Every entry point is a node**: a command origin is the source of a command that it sends, and an
event handler is the target of an event. -/
theorem contains_of_mem_entryPoints {entry : EntryPoint} (h : entry ∈ store.entryPoints) :
    store.nodes.contains entry.nodeId = true := by
  rcases contains_foundEntries.1 (contains_foundEntries_of_mem h) with horigin | ⟨f, hf, hkey⟩
  · obtain ⟨r, hr, -, -, -, hkey⟩ := mem_keys_origins.1 horigin
    rw [(EntryKey.mk.inj hkey).2]
    exact (contains_ends hvalid hr).1
  · have hhandler := mem_handlers_of_mem_chosenHandlers hf
    obtain ⟨event, hevent⟩ := exists_event_of_mem_handlers hhandler
    obtain ⟨r, hr, -, htarget, -⟩ := exists_relationship_of_mem_handlers hhandler hevent
    have hid : f.key.nodeId = entry.nodeId := by rw [hkey]
    rw [← hid, ← htarget]
    exact (contains_ends hvalid hr).2

/-- A chain from a node shows nodes as they are stored. -/
theorem resolved_trace {start : String} (hstart : store.nodes.contains start = true) :
    (store.trace start).Resolved store := by
  intro node hnode
  obtain ⟨id, hid, rfl⟩ := mem_nodes_trace.1 hnode
  obtain ⟨stored, hstored⟩ : ∃ stored, store.node? id = some stored :=
    SortedMap.contains_iff.1 (contains_of_reaches hvalid hstart (mem_nodeIds_trace.1 hid))
  rw [chainNode_of_node? hstored]
  exact ⟨stored, hstored, rfl, rfl⟩

/-- **The chains from all entry points are chains from single nodes.** Every entry point of a store
without violations is a node. In the order of the entry points, its chain is the chain from that node,
with the entry point added. From an id that is no node there is no chain, and every chain shows its
nodes with the names and kinds that are stored. -/
theorem traceAll_agrees :
    (∀ entry ∈ store.entryPoints, entry.nodeId ∈ store.nodes.keys) ∧
    List.Forall₂ (fun entry chain => chain.entryPoint = some entry ∧
        ∃ single, store.traceFrom? entry.nodeId = some single ∧ chain.Retraces single)
      store.entryPoints store.traceAll ∧
    (∀ id, store.traceFrom? id = none ↔ id ∉ store.nodes.keys) ∧
    (∀ chain ∈ store.traceAll, chain.Resolved store) ∧
    ∀ id chain, store.traceFrom? id = some chain → chain.Resolved store := by
  have hkeys : ∀ entry ∈ store.entryPoints, entry.nodeId ∈ store.nodes.keys := fun entry hentry =>
    SortedMap.mem_keys_iff.2 (contains_of_mem_entryPoints hvalid hentry)
  refine ⟨hkeys, ?_, fun id => traceFrom?_eq_none_iff, fun chain hchain => ?_,
    fun id chain hchain => ?_⟩
  · rw [traceAll, List.forall₂_map_right_iff, List.forall₂_same]
    intro entry hentry
    exact ⟨rfl, _, traceFrom?_eq_some_iff.2 ⟨hkeys entry hentry, rfl⟩, ⟨rfl, rfl, rfl⟩⟩
  · obtain ⟨entry, hentry, rfl⟩ := mem_traceAll.1 hchain
    exact resolved_trace hvalid (contains_of_mem_entryPoints hvalid hentry)
  · obtain ⟨hid, rfl⟩ := traceFrom?_eq_some_iff.1 hchain
    exact resolved_trace hvalid (SortedMap.mem_keys_iff.1 hid)

end Valid

/-- A store in which a desk and the handler of its event close a cycle, and in which the nodes stand
under other ids than their own. -/
def renamedStore : Store where
  nodes := .ofLast
    [("Desk", ⟨"Reception", "Front desk", .controller⟩), ("Desk.Post", ⟨"post", "Post", .controllerMethod⟩),
      ("Pay", ⟨"", "Pay", .command⟩), ("Order", ⟨"Desk", "Order", .aggregate⟩),
      ("Order.MarkPaid", ⟨"Order", "MarkPaid", .aggregateMethod⟩), ("Paid", ⟨"Pay", "Paid", .domainEvent⟩),
      ("Retry", ⟨"Retry", "Retry", .domainEventHandler⟩)]
  relationships := .ofList
    [⟨⟨"Desk", "Post"⟩, ⟨"Pay", ""⟩, .methodToCommand⟩,
      ⟨⟨"Pay", ""⟩, ⟨"Order", "MarkPaid"⟩, .commandToAggregateMethod⟩,
      ⟨⟨"Order", "MarkPaid"⟩, ⟨"Paid", ""⟩, .methodToDomainEvent⟩,
      ⟨⟨"Paid", ""⟩, ⟨"Retry", ""⟩, .domainEventToHandler⟩,
      ⟨⟨"Retry", "Handle"⟩, ⟨"Pay", ""⟩, .handlerToCommand⟩]
  ownership := ∅
  mergedBatches := ∅
  derived := ∅

theorem traceAll_renamedStore :
    renamedStore.violations = [] ∧
      (∀ entry ∈ renamedStore.entryPoints, entry.nodeId ∈ renamedStore.nodes.keys) ∧
      List.Forall₂ (fun entry chain => chain.entryPoint = some entry ∧
          ∃ single, renamedStore.traceFrom? entry.nodeId = some single ∧ chain.Retraces single)
        renamedStore.entryPoints renamedStore.traceAll ∧
      (∀ id, renamedStore.traceFrom? id = none ↔ id ∉ renamedStore.nodes.keys) ∧
      (∀ chain ∈ renamedStore.traceAll, chain.Resolved renamedStore) ∧
      ∀ id chain, renamedStore.traceFrom? id = some chain → chain.Resolved renamedStore := by
  have hvalid : renamedStore.violations = [] := by decide +kernel
  exact ⟨hvalid, traceAll_agrees hvalid⟩

end Store

end DomainFlow
