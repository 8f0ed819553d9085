import Mathlib.Data.List.Perm.Subperm
import DomainFlow.Proofs.ChainGraph
import DomainFlow.Proofs.Consistency

/-!
# Flows in a growing graph

The node that an endpoint means depends on one thing only: the kind of the node of its type. In a
store without violations the types of all endpoints are nodes. So if a larger store has these nodes
with the same kinds, every relationship joins the same two nodes there, and a chain of the larger
store shows all that the chain from the same node shows in the smaller one. A merge keeps every
relationship. Whatever it adds, and whether it declares nodes that were derived before or derives
others, it can cut a flow only where it changes the kind of a node.

## Main definitions

* `Store.Extends`: a store that has the relationships of another one, and its nodes with their kinds
* `Chain.Within`: a chain of which another one shows every node and every link

## Main results

* `Store.endpointId_congr`: the kind of its type decides which node an endpoint means
* `Store.Extends.within_trace`: the chains of an extension show at least what the chains of a store
  without violations show
* `Store.size_relationships_merge`: a merge adds as many relationships as are reported
* `Store.exists_within_traceFrom?_merge`: a merge that keeps the kinds of the nodes cuts no flow
-/

namespace DomainFlow

/-- **Whether another chain shows all that a chain shows**: its nodes, and its links between them. -/
structure Chain.Within (chain larger : Chain) : Prop where
  nodeIds : ∀ id ∈ chain.nodeIds, id ∈ larger.nodeIds
  links : ∀ source label target, chain.Links source label target → larger.Links source label target

namespace Store

/-- **An extension of a store** has its relationships, and has its nodes with the same kinds. -/
structure Extends (larger store : Store) : Prop where
  relationships : ∀ r ∈ store.relationships, r ∈ larger.relationships
  kinds : ∀ id ∈ store.nodes.keys,
    (larger.node? id).map (·.kind) = (store.node? id).map (·.kind)

variable {store larger : Store}

/-! ## Endpoints -/

/-- Where nothing is violated, the types of all endpoints are nodes. -/
theorem typeId_mem_keys (hvalid : store.violations = []) {r : Relationship}
    (hr : r ∈ store.relationships) {endpoint : MethodRef} (he : endpoint ∈ r.endpoints) :
    endpoint.typeId ∈ store.nodes.keys := by
  have hnode : store.nodes.contains (store.endpointId endpoint) = true := by
    obtain ⟨-, hsource, htarget⟩ := violations_eq_nil_iff.1 hvalid r hr
    rw [Relationship.endpoints, List.mem_cons, List.mem_singleton] at he
    rcases he with rfl | rfl
    · exact hsource
    · exact htarget
  rw [SortedMap.mem_keys_iff]
  rw [endpointId] at hnode
  split at hnode
  · next node hmethod =>
    obtain ⟨-, owner, -, howner, -⟩ := methodNode?_eq_some_iff.1 hmethod
    exact SortedMap.contains_iff.2 ⟨owner, howner⟩
  · exact hnode

/-- An endpoint means the node of its method exactly if the kind of its type carries methods. -/
theorem endpointId_eq (store : Store) (endpoint : MethodRef) :
    store.endpointId endpoint =
      if endpoint.method ≠ "" ∧
          (((store.node? endpoint.typeId).map (·.kind)).bind NodeKind.methodKind?).isSome = true then
        Node.methodId endpoint.typeId endpoint.method
      else endpoint.typeId := by
  rw [endpointId, methodNode?, node?]
  by_cases hmethod : endpoint.method ≠ ""
  · cases store.nodes.get? endpoint.typeId with
    | none => simp [hmethod]
    | some owner => cases hkind : owner.kind.methodKind? <;> simp [hmethod, hkind]
  · simp [hmethod]

/-- **The kind of its type decides which node an endpoint means.** -/
theorem endpointId_congr {endpoint : MethodRef}
    (h : (larger.node? endpoint.typeId).map (·.kind) =
      (store.node? endpoint.typeId).map (·.kind)) :
    larger.endpointId endpoint = store.endpointId endpoint := by
  rw [endpointId_eq, endpointId_eq, h]

namespace Extends

variable (h : larger.Extends store) (hvalid : store.violations = [])

include h hvalid

/-! ## Relationships and chains -/

/-- A relationship joins the same nodes in an extension. -/
theorem ends_eq {r : Relationship} (hr : r ∈ store.relationships) :
    larger.sourceId r = store.sourceId r ∧ larger.targetId r = store.targetId r := by
  have hend : ∀ endpoint ∈ r.endpoints, larger.endpointId endpoint = store.endpointId endpoint := by
    intro endpoint he
    exact endpointId_congr (h.kinds _ (typeId_mem_keys hvalid hr he))
  constructor
  · apply hend
    simp [Relationship.endpoints]
  · apply hend
    simp [Relationship.endpoints]

/-- A flow takes its way in an extension as well. -/
theorem reaches {a b : String} (hreach : Reaches store.edges a b) : Reaches larger.edges a b := by
  refine Relation.ReflTransGen.mono (fun _ _ he => ?_) _ _ hreach
  obtain ⟨r, hr, hkind, heq⟩ := mem_edges.1 he
  cases heq
  obtain ⟨hsource, htarget⟩ := h.ends_eq hvalid hr
  rw [← hsource, ← htarget]
  exact mem_edges.2 ⟨r, h.relationships r hr, hkind, rfl⟩

/-- **A chain of an extension shows at least what the chain of the store shows.** -/
theorem within_trace (start : String) : (store.trace start).Within (larger.trace start) := by
  have hnodes : ∀ id ∈ (store.trace start).nodeIds, id ∈ (larger.trace start).nodeIds := by
    intro id hid
    rw [mem_nodeIds_trace] at hid ⊢
    exact h.reaches hvalid hid
  refine ⟨hnodes, ?_⟩
  intro source label target hlinks
  obtain ⟨hmem, r, hr, hlabel, rfl, rfl⟩ := links_trace.1 hlinks
  obtain ⟨hsource, htarget⟩ := h.ends_eq hvalid hr
  exact links_trace.2 ⟨hnodes _ hmem, r, h.relationships r hr, hlabel, hsource, htarget⟩

end Extends

/-! ## Merging -/

theorem mem_relationships_merge {delta : Delta} {r : Relationship} :
    r ∈ (store.merge delta).relationships ↔
      r ∈ store.relationships ∨ r ∈ delta.relationships := by
  have hmerge : store.merge delta = store.mergeAll [delta] := rfl
  rw [hmerge, mem_relationships_mergeAll]
  simp only [List.mem_singleton, exists_eq_left]

/-- **Relationships only get more**: a merge adds as many as are reported. -/
theorem size_relationships_merge (store : Store) (delta : Delta) :
    (store.merge delta).relationships.size =
      store.relationships.size + (store.growth (store.merge delta)).relationships := by
  have hlength (rs : SortedSet Relationship) : rs.toList.length = rs.size := List.length_map _
  have hle : store.relationships.size ≤ (store.merge delta).relationships.size := by
    rw [← hlength, ← hlength]
    refine (List.subperm_of_subset store.relationships.nodup_toList fun r hr => ?_).length_le
    exact SortedSet.mem_toList.2 (mem_relationships_merge.2 (.inl (SortedSet.mem_toList.1 hr)))
  rw [growth, Nat.add_sub_cancel' hle]

/-- A merge that keeps the kinds of the nodes extends the store. -/
theorem extends_merge {delta : Delta}
    (hkinds : ∀ id ∈ store.nodes.keys,
      ((store.merge delta).node? id).map (·.kind) = (store.node? id).map (·.kind)) :
    (store.merge delta).Extends store where
  relationships _ hr := mem_relationships_merge.2 (.inl hr)
  kinds := hkinds

/-- A store in which a controller sends a command by a method that no batch declares. -/
def postingStore : Store :=
  (∅ : Store).merge
    { source := "web"
      fingerprint := "w"
      nodes := [⟨"Desk", "Desk", .controller⟩, ⟨"Pay", "Pay", .command⟩]
      relationships := [⟨⟨"Desk", "Post"⟩, ⟨"Pay", ""⟩, .methodToCommand⟩]
      ownership := []
      diagnostics := ⟨0, 0, []⟩ }

/-- A contribution that declares the method and says what the command executes. -/
def payingDelta : Delta where
  source := "domain"
  fingerprint := "d"
  nodes := [⟨"Desk.Post", "Post", .controllerMethod⟩, ⟨"Order", "Order", .aggregate⟩]
  relationships := [⟨⟨"Pay", ""⟩, ⟨"Order", "MarkPaid"⟩, .commandToAggregateMethod⟩]
  ownership := []
  diagnostics := ⟨0, 0, []⟩

/-- **A merge that keeps the kinds of the nodes cuts no flow.** From every node of a store without
violations there is a chain after the merge too, and it shows every node and every link that the
chain before showed. -/
theorem exists_within_traceFrom?_merge {delta : Delta} (hvalid : store.violations = [])
    (hkinds : ∀ id ∈ store.nodes.keys,
      ((store.merge delta).node? id).map (·.kind) = (store.node? id).map (·.kind))
    {start : String} (hstart : start ∈ store.nodes.keys) :
    ∃ before after, store.traceFrom? start = some before ∧
      (store.merge delta).traceFrom? start = some after ∧ before.Within after := by
  have hbefore : store.nodes.contains start = true := SortedMap.mem_keys_iff.1 hstart
  have hafter : (store.merge delta).nodes.contains start = true := by
    obtain ⟨node, hnode⟩ := SortedMap.contains_iff.1 hbefore
    have hkind := hkinds start hstart
    rw [show store.node? start = some node from hnode, Option.map_some] at hkind
    obtain ⟨node', hnode', -⟩ := Option.map_eq_some_iff.1 hkind
    exact SortedMap.contains_iff.2 ⟨node', hnode'⟩
  refine ⟨store.trace start, (store.merge delta).trace start, ?_, ?_, ?_⟩
  · rw [traceFrom?, if_pos hbefore]
  · rw [traceFrom?, if_pos hafter]
  · exact (extends_merge hkinds).within_trace hvalid start

/-- The method is derived before the merge and declared after it. -/
theorem exists_within_traceFrom?_postingStore :
    postingStore.violations = [] ∧
      (∀ id ∈ postingStore.nodes.keys, ((postingStore.merge payingDelta).node? id).map (·.kind) =
        (postingStore.node? id).map (·.kind)) ∧
      "Desk.Post" ∈ postingStore.nodes.keys ∧
      ∃ before after, postingStore.traceFrom? "Desk.Post" = some before ∧
        (postingStore.merge payingDelta).traceFrom? "Desk.Post" = some after ∧
        before.Within after := by
  have hvalid : postingStore.violations = [] := by decide +kernel
  have hkinds : ∀ id ∈ postingStore.nodes.keys,
      ((postingStore.merge payingDelta).node? id).map (·.kind) =
        (postingStore.node? id).map (·.kind) := by decide +kernel
  have hstart : "Desk.Post" ∈ postingStore.nodes.keys := by decide +kernel
  exact ⟨hvalid, hkinds, hstart, exists_within_traceFrom?_merge hvalid hkinds hstart⟩

end Store

end DomainFlow
