import DomainFlow.Proofs.Exploration

/-!
# Chains as graphs

A chain numbers the nodes in the order in which a depth-first exploration expands them, and it draws
every arrow that leaves one of them as an edge between their numbers. So the chain shows the part of
the graph behind its start, completely and without repetitions.

## Main definitions

* `Store.Outgoing`: the arrows that leave a node, in the order in which they are followed
* `Chain.DepthFirst`: what the chain of a depth-first exploration looks like
* `Chain.Links`: whether a chain shows a labelled edge between two nodes of the graph

## Main results

* `Store.depthFirst_trace`: every chain is that of a depth-first exploration
* `Store.links_trace`, `Store.mem_labels_trace`: a chain shows every relationship that leaves one of
  its nodes, and these are what its labels come from
-/

namespace DomainFlow

/-! ## Local ids -/

theorem Chain.localId_injective {i j : Nat} (h : Chain.localId i = Chain.localId j) : i = j := by
  have hdigits : Nat.toDigits 10 i = Nat.toDigits 10 j := by
    have hrepr : i.repr = j.repr := (String.append_right_inj "N").1 h
    rwa [Nat.repr_eq_ofList_toDigits, Nat.repr_eq_ofList_toDigits, String.ofList_inj] at hrepr
  calc i = Nat.ofDigitChars 10 (Nat.toDigits 10 i) 0 :=
        (Nat.ofDigitChars_toDigits (by decide) (by decide)).symm
    _ = Nat.ofDigitChars 10 (Nat.toDigits 10 j) 0 := by rw [hdigits]
    _ = j := Nat.ofDigitChars_toDigits (by decide) (by decide)

theorem Chain.eq_of_localIdIn {visited : List String} {a b : String} (ha : a ∈ visited)
    (h : Chain.localIdIn visited a = Chain.localIdIn visited b) : a = b :=
  (List.idxOf_inj ha).1 (Chain.localId_injective h)

/-- A list without repetitions numbers every element once. -/
theorem mem_zipIdx_iff_idxOf {α : Type} [DecidableEq α] {l : List α} (hl : l.Nodup) {a : α}
    {place : Nat} : (a, place) ∈ l.zipIdx ↔ a ∈ l ∧ place = l.idxOf a := by
  rw [List.mk_mem_zipIdx_iff_getElem?, List.getElem?_eq_some_iff]
  constructor
  · rintro ⟨hlt, rfl⟩
    exact ⟨List.getElem_mem hlt, (hl.idxOf_getElem place hlt).symm⟩
  · rintro ⟨ha, rfl⟩
    exact ⟨List.idxOf_lt_length_iff.2 ha, List.getElem_idxOf _⟩

namespace Store

variable {store : Store} {start : String}

theorem localId_chainNode (id : String) (place : Nat) :
    (store.chainNode id place).localId = Chain.localId place := by
  rw [chainNode]
  split <;> rfl

theorem nodeIds_trace (store : Store) (start : String) :
    (store.trace start).nodeIds = visits start (walkFrom store.flow start) :=
  nodeIds_traceAlong store.flow start

theorem nodup_nodeIds_trace (store : Store) (start : String) :
    (store.trace start).nodeIds.Nodup := by
  rw [nodeIds_trace]
  exact nodup_visits _ _

/-- The nodes of a chain are its node ids, numbered. -/
theorem mem_nodes_trace {node : ChainNode} :
    node ∈ (store.trace start).nodes ↔ ∃ id ∈ (store.trace start).nodeIds,
      node = store.chainNode id ((store.trace start).nodeIds.idxOf id) := by
  rw [nodeIds_trace]
  change node ∈ List.map _ (List.zipIdx _) ↔ _
  rw [List.mem_map]
  constructor
  · rintro ⟨⟨id, place⟩, hmem, rfl⟩
    obtain ⟨hid, rfl⟩ := (mem_zipIdx_iff_idxOf (nodup_visits _ _)).1 hmem
    exact ⟨id, hid, rfl⟩
  · rintro ⟨id, hid, rfl⟩
    exact ⟨(id, _), (mem_zipIdx_iff_idxOf (nodup_visits _ _)).2 ⟨hid, rfl⟩, rfl⟩

theorem localId_of_mem_nodes {node : ChainNode} (h : node ∈ (store.trace start).nodes) :
    node.localId = Chain.localIdIn (store.trace start).nodeIds node.nodeId := by
  obtain ⟨id, -, rfl⟩ := mem_nodes_trace.1 h
  rw [localId_chainNode, nodeId_chainNode]
  rfl

theorem exists_node_of_mem_nodeIds {id : String} (h : id ∈ (store.trace start).nodeIds) :
    ∃ node ∈ (store.trace start).nodes, node.nodeId = id :=
  ⟨_, mem_nodes_trace.2 ⟨id, h, rfl⟩, nodeId_chainNode _ _⟩

theorem localIds_trace (store : Store) (start : String) :
    (store.trace start).nodes.map (·.localId) =
      (List.range (store.trace start).nodes.length).map Chain.localId := by
  have hlocal : (fun e : String × Nat => (store.chainNode e.1 e.2).localId) =
      Chain.localId ∘ Prod.snd := funext fun e => localId_chainNode e.1 e.2
  change ((List.zipIdx _).map fun e : String × Nat => store.chainNode e.1 e.2).map (·.localId) =
    (List.range ((List.zipIdx _).map _).length).map Chain.localId
  rw [List.map_map, List.length_map, List.length_zipIdx, List.range_eq_range', ← List.zipIdx_map_snd,
    List.map_map]
  exact congrArg (List.map · _) hlocal

/-! ## Arrows -/

theorem mem_arrows {arrow : Arrow} :
    arrow ∈ store.arrows ↔ ∃ r ∈ store.relationships, r.kind.label? = some arrow.label ∧
      store.sourceId r = arrow.source ∧ store.targetId r = arrow.target := by
  simp only [arrows, List.mem_filterMap, SortedSet.mem_toList, arrow?, Option.map_eq_some_iff]
  refine exists_congr fun r => and_congr_right fun _ => ?_
  constructor
  · rintro ⟨label, hlabel, rfl⟩
    exact ⟨hlabel, rfl, rfl⟩
  · rintro ⟨hlabel, hsource, htarget⟩
    exact ⟨arrow.label, hlabel, by rw [hsource, htarget]⟩

/-- **The arrows that leave a node**, each once and in the order in which they are followed. -/
structure Outgoing (store : Store) (id : String) (arrows : List Arrow) : Prop where
  nodup : arrows.Nodup
  mem_iff : ∀ arrow, arrow ∈ arrows ↔ arrow.source = id ∧
    ∃ r ∈ store.relationships, r.kind.label? = some arrow.label ∧
      store.sourceId r = arrow.source ∧ store.targetId r = arrow.target
  ordered : arrows.Pairwise store.TakenBefore

theorem outgoing_leaving (store : Store) (id : String) :
    store.Outgoing id (leaving store.flow id) where
  nodup := store.nodup_flow.filter _
  mem_iff := by
    intro arrow
    rw [mem_leaving, mem_flow, mem_arrows, and_comm]
  ordered := store.pairwise_flow.sublist List.filter_sublist

/-- The edges of a chain are the arrows that leave its nodes. -/
theorem mem_walkFrom_flow {arrow : Arrow} :
    arrow ∈ walkFrom store.flow start ↔
      arrow ∈ store.arrows ∧ arrow.source ∈ (store.trace start).nodeIds := by
  rw [mem_walkFrom, mem_flow, mem_nodeIds_trace, reaches_flow_iff]

theorem target_mem_nodeIds {arrow : Arrow} (h : arrow ∈ walkFrom store.flow start) :
    arrow.target ∈ (store.trace start).nodeIds := by
  rw [nodeIds_trace, visits, List.mem_eraseDups]
  exact List.mem_cons_of_mem _ (List.mem_map.2 ⟨arrow, h, rfl⟩)

/-- **A chain is closed** under the relationships of known kinds. -/
theorem targetId_mem_nodeIds {r : Relationship} (hr : r ∈ store.relationships)
    (hkind : r.kind ≠ .unknown) (hsource : store.sourceId r ∈ (store.trace start).nodeIds) :
    store.targetId r ∈ (store.trace start).nodeIds := by
  rw [mem_nodeIds_trace] at hsource ⊢
  exact hsource.tail (mem_edges.2 ⟨r, hr, hkind, rfl⟩)

end Store

/-! ## Edges -/

/-- An arrow between nodes, as an edge between their local ids. -/
def Arrow.toEdge (nodeIds : List String) (arrow : Arrow) : ChainEdge :=
  ⟨Chain.localIdIn nodeIds arrow.source, Chain.localIdIn nodeIds arrow.target, arrow.label⟩

namespace Store

variable {store : Store} {start : String}

theorem edges_trace (store : Store) (start : String) :
    (store.trace start).edges =
      (walkFrom store.flow start).map (Arrow.toEdge (store.trace start).nodeIds) := by
  rw [nodeIds_trace]
  rfl

theorem nodup_edges_trace (store : Store) (start : String) : (store.trace start).edges.Nodup := by
  rw [edges_trace]
  refine (nodup_walkFrom store.nodup_flow start).map_on fun a ha b hb heq => ?_
  obtain ⟨hsource, htarget, hlabel⟩ := ChainEdge.mk.inj heq
  have hsource := Chain.eq_of_localIdIn (mem_walkFrom_flow.1 ha).2 hsource
  have htarget := Chain.eq_of_localIdIn (target_mem_nodeIds ha) htarget
  cases a; cases b
  simp_all

/-- **The edges of a chain** are the relationships that leave its nodes, drawn between local ids. -/
theorem mem_edges_trace {edge : ChainEdge} :
    edge ∈ (store.trace start).edges ↔
      ∃ u ∈ (store.trace start).nodes, ∃ v ∈ (store.trace start).nodes,
        (∃ r ∈ store.relationships, r.kind.label? = some edge.label ∧
          store.sourceId r = u.nodeId ∧ store.targetId r = v.nodeId) ∧
        edge.source = u.localId ∧ edge.target = v.localId := by
  rw [edges_trace, List.mem_map]
  constructor
  · rintro ⟨arrow, harrow, rfl⟩
    obtain ⟨hmem, hsource⟩ := mem_walkFrom_flow.1 harrow
    obtain ⟨r, hr, hlabel, hrs, hrt⟩ := mem_arrows.1 hmem
    obtain ⟨u, hu, hus⟩ := exists_node_of_mem_nodeIds hsource
    obtain ⟨v, hv, hvt⟩ := exists_node_of_mem_nodeIds (target_mem_nodeIds harrow)
    refine ⟨u, hu, v, hv, ⟨r, hr, hlabel, hrs.trans hus.symm, hrt.trans hvt.symm⟩, ?_, ?_⟩
    · rw [localId_of_mem_nodes hu, hus]
      rfl
    · rw [localId_of_mem_nodes hv, hvt]
      rfl
  · rintro ⟨u, hu, v, hv, ⟨r, hr, hlabel, hrs, hrt⟩, hsource, htarget⟩
    have hid : u.nodeId ∈ (store.trace start).nodeIds := List.mem_map.2 ⟨u, hu, rfl⟩
    refine ⟨⟨u.nodeId, edge.label, v.nodeId⟩, ?_, ?_⟩
    · exact mem_walkFrom_flow.2 ⟨mem_arrows.2 ⟨r, hr, hlabel, hrs, hrt⟩, hid⟩
    · rw [Arrow.toEdge, ← localId_of_mem_nodes hu, ← localId_of_mem_nodes hv, ← hsource, ← htarget]

/-- The first edge to a node is drawn for the first arrow to it. -/
theorem find?_edges_trace (store : Store) (start id : String) :
    (store.trace start).edges.find?
        (·.target = Chain.localIdIn (store.trace start).nodeIds id) =
      ((walkFrom store.flow start).find? (·.target = id)).map
        (Arrow.toEdge (store.trace start).nodeIds) := by
  rw [edges_trace, List.find?_map, ← List.head?_filter, ← List.head?_filter]
  refine congrArg (fun arrows => (List.head? arrows).map _) (List.filter_congr fun arrow harrow => ?_)
  refine decide_eq_decide.2 ⟨Chain.eq_of_localIdIn (target_mem_nodeIds harrow), fun htarget => ?_⟩
  rw [Arrow.toEdge, htarget]

/-- **The first edge to a node comes from a node with a smaller number.** -/
theorem exists_first_edge {place : Nat} (hpos : 0 < place)
    (hlt : place < (store.trace start).nodes.length) :
    ∃ before < place, ∃ label, (store.trace start).edges.find? (·.target = Chain.localId place) =
      some ⟨Chain.localId before, Chain.localId place, label⟩ := by
  have hlt' : place < (store.trace start).nodeIds.length := by rwa [Chain.nodeIds, List.length_map]
  obtain ⟨id, hid⟩ : ∃ id, (store.trace start).nodeIds[place] = id := ⟨_, rfl⟩
  have hplace : (store.trace start).nodeIds.idxOf id = place := by
    rw [← hid]
    exact (store.nodup_nodeIds_trace start).idxOf_getElem place hlt'
  have hne : id ≠ start := by
    rintro rfl
    obtain ⟨expanded, -, hexpanded⟩ := exists_explores_walkFrom store.flow id
    rw [nodeIds_trace, hexpanded, List.idxOf_cons_self] at hplace
    omega
  have hmem : id ∈ visits start (walkFrom store.flow start) := by
    rw [← nodeIds_trace, ← hid]
    exact List.getElem_mem hlt'
  obtain ⟨arrow, hfind, htarget, hidx⟩ := exists_first_arrow hmem hne
  rw [← nodeIds_trace, hplace] at hidx
  have hedge := store.find?_edges_trace start id
  rw [hfind, Option.map_some, Arrow.toEdge, htarget, Chain.localIdIn, Chain.localIdIn, hplace] at hedge
  exact ⟨_, hidx, arrow.label, hedge⟩

end Store

/-! ## The chain of a depth-first exploration -/

/-- **The chain of a depth-first exploration** from a start: it lists every node that the exploration
expands, once and in that order, and every arrow that leaves one of them. -/
structure Chain.DepthFirst (store : Store) (start : String) (chain : Chain) : Prop where
  nodup_nodeIds : chain.nodeIds.Nodup
  head?_nodeIds : chain.nodeIds.head? = some start
  localIds : chain.nodes.map (·.localId) = (List.range chain.nodes.length).map Chain.localId
  nodup_edges : chain.edges.Nodup
  mem_edges : ∀ edge, edge ∈ chain.edges ↔ ∃ u ∈ chain.nodes, ∃ v ∈ chain.nodes,
    (∃ r ∈ store.relationships, r.kind.label? = some edge.label ∧
      store.sourceId r = u.nodeId ∧ store.targetId r = v.nodeId) ∧
    edge.source = u.localId ∧ edge.target = v.localId
  /-- No relationship leads out of the chain. -/
  closed : ∀ r ∈ store.relationships, r.kind ≠ .unknown →
    store.sourceId r ∈ chain.nodeIds → store.targetId r ∈ chain.nodeIds
  /-- Following the arrows of each node in order, an exploration expands the nodes in preorder, and it
  takes the arrows of each node once. -/
  explored : ∃ (out : String → List Arrow) (taken : List Arrow) (expanded : List String),
    (∀ id, store.Outgoing id (out id)) ∧ Explores out [start] (out start) taken expanded ∧
    chain.nodeIds = start :: expanded ∧ chain.edges = taken.map (Arrow.toEdge chain.nodeIds) ∧
    taken.Perm (chain.nodeIds.flatMap out)
  first_edge : ∀ place, 0 < place → place < chain.nodes.length → ∃ before < place, ∃ label,
    chain.edges.find? (·.target = Chain.localId place) =
      some ⟨Chain.localId before, Chain.localId place, label⟩

namespace Store

variable {store : Store} {start : String}

theorem explored_trace (store : Store) (start : String) :
    ∃ (out : String → List Arrow) (taken : List Arrow) (expanded : List String),
      (∀ id, store.Outgoing id (out id)) ∧ Explores out [start] (out start) taken expanded ∧
      (store.trace start).nodeIds = start :: expanded ∧
      (store.trace start).edges = taken.map (Arrow.toEdge (store.trace start).nodeIds) ∧
      taken.Perm ((store.trace start).nodeIds.flatMap out) := by
  obtain ⟨expanded, hexplores, hexpanded⟩ := exists_explores_walkFrom store.flow start
  refine ⟨leaving store.flow, walkFrom store.flow start, expanded, store.outgoing_leaving,
    hexplores, ?_, store.edges_trace start, ?_⟩
  · rw [nodeIds_trace, hexpanded]
  · rw [nodeIds_trace]
    exact walkFrom_perm store.flow start

/-- **Every chain is that of a depth-first exploration**, whatever cycles the graph has. -/
theorem depthFirst_trace (store : Store) (start : String) :
    (store.trace start).DepthFirst store start where
  nodup_nodeIds := store.nodup_nodeIds_trace start
  head?_nodeIds := by
    obtain ⟨-, -, expanded, -, -, hnodes, -⟩ := store.explored_trace start
    rw [hnodes, List.head?_cons]
  localIds := store.localIds_trace start
  nodup_edges := store.nodup_edges_trace start
  mem_edges _ := mem_edges_trace
  closed _ := targetId_mem_nodeIds
  explored := store.explored_trace start
  first_edge _ := exists_first_edge

end Store

/-! ## Links -/

/-- **A chain shows a link** between two nodes of the graph: one of its edges, with this label, joins
their local ids. -/
def Chain.Links (chain : Chain) (source : String) (label : Label) (target : String) : Prop :=
  ∃ u ∈ chain.nodes, ∃ v ∈ chain.nodes, u.nodeId = source ∧ v.nodeId = target ∧
    (⟨u.localId, v.localId, label⟩ : ChainEdge) ∈ chain.edges

namespace Store

variable {store : Store} {start : String}

/-- **A chain shows every relationship that leaves one of its nodes**, and nothing else. -/
theorem links_trace {source target : String} {label : Label} :
    (store.trace start).Links source label target ↔ source ∈ (store.trace start).nodeIds ∧
      ∃ r ∈ store.relationships, r.kind.label? = some label ∧
        store.sourceId r = source ∧ store.targetId r = target := by
  constructor
  · rintro ⟨u, hu, v, hv, rfl, rfl, hedge⟩
    obtain ⟨u', hu', v', hv', hr, hsource, htarget⟩ := mem_edges_trace.1 hedge
    have hmem : u.nodeId ∈ (store.trace start).nodeIds := List.mem_map.2 ⟨u, hu, rfl⟩
    have hmem' : v.nodeId ∈ (store.trace start).nodeIds := List.mem_map.2 ⟨v, hv, rfl⟩
    rw [localId_of_mem_nodes hu, localId_of_mem_nodes hu'] at hsource
    rw [localId_of_mem_nodes hv, localId_of_mem_nodes hv'] at htarget
    rw [Chain.eq_of_localIdIn hmem hsource, Chain.eq_of_localIdIn hmem' htarget]
    exact ⟨List.mem_map.2 ⟨u', hu', rfl⟩, hr⟩
  · rintro ⟨hmem, r, hr, hlabel, rfl, rfl⟩
    have hknown : r.kind ≠ .unknown := by
      rintro hunknown
      rw [hunknown] at hlabel
      exact nomatch hlabel
    obtain ⟨u, hu, hus⟩ := exists_node_of_mem_nodeIds hmem
    obtain ⟨v, hv, hvt⟩ := exists_node_of_mem_nodeIds (targetId_mem_nodeIds hr hknown hmem)
    refine ⟨u, hu, v, hv, hus, hvt, mem_edges_trace.2 ⟨u, hu, v, hv, ?_, rfl, rfl⟩⟩
    exact ⟨r, hr, hlabel, hus.symm, hvt.symm⟩

/-- The labels of a chain are those of the relationships that leave its nodes. -/
theorem mem_labels_trace {label : Label} :
    label ∈ (store.trace start).labels ↔ ∃ r ∈ store.relationships,
      r.kind.label? = some label ∧ store.sourceId r ∈ (store.trace start).nodeIds := by
  rw [Chain.labels, List.mem_map]
  constructor
  · rintro ⟨edge, hedge, rfl⟩
    obtain ⟨u, hu, v, hv, ⟨r, hr, hlabel, hsource, -⟩, -, -⟩ := mem_edges_trace.1 hedge
    exact ⟨r, hr, hlabel, hsource ▸ List.mem_map.2 ⟨u, hu, rfl⟩⟩
  · rintro ⟨r, hr, hlabel, hsource⟩
    obtain ⟨u, hu, v, hv, -, -, hedge⟩ := links_trace.2 ⟨hsource, r, hr, hlabel, rfl, rfl⟩
    exact ⟨_, hedge, rfl⟩

end Store

end DomainFlow
