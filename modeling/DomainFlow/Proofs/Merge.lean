import DomainFlow.Proofs.Ordered
import DomainFlow.Store

/-!
# Merging contributions

Merging a list of contributions adds the entries of all of them to the declared part of the store
and derives nodes once, at the end: what an earlier merge derived leaves no trace. Entries may be
added in any order and any number of times, so the merged store depends only on which contributions
there are.

## Main definitions

* `Entry`, `Delta.entries`: the single entries of a contribution
* `Store.addEntry`: adding one of them
* `Store.settled`: a store without its derived nodes

## Main results

* `Store.settled_mergeAll`: on the settled store, merging only adds entries
* `Store.derive_mergeAll`: a merged store is what its settled store derives
* `Store.mergeAll_eq_of_mem_iff`: merging depends on the set of contributions
-/

namespace DomainFlow

/-- **A single entry of a contribution.** -/
inductive Entry
  | node (node : Node)
  | relationship (relationship : Relationship)
  | owner (fact : OwnershipFact)
  | fingerprint (fingerprint : String)

/-- The entries of a contribution, in the order in which a merge adds them. -/
def Delta.entries (delta : Delta) : List Entry :=
  delta.nodes.map .node ++ delta.relationships.map .relationship ++ delta.ownership.map .owner ++
    [.fingerprint delta.fingerprint]

/-! ## Declarations of one node -/

namespace Node

instance : Std.TransCmp order :=
  inferInstanceAs (Std.TransCmp (compareLex (compareOn kind) (compareOn name)))

theorem precedes_trans (a b c : Node) (hab : a.precedes b = true) (hbc : b.precedes c = true) :
    a.precedes c = true := by
  simp only [precedes, decide_eq_true_eq] at *
  exact Std.TransCmp.lt_trans hab hbc

theorem precedes_asymm (a b : Node) (h : a.precedes b = true) : b.precedes a = false := by
  simp only [precedes, decide_eq_true_eq, decide_eq_false_iff_not] at *
  rw [Std.OrientedCmp.gt_of_lt h]
  nofun

/-- Declarations of one id are equal if neither precedes the other. -/
theorem eq_of_not_precedes {a b : Node} (hid : a.id = b.id) (hab : a.precedes b = false)
    (hba : b.precedes a = false) : a = b := by
  simp only [precedes, decide_eq_false_iff_not] at hab hba
  have heq : order a b = .eq := by
    cases h : order a b with
    | lt => exact absurd h hab
    | eq => rfl
    | gt => exact absurd (Std.OrientedCmp.lt_of_gt h) hba
  simp only [order, compareLex_eq_eq, compareOn, Std.compare_eq_iff_eq] at heq
  cases a; cases b
  simp_all

end Node

theorem get?_nodeMap (nodes : List Node) (id : String) :
    (nodeMap nodes).get? id = nodes.find? (·.id = id) :=
  SortedMap.get?_ofFirst_keyed Node.id nodes id

namespace Store

theorem chooseNode_eq_least (present : Option Node) (node : Node) :
    chooseNode present node = least Node.precedes present node := by
  cases present <;> rfl

theorem chooseNode_comm {a b : Node} (hid : a.id = b.id) (present : Option Node) :
    chooseNode (some (chooseNode present a)) b = chooseNode (some (chooseNode present b)) a := by
  simp only [chooseNode_eq_least]
  exact least_right_comm Node.precedes_trans Node.precedes_asymm
    (fun hab hba => Node.eq_of_not_precedes hid hab hba) present

theorem chooseNode_idem (present : Option Node) (node : Node) :
    chooseNode (some (chooseNode present node)) node = chooseNode present node := by
  simp only [chooseNode_eq_least]
  exact least_idem Node.precedes_asymm present node

theorem chooseOwner_eq_least (present : Option String) (owner : String) :
    chooseOwner present owner = least (fun a b => decide (a < b)) present owner := by
  cases present <;> simp [chooseOwner, least]

theorem decide_lt_asymm (a b : String) (h : decide (a < b) = true) : decide (b < a) = false :=
  decide_eq_false (String.lt_asymm (of_decide_eq_true h))

theorem chooseOwner_comm (present : Option String) (a b : String) :
    chooseOwner (some (chooseOwner present a)) b = chooseOwner (some (chooseOwner present b)) a := by
  simp only [chooseOwner_eq_least]
  refine least_right_comm ?_ decide_lt_asymm ?_ present
  · intro x y z hxy hyz
    exact decide_eq_true (String.lt_trans (of_decide_eq_true hxy) (of_decide_eq_true hyz))
  · intro hab hba
    exact String.le_antisymm (String.not_lt.1 (of_decide_eq_false hba))
      (String.not_lt.1 (of_decide_eq_false hab))

theorem chooseOwner_idem (present : Option String) (owner : String) :
    chooseOwner (some (chooseOwner present owner)) owner = chooseOwner present owner := by
  simp only [chooseOwner_eq_least]
  exact least_idem decide_lt_asymm present owner

/-! ## The declared nodes -/

theorem get?_declared (store : Store) (id : String) :
    store.declared.get? id = if id ∈ store.derived then none else store.nodes.get? id := by
  rw [declared, SortedMap.get?_filter]
  by_cases h : id ∈ store.derived
  · have hc : store.derived.contains id = true := h
    cases hn : store.nodes.get? id <;> simp [h, hc, Option.filter]
  · have hc : store.derived.contains id = false := Bool.eq_false_iff.2 h
    cases hn : store.nodes.get? id <;> simp [h, hc, Option.filter]

/-- Adding a node settles, among the declared nodes, which declaration counts. A derived node that
it replaces was none of them. -/
theorem declared_addNode (store : Store) (node : Node) :
    (store.addNode node).declared =
      store.declared.alter node.id fun present => some (chooseNode present node) := by
  apply SortedMap.ext_get?
  intro id
  rw [SortedMap.get?_alter, get?_declared store node.id, addNode]
  by_cases hnode : node.id ∈ store.derived
  · by_cases hid : id = node.id
    · simp [get?_declared, hnode, hid, chooseNode]
    · simp [get?_declared, hnode, hid]
  · by_cases hid : id = node.id
    · simp [get?_declared, hnode, hid, SortedMap.get?_alter]
    · simp [get?_declared, hnode, hid, SortedMap.get?_alter]

/-- **The store without its derived nodes.** -/
def settled (store : Store) : Store := { store with nodes := store.declared, derived := ∅ }

theorem declared_settled (store : Store) : store.settled.declared = store.declared := by
  apply SortedMap.ext_get?
  intro id
  rw [get?_declared, settled, if_neg (SortedSet.not_mem_empty id)]

/-! ## Derived nodes -/

theorem mem_keys_missingNodes {nodes : SortedMap String Node} {relationships : List Relationship}
    {id : String} :
    id ∈ (missingNodes nodes relationships).keys ↔
      (∃ r ∈ relationships, ∃ endpoint ∈ r.endpoints, ∃ node,
        methodNode? nodes endpoint = some node ∧ node.id = id) ∧ nodes.contains id = false := by
  rw [SortedMap.mem_keys_iff, SortedMap.contains, missingNodes, get?_nodeMap, List.find?_isSome]
  simp only [List.mem_filter, List.mem_filterMap, List.mem_flatMap, decide_eq_true_eq,
    Bool.not_eq_true']
  constructor
  · rintro ⟨node, ⟨⟨endpoint, ⟨r, hr, he⟩, hnode⟩, hnew⟩, rfl⟩
    exact ⟨⟨r, hr, endpoint, he, node, hnode, rfl⟩, hnew⟩
  · rintro ⟨⟨r, hr, endpoint, he, node, hnode, rfl⟩, hnew⟩
    exact ⟨node, ⟨⟨endpoint, ⟨r, hr, he⟩, hnode⟩, hnew⟩, rfl⟩

/-- Deriving nodes leaves the declared ones as they are. -/
theorem declared_derive (store : Store) : store.derive.declared = store.declared := by
  apply SortedMap.ext_get?
  intro id
  rw [get?_declared]
  simp only [derive, SortedSet.mem_ofList, SortedMap.get?_orElse]
  by_cases h : id ∈ (missingNodes store.declared store.relationships.toList).keys
  · have hnone : store.declared.get? id = none := by
      simpa [SortedMap.contains] using (mem_keys_missingNodes.1 h).2
    simp [h, hnone]
  · have hnone : (missingNodes store.declared store.relationships.toList).get? id = none := by
      simpa [SortedMap.mem_keys_iff, SortedMap.contains] using h
    simp [h, hnone]

theorem settled_derive (store : Store) : store.derive.settled = store.settled := by
  rw [settled, declared_derive]
  rfl

theorem derive_settled (store : Store) : store.settled.derive = store.derive := by
  rw [derive, derive, declared_settled]
  rfl

/-- A store that derived its nodes is what its settled store derives. -/
theorem derive_derive (store : Store) : store.derive.derive = store.derive := by
  rw [← derive_settled store.derive, settled_derive, derive_settled]

/-! ## Entries -/

/-- Adds an entry to a store without derived nodes. -/
def addEntry (store : Store) : Entry → Store
  | .node node =>
    { store with nodes := store.nodes.alter node.id fun present => some (chooseNode present node) }
  | .relationship r => store.addRelationship r
  | .owner fact => store.addOwner fact
  | .fingerprint fingerprint => store.addFingerprint fingerprint

/-- **Entries may be added in any order.** -/
theorem addEntry_comm (store : Store) (a b : Entry) :
    (store.addEntry a).addEntry b = (store.addEntry b).addEntry a := by
  cases a <;> cases b <;> simp only [addEntry, addRelationship, addOwner, addFingerprint]
  case node.node a b => rw [SortedMap.alter_comm fun h o => congrArg some (chooseNode_comm h o)]
  case relationship.relationship a b => rw [SortedSet.insert_comm]
  case owner.owner a b =>
    rw [SortedMap.alter_comm fun _ o => congrArg some (chooseOwner_comm o _ _)]
  case fingerprint.fingerprint a b =>
    by_cases ha : a = "" <;> by_cases hb : b = "" <;> simp [ha, hb, SortedSet.insert_comm]
  -- entries of two sorts change different fields
  all_goals split <;> rfl

/-- **Adding an entry again changes nothing.** -/
theorem addEntry_idem (store : Store) (entry : Entry) :
    (store.addEntry entry).addEntry entry = store.addEntry entry := by
  cases entry with
  | node node =>
    simp only [addEntry]
    rw [SortedMap.alter_idem fun o => congrArg some (chooseNode_idem o node)]
  | relationship r =>
    simp only [addEntry, addRelationship]
    rw [SortedSet.insert_idem]
  | owner fact =>
    simp only [addEntry, addOwner]
    rw [SortedMap.alter_idem fun o => congrArg some (chooseOwner_idem o fact.ownerAggregate)]
  | fingerprint fingerprint =>
    by_cases h : fingerprint = "" <;> simp [addEntry, addFingerprint, h, SortedSet.insert_idem]

/-! ## Merging on the settled store -/

theorem settled_addNode (store : Store) (node : Node) :
    (store.addNode node).settled = store.settled.addEntry (.node node) := by
  have hkeep : (store.addNode node).relationships = store.relationships ∧
      (store.addNode node).ownership = store.ownership ∧
      (store.addNode node).mergedBatches = store.mergedBatches := by
    rw [addNode]
    split <;> exact ⟨rfl, rfl, rfl⟩
  obtain ⟨hrel, hown, hbatches⟩ := hkeep
  rw [settled, declared_addNode, hrel, hown, hbatches]
  rfl

theorem settled_addFingerprint (store : Store) (fingerprint : String) :
    (store.addFingerprint fingerprint).settled = store.settled.addFingerprint fingerprint := by
  rw [addFingerprint, addFingerprint]
  split <;> rfl

theorem settled_foldl {α : Type} (f : Store → α → Store) (g : α → Entry)
    (h : ∀ store a, (f store a).settled = store.settled.addEntry (g a)) (l : List α)
    (store : Store) : (l.foldl f store).settled = (l.map g).foldl addEntry store.settled := by
  induction l generalizing store with
  | nil => rfl
  | cons a rest ih =>
    rw [List.foldl_cons, List.map_cons, List.foldl_cons, ih, h]

/-- On the settled store, a contribution adds its entries. -/
theorem settled_add (store : Store) (delta : Delta) :
    (store.add delta).settled = delta.entries.foldl addEntry store.settled := by
  simp only [add, Delta.entries, List.foldl_append, List.foldl_cons, List.foldl_nil]
  rw [settled_addFingerprint, settled_foldl addOwner .owner fun _ _ => rfl,
    settled_foldl addRelationship .relationship fun _ _ => rfl,
    settled_foldl addNode .node settled_addNode]
  rfl

theorem settled_merge (store : Store) (delta : Delta) :
    (store.merge delta).settled = delta.entries.foldl addEntry store.settled := by
  rw [merge, settled_derive, settled_add]

/-- **On the settled store, merging adds the entries of all contributions.** -/
theorem settled_mergeAll (store : Store) (deltas : List Delta) :
    (store.mergeAll deltas).settled =
      (deltas.flatMap Delta.entries).foldl addEntry store.settled := by
  induction deltas generalizing store with
  | nil => rfl
  | cons delta rest ih =>
    -- what this merge derives is settled away by the next one
    have step := ih (store.merge delta)
    rwa [settled_merge, ← List.foldl_append] at step

/-- **A merged store is what its settled store derives.** -/
theorem derive_mergeAll (store : Store) {deltas : List Delta} (h : deltas ≠ []) :
    (store.mergeAll deltas).derive = store.mergeAll deltas := by
  obtain ⟨rest, last, rfl⟩ := List.eq_nil_or_concat deltas |>.resolve_left h
  have hlast : store.mergeAll (rest.concat last) = ((store.mergeAll rest).add last).derive := by
    simp [mergeAll, merge]
  rw [hlast, derive_derive]

theorem derive_ofDeltas (deltas : List Delta) : (ofDeltas deltas).derive = ofDeltas deltas := by
  by_cases h : deltas = []
  · subst h
    rfl
  · exact derive_mergeAll ∅ h

/-! ## What a merged store holds -/

theorem mem_relationships_foldl_addEntry {entries : List Entry} {store : Store} {r : Relationship} :
    r ∈ (entries.foldl addEntry store).relationships ↔
      r ∈ store.relationships ∨ .relationship r ∈ entries := by
  induction entries generalizing store with
  | nil => simp
  | cons entry rest ih =>
    rw [List.foldl_cons, ih]
    cases entry with
    | node node => simp [addEntry]
    | relationship r' => simp [addEntry, addRelationship, or_left_comm, or_assoc]
    | owner fact => simp [addEntry, addOwner]
    | fingerprint fingerprint =>
      by_cases h : fingerprint = "" <;> simp [addEntry, addFingerprint, h]

theorem contains_nodes_foldl_addEntry {entries : List Entry} {store : Store} {id : String} :
    (entries.foldl addEntry store).nodes.contains id = true ↔
      store.nodes.contains id = true ∨ ∃ node, .node node ∈ entries ∧ node.id = id := by
  induction entries generalizing store with
  | nil => simp
  | cons entry rest ih =>
    rw [List.foldl_cons, ih]
    cases entry with
    | node node =>
      have hstep : (store.addEntry (.node node)).nodes.contains id = true ↔
          id = node.id ∨ store.nodes.contains id = true := by
        by_cases h : id = node.id <;> simp [addEntry, SortedMap.contains, SortedMap.get?_alter, h]
      rw [hstep]
      constructor
      · rintro ((rfl | h) | ⟨other, h, rfl⟩)
        · exact .inr ⟨node, by simp, rfl⟩
        · exact .inl h
        · exact .inr ⟨other, by simp [h], rfl⟩
      · rintro (h | ⟨other, h, rfl⟩)
        · exact .inl (.inr h)
        · rcases List.mem_cons.1 h with h | h
          · cases h
            exact .inl (.inl rfl)
          · exact .inr ⟨other, h, rfl⟩
    | relationship r => simp [addEntry, addRelationship]
    | owner fact => simp [addEntry, addOwner]
    | fingerprint fingerprint =>
      by_cases h : fingerprint = "" <;> simp [addEntry, addFingerprint, h]

theorem mem_entries_relationship {delta : Delta} {r : Relationship} :
    .relationship r ∈ delta.entries ↔ r ∈ delta.relationships := by
  simp [Delta.entries]

theorem mem_entries_node {delta : Delta} {node : Node} :
    .node node ∈ delta.entries ↔ node ∈ delta.nodes := by
  simp [Delta.entries]

/-- **A merge keeps every relationship** and adds those of the contributions. -/
theorem mem_relationships_mergeAll {store : Store} {deltas : List Delta} {r : Relationship} :
    r ∈ (store.mergeAll deltas).relationships ↔
      r ∈ store.relationships ∨ ∃ delta ∈ deltas, r ∈ delta.relationships := by
  change r ∈ (store.mergeAll deltas).settled.relationships ↔ _
  rw [settled_mergeAll, mem_relationships_foldl_addEntry]
  simp only [List.mem_flatMap, mem_entries_relationship]
  rfl

/-- **A merge keeps every declared node** and declares those of the contributions. -/
theorem contains_declared_mergeAll {store : Store} {deltas : List Delta} {id : String} :
    (store.mergeAll deltas).declared.contains id = true ↔
      store.declared.contains id = true ∨
        ∃ delta ∈ deltas, ∃ node ∈ delta.nodes, node.id = id := by
  change (store.mergeAll deltas).settled.nodes.contains id = true ↔ _
  rw [settled_mergeAll, contains_nodes_foldl_addEntry]
  refine or_congr Iff.rfl ?_
  simp only [List.mem_flatMap, mem_entries_node]
  constructor
  · rintro ⟨node, ⟨delta, hdelta, hnode⟩, hid⟩
    exact ⟨delta, hdelta, node, hnode, hid⟩
  · rintro ⟨delta, hdelta, node, hnode, hid⟩
    exact ⟨node, ⟨delta, hdelta, hnode⟩, hid⟩

theorem contains_of_contains_declared {store : Store} {id : String}
    (h : store.declared.contains id = true) : store.nodes.contains id = true := by
  obtain ⟨node, hnode⟩ := SortedMap.contains_iff.1 h
  rw [get?_declared] at hnode
  split at hnode
  · cases hnode
  · exact SortedMap.contains_iff.2 ⟨node, hnode⟩

/-! ## Order and repetition -/

/-- **Merging depends on the set of contributions only**, whatever store it starts from: neither
their order nor their repetition matters. -/
theorem mergeAll_eq_of_mem_iff (store : Store) {deltas deltas' : List Delta} (hne : deltas ≠ [])
    (hne' : deltas' ≠ []) (h : ∀ delta, delta ∈ deltas ↔ delta ∈ deltas') :
    store.mergeAll deltas = store.mergeAll deltas' := by
  have hentries : ∀ entry, entry ∈ deltas.flatMap Delta.entries ↔
      entry ∈ deltas'.flatMap Delta.entries := by
    intro entry
    simp only [List.mem_flatMap, h]
  have hsettled : (store.mergeAll deltas).settled = (store.mergeAll deltas').settled := by
    rw [settled_mergeAll, settled_mergeAll,
      foldl_eq_of_mem_iff addEntry_comm addEntry_idem hentries store.settled]
  calc store.mergeAll deltas
      = (store.mergeAll deltas).settled.derive := by rw [derive_settled, derive_mergeAll store hne]
    _ = (store.mergeAll deltas').settled.derive := by rw [hsettled]
    _ = store.mergeAll deltas' := by rw [derive_settled, derive_mergeAll store hne']

/-- A contribution in which the type `X` sends a command but carries no methods. -/
def relayDelta : Delta where
  source := "relay"
  fingerprint := "r"
  nodes := [⟨"Go", "Go", .command⟩, ⟨"X", "X", .integrationEvent⟩]
  relationships := [⟨⟨"X", "Post"⟩, ⟨"Go", ""⟩, .methodToCommand⟩]
  ownership := []
  diagnostics := ⟨0, 0, []⟩

/-- A contribution in which `X` is an aggregate. -/
def aggregateDelta : Delta where
  source := "domain"
  fingerprint := "d"
  nodes := [⟨"X", "X", .aggregate⟩]
  relationships := []
  ownership := [⟨"X", "Y"⟩]
  diagnostics := ⟨0, 0, []⟩

/-- A store that takes `X` for derived, under the id of another node. -/
def staleStore : Store where
  nodes := .ofFirst [("X", ⟨"Y", "Y", .controller⟩)]
  relationships := ∅
  ownership := .ofFirst [("X", "Z")]
  mergedBatches := ∅
  derived := .ofList ["X", "Z"]

theorem mergeAll_relayDelta_aggregateDelta :
    [relayDelta, aggregateDelta] ≠ [] ∧ [aggregateDelta, relayDelta, aggregateDelta] ≠ [] ∧
      (∀ delta, delta ∈ [relayDelta, aggregateDelta] ↔
        delta ∈ [aggregateDelta, relayDelta, aggregateDelta]) ∧
      staleStore.mergeAll [relayDelta, aggregateDelta] =
        staleStore.mergeAll [aggregateDelta, relayDelta, aggregateDelta] := by
  have hsame : ∀ delta, delta ∈ [relayDelta, aggregateDelta] ↔
      delta ∈ [aggregateDelta, relayDelta, aggregateDelta] := by
    intro delta
    simp only [List.mem_cons, List.not_mem_nil, or_false]
    exact ⟨fun h => h.elim (fun h => .inr (.inl h)) .inl,
      fun h => h.elim .inr fun h => h.elim .inl .inr⟩
  exact ⟨nofun, nofun, hsame, mergeAll_eq_of_mem_iff staleStore nofun nofun hsame⟩

end Store

end DomainFlow
