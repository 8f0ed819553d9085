import Mathlib.Algebra.BigOperators.Group.Finset.Basic
import DomainFlow.Export
import DomainFlow.Proofs.Contents
import DomainFlow.Proofs.StoreContent

/-!
# Exported documents are read back

The document of a graph lists nodes and relationships, gives the owners by entity, and says how many
there are of each. Reading it gives all of this back, and the numbers can be checked against the lists:
a kind is counted if and only if it occurs, with the number of its entries, so the counts add up to the
length of the list. In a store that was built by merges every node stands under its own id. The list of
nodes is then in the order of the ids, and it is all that there is to know of the nodes.

## Main definitions

* `GraphDocument`, `ChainsDocument`: what the documents say, with readers of their texts
* `Tallies`: numbers by kind that fit a list
* `GraphDocument.IsConsistent`: a document whose numbers fit its lists

## Main results

* `GraphDocument.parse?_graphDocument`, `ChainsDocument.parse?_chainsDocument`: documents are read back
* `Store.tallies_tally`: the counts of a list fit it
* `Store.id_of_node?_ofDeltas`: in a merged store a node stands under its own id
* `Exports.parse?_texts`: what the exported texts of a merged store say
-/

namespace DomainFlow

/-! ## Chains -/

theorem EntryPoint.ofJson?_toJson (entry : EntryPoint) :
    EntryPoint.ofJson? entry.toJson = some entry := by
  have hfields : entry.toJson.fields? ["node_id", "entry_type", "reasoning"] 3 =
      some [some (.text entry.nodeId), some (.text entry.kind.name),
        some (.text entry.reasoning)] := rfl
  rw [EntryPoint.ofJson?, hfields]
  simp [EntryKind.ofName?_name]

theorem ChainNode.ofJson?_toJson (node : ChainNode) :
    ChainNode.ofJson? node.toJson = some node := by
  have hfields : node.toJson.fields? ["local_id", "node_id", "name", "kind"] 4 =
      some [some (.text node.localId), some (.text node.nodeId), some (.text node.name),
        some (.ofOption (fun kind : NodeKind => .text kind.name) node.kind)] := rfl
  have hnull (kind : NodeKind) : Json.text kind.name ≠ .null := nofun
  have hkind : Json.nullable? (fun j => j.name?.bind NodeKind.ofName?)
      (.ofOption (fun kind : NodeKind => .text kind.name) node.kind) = some node.kind :=
    Json.nullable?_ofOption NodeKind.ofName?_name hnull node.kind
  rw [ChainNode.ofJson?, hfields]
  simp [Json.orDefault, hkind]

theorem ChainEdge.ofJson?_toJson (edge : ChainEdge) :
    ChainEdge.ofJson? edge.toJson = some edge := by
  have hfields : edge.toJson.fields? ["from", "to", "label"] 3 =
      some [some (.text edge.source), some (.text edge.target),
        some (.text edge.label.name)] := rfl
  rw [ChainEdge.ofJson?, hfields]
  simp [Label.ofName?_name]

/-- **A chain is read back.** -/
theorem Chain.ofJson?_toJson (chain : Chain) : Chain.ofJson? chain.toJson = some chain := by
  have hfields : chain.toJson.fields? ["name", "entry_point", "nodes", "edges"] 4 =
      some [some (.text chain.name), some (.ofOption EntryPoint.toJson chain.entryPoint),
        some (.ofList ChainNode.toJson chain.nodes),
        some (.ofList ChainEdge.toJson chain.edges)] := rfl
  have hentry := Json.nullable?_ofOption EntryPoint.ofJson?_toJson nofun chain.entryPoint
  have hnodes := Json.list?_ofList ChainNode.ofJson?_toJson chain.nodes
  have hedges := Json.list?_ofList ChainEdge.ofJson?_toJson chain.edges
  rw [Chain.ofJson?, hfields]
  simp [Json.orDefault, hentry, hnodes, hedges]

theorem Chain.written_toJson (chain : Chain) : chain.toJson.Written := by
  have hentry (entry : EntryPoint) : entry.toJson.Written :=
    Json.written_object (by simp [Json.written_text])
  have hkind (kind : NodeKind) : (Json.text kind.name).Written := Json.written_text _
  have hnode (node : ChainNode) : node.toJson.Written :=
    Json.written_object (by simp [Json.written_text, Json.written_ofOption hkind])
  have hedge (edge : ChainEdge) : edge.toJson.Written :=
    Json.written_object (by simp [Json.written_text])
  exact Json.written_object (by
    simp [Json.written_text, Json.written_ofOption hentry, Json.written_ofList fun n _ => hnode n,
      Json.written_ofList fun e _ => hedge e])

/-! ## Metadata -/

/-- The metadata of a JSON form. -/
def Metadata.ofJson? (j : Json) : Option Metadata := do
  let [project, generatedAt, fingerprint] ← j.fields? ["project", "generated_at", "fingerprint"] 3
    | none
  some {
    project := ← Json.required Json.text? project
    generatedAt := ← Json.required Json.text? generatedAt
    fingerprint := ← Json.required Json.text? fingerprint }

theorem Metadata.ofJson?_toJson (metadata : Metadata) :
    Metadata.ofJson? metadata.toJson = some metadata := by
  have hfields : metadata.toJson.fields? ["project", "generated_at", "fingerprint"] 3 =
      some [some (.text metadata.project), some (.text metadata.generatedAt),
        some (.text metadata.fingerprint)] := rfl
  rw [Metadata.ofJson?, hfields]
  simp

theorem Metadata.written_toJson (metadata : Metadata) : metadata.toJson.Written :=
  Json.written_object (by simp [Json.written_text])

/-! ## Maps -/

/-- **A map is read back.** -/
theorem SortedMap.ofJson?_toJson {β : Type} {write : β → Json} {read : Json → Option β}
    (h : ∀ b, read (write b) = some b) (m : SortedMap String β) :
    SortedMap.ofJson? read (m.toJson write) = some m := by
  rw [ofJson?, toJson, Json.entries?_object h, Option.map_some, ofLast_entries]

/-! ## Numbers -/

theorem Json.nat?_nat (n : Nat) : (Json.nat n).nat? = some n := by
  have hdigits : (Nat.toDigits 10 n).all Char.isDigit = true :=
    List.all_eq_true.2 fun _ hc => Nat.isDigit_of_mem_toDigits (by decide) (by decide) hc
  rw [nat, nat?, String.toList_ofList, if_pos ⟨Nat.toDigits_ne_nil, hdigits⟩,
    Nat.ofDigitChars_toDigits (by decide) (by decide)]

namespace Store

section Counts

variable {κ : Type}

/-- The numbers by kind of a JSON form. -/
def countsOfJson? (ofName? : String → Option κ) (j : Json) : Option (List (κ × Nat)) := do
  (← j.entries? Json.nat?).mapM fun (name, n) => (ofName? name).map (·, n)

theorem countsOfJson?_countsJson {name : κ → String} {ofName? : String → Option κ}
    (h : ∀ kind, ofName? (name kind) = some kind) (counts : List (κ × Nat)) :
    countsOfJson? ofName? (countsJson name counts) = some counts := by
  have hentries : (countsJson name counts).entries? Json.nat? =
      some (counts.map fun e => (name e.1, e.2)) := by
    rw [← Json.entries?_object Json.nat?_nat, List.map_map]
    rfl
  rw [countsOfJson?, hentries, Option.bind_eq_bind, Option.bind_some]
  exact Json.mapM_map_of_read (fun e => by simp [h]) counts

theorem written_countsJson (name : κ → String) (counts : List (κ × Nat)) :
    (countsJson name counts).Written :=
  Json.written_object (List.forall_mem_map.2 fun _ _ => Json.written_nat _)

end Counts

/-- The numbers of a JSON form. -/
def Statistics.ofJson? (j : Json) : Option Statistics := do
  let [nodes, relationships, ownedEntities, mergedBatches, nodesByKind, relationshipsByKind] ←
    j.fields? ["total_nodes", "total_relationships", "owned_entities", "merged_batches",
      "nodes_by_kind", "relationships_by_kind"] 6 | none
  some {
    nodes := ← Json.required Json.nat? nodes
    relationships := ← Json.required Json.nat? relationships
    ownedEntities := ← Json.required Json.nat? ownedEntities
    mergedBatches := ← Json.required Json.nat? mergedBatches
    nodesByKind := ← Json.required (countsOfJson? NodeKind.ofName?) nodesByKind
    relationshipsByKind :=
      ← Json.required (countsOfJson? RelationshipKind.ofName?) relationshipsByKind }

/-- **The numbers are read back.** -/
theorem Statistics.ofJson?_toJson (statistics : Statistics) :
    Statistics.ofJson? statistics.toJson = some statistics := by
  have hfields : statistics.toJson.fields? ["total_nodes", "total_relationships",
      "owned_entities", "merged_batches", "nodes_by_kind", "relationships_by_kind"] 6 =
      some [some (.nat statistics.nodes), some (.nat statistics.relationships),
        some (.nat statistics.ownedEntities), some (.nat statistics.mergedBatches),
        some (countsJson NodeKind.name statistics.nodesByKind),
        some (countsJson RelationshipKind.name statistics.relationshipsByKind)] := rfl
  have hnodes := countsOfJson?_countsJson NodeKind.ofName?_name statistics.nodesByKind
  have hrelationships :=
    countsOfJson?_countsJson RelationshipKind.ofName?_name statistics.relationshipsByKind
  rw [Statistics.ofJson?, hfields]
  simp [Json.nat?_nat, hnodes, hrelationships]

theorem Statistics.written_toJson (statistics : Statistics) : statistics.toJson.Written :=
  Json.written_object (by simp [Json.written_nat, written_countsJson])

end Store

/-! ## Counts -/

/-- **Numbers by kind that fit a list**: they are in the order of the kinds, a kind has a number if and
only if it occurs, namely the number of its entries, and the numbers add up to the length of the
list. -/
structure Tallies {α κ : Type} [Ord κ] [DecidableEq κ] (kindOf : α → κ) (l : List α)
    (counts : List (κ × Nat)) : Prop where
  increasing : counts.Pairwise fun a b => compare a.1 b.1 = .lt
  mem_iff : ∀ kind n, (kind, n) ∈ counts ↔ n = l.countP (kindOf · = kind) ∧ ∃ a ∈ l, kindOf a = kind
  sum : (counts.map (·.2)).sum = l.length

namespace Store

section Tally

variable {κ : Type} [DecidableEq κ]

theorem mem_tally {values l : List κ} {a : κ} {n : Nat} :
    (a, n) ∈ tally values l ↔ a ∈ values ∧ n = l.count a ∧ a ∈ l := by
  simp only [tally, List.mem_filter, List.mem_map, Prod.mk.injEq, decide_eq_true_eq]
  constructor
  · rintro ⟨⟨_, hvalue, rfl, rfl⟩, hne⟩
    exact ⟨hvalue, rfl, List.count_pos_iff.1 (Nat.pos_of_ne_zero hne)⟩
  · rintro ⟨hvalue, rfl, hmem⟩
    exact ⟨⟨a, hvalue, rfl, rfl⟩, (List.count_pos_iff.2 hmem).ne'⟩

/-- Kinds that do not occur add nothing to a sum of counts. -/
theorem sum_tally_eq_sum_count (values l : List κ) :
    ((tally values l).map (·.2)).sum = (values.map fun a => l.count a).sum := by
  rw [tally]
  induction values with
  | nil => rfl
  | cons a values ih =>
    rw [List.map_cons, List.filter_cons]
    split
    · rw [List.map_cons, List.sum_cons, ih, List.map_cons, List.sum_cons]
    · next h =>
      have hzero : l.count a = 0 := by simpa using h
      rw [ih, List.map_cons, List.sum_cons, hzero, Nat.zero_add]

theorem sum_tally {values l : List κ} (hnodup : values.Nodup) (h : ∀ a ∈ l, a ∈ values) :
    ((tally values l).map (·.2)).sum = l.length := by
  have hcard : ∑ a ∈ values.toFinset, (l : Multiset κ).count a = (l : Multiset κ).card :=
    Multiset.sum_count_eq_card fun a ha => List.mem_toFinset.2 (h a ha)
  calc ((tally values l).map (·.2)).sum
      = (values.map fun a => l.count a).sum := sum_tally_eq_sum_count values l
    _ = ∑ a ∈ values.toFinset, l.count a := (List.sum_toFinset _ hnodup).symm
    _ = l.length := by simpa only [Multiset.coe_count, Multiset.coe_card] using hcard

/-- **The counts of a list fit it**, provided that all kinds are asked for in their order. -/
theorem tallies_tally {α : Type} [Ord κ] [Std.LawfulEqOrd κ] {values : List κ}
    (hvalues : values.Pairwise fun a b => compare a b = .lt) (hall : ∀ a, a ∈ values)
    (kindOf : α → κ) (l : List α) : Tallies kindOf l (tally values (l.map kindOf)) where
  increasing := by
    refine List.Pairwise.filter _ ?_
    exact List.pairwise_map.2 hvalues
  mem_iff kind n := by
    rw [mem_tally, and_iff_right (hall kind), List.mem_map, List.count, List.countP_map]
    rfl
  sum := by
    rw [sum_tally (hvalues.imp SortedMap.ne_of_compare_lt) fun a _ => hall a, List.length_map]

end Tally

/-- The numbers of a store fit its nodes and its relationships. -/
theorem tallies_nodesByKind (store : Store) :
    Tallies Node.kind store.nodes.values store.statistics.nodesByKind :=
  tallies_tally (by decide) (fun kind => by cases kind <;> decide) _ _

theorem tallies_relationshipsByKind (store : Store) :
    Tallies Relationship.kind store.relationships.toList store.statistics.relationshipsByKind :=
  tallies_tally (by decide) (fun kind => by cases kind <;> decide) _ _

/-! ## Nodes by id -/

variable {deltas : List Delta} {id : String} {node : Node}

/-- **In a merged store a node stands under its own id**, be it declared or derived. -/
theorem id_of_node?_ofDeltas (h : (ofDeltas deltas).node? id = some node) : node.id = id := by
  rw [← derive_ofDeltas, node?, get?_nodes_derive, Option.or_eq_some_iff] at h
  rcases h with hdeclared | ⟨-, hmissing⟩
  · obtain ⟨-, -, -, hid⟩ := (get?_declared_ofDeltas_iff.1 hdeclared).holds
    exact hid
  · rw [missingNodes, get?_nodeMap] at hmissing
    simpa using List.find?_some hmissing

/-- The nodes of a merged store are all that its map of nodes says. -/
theorem entries_nodes_ofDeltas (deltas : List Delta) :
    (ofDeltas deltas).nodes.entries =
      (ofDeltas deltas).nodes.values.map fun node => (node.id, node) := by
  have hentry : ∀ e ∈ (ofDeltas deltas).nodes.entries, (e.2.id, e.2) = e := by
    rintro ⟨id, node⟩ he
    rw [id_of_node?_ofDeltas (SortedMap.mem_entries_iff.1 he)]
  rw [SortedMap.values, List.map_map]
  exact ((List.map_congr_left hentry).trans (List.map_id' _)).symm

/-- The nodes of a merged store are in the order of their ids. -/
theorem pairwise_nodes_ofDeltas (deltas : List Delta) :
    (ofDeltas deltas).nodes.values.Pairwise fun a b => compare a.id b.id = .lt := by
  have hincreasing := (ofDeltas deltas).nodes.increasing
  rw [entries_nodes_ofDeltas] at hincreasing
  exact List.pairwise_map.1 hincreasing

end Store

/-! ## The documents -/

/-- **What the document of a graph says.** -/
structure GraphDocument where
  metadata : Option Metadata
  statistics : Store.Statistics
  nodes : List Node
  relationships : List Relationship
  ownership : SortedMap String String

namespace GraphDocument

/-- The document of a JSON form. -/
def ofJson? (j : Json) : Option GraphDocument := do
  let [metadata, statistics, nodes, relationships, ownership] ← j.fields?
    ["metadata", "stats", "nodes", "relationships", "ownership"] 5 | none
  some {
    metadata := ← Json.required (Json.nullable? Metadata.ofJson?) metadata
    statistics := ← Json.required Store.Statistics.ofJson? statistics
    nodes := ← Json.required (Json.list? Node.ofJson?) nodes
    relationships := ← Json.required (Json.list? Relationship.ofJson?) relationships
    ownership := ← Json.required (SortedMap.ofJson? Json.text?) ownership }

/-- The document of a text. -/
def parse? (text : String) : Option GraphDocument := (Json.parse? text).bind ofJson?

theorem written_graphDocumentJson (metadata : Option Metadata) (store : Store) :
    (graphDocumentJson metadata store).Written :=
  Json.written_object (by
    simp [Json.written_ofOption Metadata.written_toJson, Store.Statistics.written_toJson,
      Json.written_ofList fun node _ => Node.written_toJson node, Store.written_relationshipsJson,
      Store.written_ownershipJson])

/-- **The document of a graph is read back.** -/
theorem parse?_graphDocument (metadata : Option Metadata) (store : Store) :
    parse? (graphDocument metadata store) = some {
      metadata := metadata
      statistics := store.statistics
      nodes := store.nodes.values
      relationships := store.relationships.toList
      ownership := store.ownership } := by
  have hfields : (graphDocumentJson metadata store).fields?
      ["metadata", "stats", "nodes", "relationships", "ownership"] 5 =
      some [some (.ofOption Metadata.toJson metadata), some store.statistics.toJson,
        some (.ofList Node.toJson store.nodes.values), some store.relationshipsJson,
        some store.ownershipJson] := rfl
  have hmetadata := Json.nullable?_ofOption Metadata.ofJson?_toJson nofun metadata
  have hnodes := Json.list?_ofList Node.ofJson?_toJson store.nodes.values
  have hrelationships : Json.list? Relationship.ofJson? store.relationshipsJson =
      some store.relationships.toList := Json.list?_ofList Relationship.ofJson?_toJson _
  have hownership : SortedMap.ofJson? Json.text? store.ownershipJson = some store.ownership :=
    SortedMap.ofJson?_toJson Json.text?_text _
  rw [parse?, graphDocument, Json.parse?_toIndented (written_graphDocumentJson _ _),
    Option.bind_some, ofJson?, hfields]
  simp [hmetadata, Store.Statistics.ofJson?_toJson, hnodes, hrelationships, hownership]

/-- **A document whose numbers fit its lists.** -/
structure IsConsistent (document : GraphDocument) : Prop where
  nodes : document.statistics.nodes = document.nodes.length
  relationships : document.statistics.relationships = document.relationships.length
  ownedEntities : document.statistics.ownedEntities = document.ownership.size
  nodesByKind : Tallies Node.kind document.nodes document.statistics.nodesByKind
  relationshipsByKind :
    Tallies Relationship.kind document.relationships document.statistics.relationshipsByKind

end GraphDocument

/-- **What the document of chains says.** -/
structure ChainsDocument where
  metadata : Option Metadata
  chains : List Chain

namespace ChainsDocument

/-- The document of a JSON form. -/
def ofJson? (j : Json) : Option ChainsDocument := do
  let [metadata, chains] ← j.fields? ["metadata", "chains"] 2 | none
  some {
    metadata := ← Json.required (Json.nullable? Metadata.ofJson?) metadata
    chains := ← Json.required (Json.list? Chain.ofJson?) chains }

/-- The document of a text. -/
def parse? (text : String) : Option ChainsDocument := (Json.parse? text).bind ofJson?

theorem written_chainsDocumentJson (metadata : Option Metadata) (chains : List Chain) :
    (chainsDocumentJson metadata chains).Written :=
  Json.written_object (by
    simp [Json.written_ofOption Metadata.written_toJson,
      Json.written_ofList fun chain _ => Chain.written_toJson chain])

/-- **The document of chains is read back**, whatever chains it holds. -/
theorem parse?_chainsDocument (metadata : Option Metadata) (chains : List Chain) :
    parse? (chainsDocument metadata chains) = some ⟨metadata, chains⟩ := by
  have hfields : (chainsDocumentJson metadata chains).fields? ["metadata", "chains"] 2 =
      some [some (.ofOption Metadata.toJson metadata), some (.ofList Chain.toJson chains)] := rfl
  have hmetadata := Json.nullable?_ofOption Metadata.ofJson?_toJson nofun metadata
  have hchains := Json.list?_ofList Chain.ofJson?_toJson chains
  rw [parse?, chainsDocument, Json.parse?_toIndented (written_chainsDocumentJson _ _),
    Option.bind_some, ofJson?, hfields]
  simp [hmetadata, hchains]

end ChainsDocument

/-- **The exported texts of a merged store say all that it holds**, under whatever name, at whatever
times and with metadata or without. The text of the graph gives back the nodes in the order of their
ids, the relationships in their order and the owners, and its numbers fit them. The text of any chains
gives back these chains. -/
theorem Exports.parse?_texts (deltas : List Delta) (project : String)
    (includeMetadata : Bool) (generatedAt : Document → String) (chains : List Chain) :
    let store := Store.ofDeltas deltas
    let exports := Exports.ofStore project includeMetadata generatedAt store chains
    (∃ document, GraphDocument.parse? exports.graphText = some document ∧
      document.metadata = exports.metadata .graph ∧
      store.nodes.entries = document.nodes.map (fun node => (node.id, node)) ∧
      document.nodes.Pairwise (fun a b => compare a.id b.id = .lt) ∧
      document.relationships = store.relationships.toList ∧
      document.relationships.Pairwise (fun a b => compare a b = .lt) ∧
      document.ownership = store.ownership ∧
      document.statistics.mergedBatches = store.mergedBatches.size ∧
      document.IsConsistent) ∧
    ChainsDocument.parse? exports.chainsText = some ⟨exports.metadata .chains, chains⟩ := by
  intro store exports
  have hconsistent : GraphDocument.IsConsistent ⟨exports.metadata .graph, store.statistics,
      store.nodes.values, store.relationships.toList, store.ownership⟩ := {
    nodes := (List.length_map _).symm
    relationships := (List.length_map _).symm
    ownedEntities := rfl
    nodesByKind := store.tallies_nodesByKind
    relationshipsByKind := store.tallies_relationshipsByKind }
  exact ⟨⟨_, GraphDocument.parse?_graphDocument _ store, rfl, Store.entries_nodes_ofDeltas deltas,
    Store.pairwise_nodes_ofDeltas deltas, rfl, store.relationships.pairwise_toList, rfl, rfl,
    hconsistent⟩, ChainsDocument.parse?_chainsDocument _ chains⟩

end DomainFlow
