import DomainFlow.Proofs.Consistency

/-!
# What a merged store holds

A merge settles every conflict by itself, yet what is in the store afterwards can be said without
following the merges. Of all declarations of a node the least one stands, of all owners of an entity
the least one, and relationships and fingerprints add up. A derived node never competes with a
declaration: it is no value of its id, it only fills the place that all declarations leave open.

The derived nodes are determined by the rest of the store. An endpoint has one exactly if it names a
method of a type that is declared with a kind that carries methods, and the method is not declared
itself. So an endpoint lacks its node only where its type is no node.

## Main definitions

* `DeclaredIn`, `OwnedIn`: the declarations of a node, and the owners of an entity, in contributions
* `Store.Keeps`: whether a store keeps what another one has

## Main results

* `Node.precedes_iff`: declarations of a node are compared by kind and then by name
* `Store.get?_declared_ofDeltas_iff`: the least declaration of a node stands
* `Store.get?_ownership_ofDeltas_iff`: the least owner of an entity stands
* `Store.ofDeltas_content`: the whole content of a merged store
* `Store.derived_merge`: the derived nodes after a merge, and what they are enough for
-/

namespace DomainFlow

/-- **A declaration of a node** in some contribution. -/
def DeclaredIn (deltas : List Delta) (id : String) (node : Node) : Prop :=
  ∃ delta ∈ deltas, node ∈ delta.nodes ∧ node.id = id

/-- **An owner of an entity** in some contribution. -/
def OwnedIn (deltas : List Delta) (child owner : String) : Prop :=
  ∃ delta ∈ deltas, ⟨child, owner⟩ ∈ delta.ownership

/-! ## Orders -/

/-- **Of two declarations of a node the one with the lesser kind counts**, and of two with one kind
the one with the lesser name. -/
theorem Node.precedes_iff {a b : Node} : a.precedes b = true ↔
    a.kind.rank < b.kind.rank ∨ a.kind = b.kind ∧ a.name < b.name := by
  have hkind : compare a.kind b.kind = .lt ↔ a.kind.rank < b.kind.rank := Nat.compare_eq_lt
  have hname : compare a.name b.name = .lt ↔ a.name < b.name := compareOfLessAndEq_eq_lt
  rw [precedes, decide_eq_true_iff, order, compareLex, Ordering.then_eq_lt, compareOn, hkind,
    Std.compare_eq_iff_eq, compareOn, hname]

/-- Declarations are compared by kind and name alone, so not to precede is as transitive as a total
order. -/
theorem Node.not_precedes_trans (a b c : Node) (hab : a.precedes b = false)
    (hbc : b.precedes c = false) : a.precedes c = false := by
  simp only [precedes, decide_eq_false_iff_not, ← Ordering.isGE_iff_ne_lt] at *
  exact Std.TransCmp.isGE_trans hab hbc

theorem decide_not_lt_trans (a b c : String) (hab : decide (a < b) = false)
    (hbc : decide (b < c) = false) : decide (a < c) = false := by
  simp only [decide_eq_false_iff_not, String.not_lt] at *
  exact String.le_trans hbc hab

/-! ## Entries that concern one key -/

namespace Entry

/-- The declaration of a node that an entry makes. -/
def declares? (id : String) : Entry → Option Node
  | .node declared => if declared.id = id then some declared else none
  | _ => none

/-- The owner of an entity that an entry names. -/
def owns? (child : String) : Entry → Option String
  | .owner fact => if fact.childEntity = child then some fact.ownerAggregate else none
  | _ => none

theorem declares?_eq_some_iff {entry : Entry} {id : String} {declared : Node} :
    entry.declares? id = some declared ↔ entry = .node declared ∧ declared.id = id := by
  cases entry with
  | node other =>
    rw [declares?, Option.ite_none_right_eq_some, Option.some_inj, Entry.node.injEq, and_comm]
    refine and_congr_right ?_
    rintro rfl
    exact Iff.rfl
  | relationship r => exact iff_of_false nofun nofun
  | owner fact => exact iff_of_false nofun nofun
  | fingerprint text => exact iff_of_false nofun nofun

theorem owns?_eq_some_iff {entry : Entry} {child aggregate : String} :
    entry.owns? child = some aggregate ↔ entry = .owner ⟨child, aggregate⟩ := by
  cases entry with
  | owner fact =>
    obtain ⟨child', aggregate'⟩ := fact
    rw [owns?, Option.ite_none_right_eq_some, Option.some_inj, Entry.owner.injEq,
      OwnershipFact.mk.injEq]
  | node declared => exact iff_of_false nofun nofun
  | relationship r => exact iff_of_false nofun nofun
  | fingerprint text => exact iff_of_false nofun nofun

end Entry

namespace Store

variable {store : Store} {delta : Delta} {deltas : List Delta} {id child owner : String} {node : Node}

/-! ## Adding entries, key by key -/

theorem nodes_addFingerprint (store : Store) (text : String) :
    (store.addFingerprint text).nodes = store.nodes := by
  rw [addFingerprint]
  split <;> rfl

theorem ownership_addFingerprint (store : Store) (text : String) :
    (store.addFingerprint text).ownership = store.ownership := by
  rw [addFingerprint]
  split <;> rfl

theorem mem_mergedBatches_addFingerprint {text other : String} :
    text ∈ (store.addFingerprint other).mergedBatches ↔
      text ∈ store.mergedBatches ∨ text ≠ "" ∧ text = other := by
  rw [addFingerprint]
  by_cases hother : other = ""
  · subst hother
    rw [if_pos rfl]
    exact (or_iff_left fun h => h.1 h.2).symm
  · rw [if_neg hother, SortedSet.mem_insert]
    constructor
    · rintro (rfl | hmem)
      · exact .inr ⟨hother, rfl⟩
      · exact .inl hmem
    · rintro (hmem | ⟨-, rfl⟩)
      · exact .inr hmem
      · exact .inl rfl

/-- At the id of a node, adding entries keeps the least declaration. -/
theorem get?_nodes_foldl_addEntry (entries : List Entry) (store : Store) (id : String) :
    (entries.foldl addEntry store).nodes.get? id =
      leastOf Node.precedes (store.nodes.get? id) (entries.filterMap (Entry.declares? id)) := by
  induction entries generalizing store with
  | nil => rfl
  | cons entry rest ih =>
    rw [List.foldl_cons, ih]
    cases entry with
    | node node =>
      by_cases hid : node.id = id
      · subst hid
        simp [addEntry, Entry.declares?, SortedMap.get?_alter, leastOf, chooseNode_eq_least]
      · simp [addEntry, Entry.declares?, SortedMap.get?_alter, hid, Ne.symm hid]
    | relationship r => rfl
    | owner fact => rfl
    | fingerprint text =>
      rw [addEntry, nodes_addFingerprint]
      rfl

/-- At an entity, adding entries keeps the least owner. -/
theorem get?_ownership_foldl_addEntry (entries : List Entry) (store : Store) (child : String) :
    (entries.foldl addEntry store).ownership.get? child =
      leastOf (fun a b => decide (a < b)) (store.ownership.get? child)
        (entries.filterMap (Entry.owns? child)) := by
  induction entries generalizing store with
  | nil => rfl
  | cons entry rest ih =>
    rw [List.foldl_cons, ih]
    cases entry with
    | owner fact =>
      by_cases hchild : fact.childEntity = child
      · subst hchild
        simp [addEntry, addOwner, Entry.owns?, SortedMap.get?_alter, leastOf, chooseOwner_eq_least]
      · simp [addEntry, addOwner, Entry.owns?, SortedMap.get?_alter, hchild, Ne.symm hchild]
    | node node => rfl
    | relationship r => rfl
    | fingerprint text =>
      rw [addEntry, ownership_addFingerprint]
      rfl

theorem mem_mergedBatches_foldl_addEntry {entries : List Entry} {store : Store} {text : String} :
    text ∈ (entries.foldl addEntry store).mergedBatches ↔
      text ∈ store.mergedBatches ∨ text ≠ "" ∧ .fingerprint text ∈ entries := by
  induction entries generalizing store with
  | nil => simp
  | cons entry rest ih =>
    rw [List.foldl_cons, ih]
    cases entry with
    | fingerprint other =>
      rw [addEntry, mem_mergedBatches_addFingerprint, List.mem_cons, Entry.fingerprint.injEq, or_assoc,
        ← and_or_left]
    | node node => simp [addEntry]
    | relationship r => simp [addEntry, addRelationship]
    | owner fact => simp [addEntry, addOwner]

theorem mem_declarations_iff :
    node ∈ (deltas.flatMap Delta.entries).filterMap (Entry.declares? id) ↔
      DeclaredIn deltas id node := by
  simp only [List.mem_filterMap, List.mem_flatMap, Entry.declares?_eq_some_iff, DeclaredIn]
  constructor
  · rintro ⟨entry, ⟨delta, hdelta, hentry⟩, rfl, hid⟩
    exact ⟨delta, hdelta, mem_entries_node.1 hentry, hid⟩
  · rintro ⟨delta, hdelta, hnode, hid⟩
    exact ⟨_, ⟨delta, hdelta, mem_entries_node.2 hnode⟩, rfl, hid⟩

theorem mem_owners_iff :
    owner ∈ (deltas.flatMap Delta.entries).filterMap (Entry.owns? child) ↔
      OwnedIn deltas child owner := by
  simp only [List.mem_filterMap, List.mem_flatMap, Entry.owns?_eq_some_iff, OwnedIn]
  constructor
  · rintro ⟨entry, ⟨delta, hdelta, hentry⟩, rfl⟩
    exact ⟨delta, hdelta, by simpa [Delta.entries] using hentry⟩
  · rintro ⟨delta, hdelta, howner⟩
    exact ⟨_, ⟨delta, hdelta, by simpa [Delta.entries] using howner⟩, rfl⟩

/-! ## The declared part of a merged store -/

theorem get?_declared_eq_some_iff :
    store.declared.get? id = some node ↔ store.node? id = some node ∧ id ∉ store.derived := by
  rw [get?_declared, node?]
  by_cases h : id ∈ store.derived
  · simp [h]
  · simp [h]

theorem mem_keys_declared_iff :
    id ∈ store.declared.keys ↔ id ∈ store.nodes.keys ∧ id ∉ store.derived := by
  simp only [SortedMap.mem_keys_iff, SortedMap.contains_iff, get?_declared_eq_some_iff, node?,
    exists_and_right]

/-- **The least declaration of a node stands**, and no other node is declared. -/
theorem get?_declared_ofDeltas_iff :
    (ofDeltas deltas).declared.get? id = some node ↔
      IsLeastOf Node.precedes (DeclaredIn deltas id) node := by
  change (ofDeltas deltas).settled.nodes.get? id = some node ↔ _
  have hids : ∀ a, (none : Option Node) = some a ∨
      a ∈ (deltas.flatMap Delta.entries).filterMap (Entry.declares? id) → a.id = id := by
    rintro a (h | h)
    · cases h
    · obtain ⟨_, _, _, hid⟩ := mem_declarations_iff.1 h
      exact hid
  rw [ofDeltas, settled_mergeAll, get?_nodes_foldl_addEntry]
  change leastOf _ none _ = _ ↔ _
  rw [leastOf_eq_some_iff Node.precedes_asymm Node.not_precedes_trans]
  · simp only [mem_declarations_iff, reduceCtorEq, false_or]
  · intro a b ha hb hab hba
    exact Node.eq_of_not_precedes ((hids a ha).trans (hids b hb).symm) hab hba

/-- **The least owner of an entity stands**, and no other entity is owned. -/
theorem get?_ownership_ofDeltas_iff :
    (ofDeltas deltas).ownership.get? child = some owner ↔
      IsLeastOf (fun a b => decide (a < b)) (OwnedIn deltas child) owner := by
  change (ofDeltas deltas).settled.ownership.get? child = some owner ↔ _
  rw [ofDeltas, settled_mergeAll, get?_ownership_foldl_addEntry]
  change leastOf _ none _ = _ ↔ _
  rw [leastOf_eq_some_iff decide_lt_asymm decide_not_lt_trans]
  · simp only [mem_owners_iff, reduceCtorEq, false_or]
  · intro a b _ _ hab hba
    exact String.le_antisymm (String.not_lt.1 (of_decide_eq_false hba))
      (String.not_lt.1 (of_decide_eq_false hab))

theorem mem_mergedBatches_ofDeltas_iff {text : String} :
    text ∈ (ofDeltas deltas).mergedBatches ↔
      text ≠ "" ∧ ∃ delta ∈ deltas, delta.fingerprint = text := by
  have hempty : text ∉ (∅ : Store).settled.mergedBatches := SortedSet.not_mem_empty text
  change text ∈ (ofDeltas deltas).settled.mergedBatches ↔ _
  rw [ofDeltas, settled_mergeAll, mem_mergedBatches_foldl_addEntry, or_iff_right hempty]
  refine and_congr_right fun _ => ?_
  simp [Delta.entries, eq_comm]

/-! ## What a merge keeps -/

/-- **Whether a store keeps what another one has**: every relationship, every declared node, the
owned entities, and of all nodes at least those that were not derived. -/
structure Keeps (later store : Store) : Prop where
  relationships : ∀ r ∈ store.relationships, r ∈ later.relationships
  declared : ∀ id ∈ store.declared.keys, id ∈ later.declared.keys
  owned : ∀ child ∈ store.ownership.keys, child ∈ later.ownership.keys
  lost : ∀ id ∈ store.nodes.keys, id ∉ later.nodes.keys → id ∈ store.derived

/-- An entity that has an owner has one after every merge. -/
theorem mem_keys_ownership_mergeAll (h : child ∈ store.ownership.keys) :
    child ∈ (store.mergeAll deltas).ownership.keys := by
  rw [SortedMap.mem_keys_iff, SortedMap.contains_iff] at h ⊢
  obtain ⟨owner, howner⟩ := h
  change ∃ owner, (store.mergeAll deltas).settled.ownership.get? child = some owner
  rw [settled_mergeAll, get?_ownership_foldl_addEntry]
  rw [show store.settled.ownership.get? child = some owner from howner]
  exact exists_leastOf_some owner _

theorem keeps_merge (store : Store) (delta : Delta) : (store.merge delta).Keeps store := by
  have hmerge : store.merge delta = store.mergeAll [delta] := rfl
  have hdeclared : ∀ id ∈ store.declared.keys, id ∈ (store.merge delta).declared.keys := by
    intro id hid
    rw [SortedMap.mem_keys_iff] at hid ⊢
    rw [hmerge]
    exact contains_declared_mergeAll.2 (.inl hid)
  refine ⟨?_, hdeclared, ?_, ?_⟩
  · intro r hr
    rw [hmerge]
    exact mem_relationships_mergeAll.2 (.inl hr)
  · intro child hchild
    rw [hmerge]
    exact mem_keys_ownership_mergeAll hchild
  · intro id hid hlost
    by_contra hderived
    exact hlost (mem_keys_declared_iff.1 (hdeclared id (mem_keys_declared_iff.2 ⟨hid, hderived⟩))).1

/-- **The content of a merged store.** Every node that some contribution declares is there, not as a
derived one, with the least of its declarations; all other nodes are derived. The relationships are
those of the contributions. Entities have the least owner that any contribution names, and entities
without one in any contribution have none. The fingerprints are those of the contributions, but for
the empty one. And no merge takes anything away but derived nodes. -/
theorem ofDeltas_content (deltas : List Delta) :
    (∀ id, (∃ node, DeclaredIn deltas id node) →
      ∃ node, (ofDeltas deltas).node? id = some node ∧ id ∉ (ofDeltas deltas).derived ∧
        IsLeastOf Node.precedes (DeclaredIn deltas id) node) ∧
    (∀ id ∈ (ofDeltas deltas).nodes.keys,
      (∃ node, DeclaredIn deltas id node) ∨ id ∈ (ofDeltas deltas).derived) ∧
    (∀ r, r ∈ (ofDeltas deltas).relationships ↔ ∃ delta ∈ deltas, r ∈ delta.relationships) ∧
    (∀ child owner, (ofDeltas deltas).ownership.get? child = some owner ↔
      IsLeastOf (fun a b => decide (a < b)) (OwnedIn deltas child) owner) ∧
    (∀ text, text ∈ (ofDeltas deltas).mergedBatches ↔
      text ≠ "" ∧ ∃ delta ∈ deltas, delta.fingerprint = text) ∧
    ∀ store delta, (merge store delta).Keeps store := by
  refine ⟨?_, ?_, ?_, fun _ _ => get?_ownership_ofDeltas_iff,
    fun _ => mem_mergedBatches_ofDeltas_iff, keeps_merge⟩
  · rintro id ⟨node, delta, hdelta, hnode, hid⟩
    -- a declared id has some node among the declared ones, and this is the least declaration
    have hcontains : (ofDeltas deltas).declared.contains id = true :=
      contains_declared_mergeAll.2 (.inr ⟨delta, hdelta, node, hnode, hid⟩)
    obtain ⟨least, hleast⟩ := SortedMap.contains_iff.1 hcontains
    obtain ⟨hfound, hderived⟩ := get?_declared_eq_some_iff.1 hleast
    exact ⟨least, hfound, hderived, get?_declared_ofDeltas_iff.1 hleast⟩
  · intro id hid
    by_cases hderived : id ∈ (ofDeltas deltas).derived
    · exact .inr hderived
    · have hdeclared := mem_keys_declared_iff.2 ⟨hid, hderived⟩
      rw [SortedMap.mem_keys_iff, SortedMap.contains_iff] at hdeclared
      obtain ⟨node, hnode⟩ := hdeclared
      exact .inl ⟨node, (get?_declared_ofDeltas_iff.1 hnode).holds⟩
  · intro r
    have hempty : r ∉ (∅ : Store).relationships := SortedSet.not_mem_empty r
    rw [ofDeltas, mem_relationships_mergeAll, or_iff_right hempty]

/-! ## The derived part of a merged store -/

/-- Deriving nodes changes no relationship. -/
theorem relationships_derive : store.derive.relationships = store.relationships := rfl

theorem mem_derived_derive_iff :
    id ∈ store.derive.derived ↔
      (∃ r ∈ store.relationships, ∃ endpoint ∈ r.endpoints, ∃ node,
        methodNode? store.derive.declared endpoint = some node ∧ node.id = id) ∧
        store.derive.declared.contains id = false := by
  change id ∈ SortedSet.ofList (missingNodes store.declared store.relationships.toList).keys ↔ _
  simp only [SortedSet.mem_ofList, mem_keys_missingNodes, SortedSet.mem_toList, declared_derive]

/-- An endpoint has a node of its own if it names a method of a type with a kind that carries
methods. -/
theorem exists_methodNode?_iff {nodes : SortedMap String Node} {endpoint : MethodRef} :
    (∃ node, methodNode? nodes endpoint = some node ∧ node.id = id) ↔
      endpoint.method ≠ "" ∧ Node.methodId endpoint.typeId endpoint.method = id ∧
        ∃ owner, nodes.get? endpoint.typeId = some owner ∧
          owner.kind.methodKind?.isSome = true := by
  simp only [methodNode?_eq_some_iff, Option.isSome_iff_exists]
  constructor
  · rintro ⟨node, ⟨hmethod, owner, kind, howner, hkind, rfl⟩, hid⟩
    exact ⟨hmethod, hid, owner, howner, kind, hkind⟩
  · rintro ⟨hmethod, hid, owner, howner, kind, hkind⟩
    exact ⟨_, ⟨hmethod, owner, kind, howner, hkind, rfl⟩, hid⟩

/-- A derived node has the kind of a method. -/
theorem exists_get?_of_mem_derived (h : id ∈ store.derive.derived) :
    ∃ node, store.derive.node? id = some node ∧
      ∃ kind : NodeKind, kind.methodKind? = some node.kind := by
  obtain ⟨-, hnew⟩ := mem_derived_derive_iff.1 h
  have hkeys : id ∈ (missingNodes store.declared store.relationships.toList).keys :=
    SortedSet.mem_ofList.1 h
  rw [SortedMap.mem_keys_iff, SortedMap.contains_iff] at hkeys
  obtain ⟨node, hnode⟩ := hkeys
  have hnone : store.declared.get? id = none := by
    simpa [declared_derive, SortedMap.contains] using hnew
  have hfound : store.derive.node? id = some node := by
    rw [node?, get?_nodes_derive, hnone, Option.none_or, hnode]
  rw [missingNodes, get?_nodeMap] at hnode
  obtain ⟨endpoint, -, hendpoint⟩ :=
    List.mem_filterMap.1 (List.mem_filter.1 (List.mem_of_find?_eq_some hnode)).1
  obtain ⟨-, owner, kind, -, hkind, rfl⟩ := methodNode?_eq_some_iff.1 hendpoint
  exact ⟨_, hfound, owner.kind, hkind⟩

/-- **The derived nodes after a merge** are those of the methods that relationships name, on types
that are declared with a kind that carries methods, unless the methods are declared themselves. The
declared nodes are those of the store before and of the contribution. Derived nodes have kinds of
methods. With them, the store is consistent as soon as no relationship is unclassified and the types
of all endpoints are nodes. -/
theorem derived_merge (store : Store) (delta : Delta) :
    (∀ id, id ∈ (store.merge delta).derived ↔
      (∃ r ∈ (store.merge delta).relationships, ∃ endpoint ∈ r.endpoints,
        endpoint.method ≠ "" ∧ Node.methodId endpoint.typeId endpoint.method = id ∧
        ∃ owner, (store.merge delta).node? endpoint.typeId = some owner ∧
          endpoint.typeId ∉ (store.merge delta).derived ∧ owner.kind.methodKind?.isSome = true) ∧
      ¬∃ node, (store.merge delta).node? id = some node ∧ id ∉ (store.merge delta).derived) ∧
    (∀ id, (∃ node, (store.merge delta).node? id = some node ∧ id ∉ (store.merge delta).derived) ↔
      (∃ node, store.node? id = some node ∧ id ∉ store.derived) ∨
        ∃ node ∈ delta.nodes, node.id = id) ∧
    (∀ id ∈ (store.merge delta).derived, ∃ node, (store.merge delta).node? id = some node ∧
      ∃ kind : NodeKind, kind.methodKind? = some node.kind) ∧
    ((store.merge delta).violations = [] ↔ ∀ r ∈ (store.merge delta).relationships,
      r.kind ≠ .unknown ∧ r.source.typeId ∈ (store.merge delta).nodes.keys ∧
        r.target.typeId ∈ (store.merge delta).nodes.keys) := by
  have hmerge : store.merge delta = (store.add delta).derive := rfl
  refine ⟨?_, ?_, ?_, ?_⟩
  · intro id
    rw [hmerge, relationships_derive]
    refine mem_derived_derive_iff.trans (and_congr ?_ ?_)
    · refine exists_congr fun r => and_congr_right fun _ =>
        exists_congr fun endpoint => and_congr_right fun _ => ?_
      simp only [exists_methodNode?_iff, get?_declared_eq_some_iff, and_assoc]
    · rw [← Bool.not_eq_true, SortedMap.contains_iff]
      simp only [get?_declared_eq_some_iff]
  · intro id
    simp only [← get?_declared_eq_some_iff, ← SortedMap.contains_iff]
    change (store.mergeAll [delta]).declared.contains id = true ↔ _
    rw [contains_declared_mergeAll]
    simp only [List.mem_singleton, exists_eq_left]
  · intro id hid
    rw [hmerge] at hid ⊢
    exact exists_get?_of_mem_derived hid
  · rw [hmerge, relationships_derive]
    simp only [SortedMap.mem_keys_iff]
    exact violations_derive_eq_nil_iff

end Store

end DomainFlow
