import DomainFlow.Proofs.CallOrder
import DomainFlow.Proofs.Merge
import Mathlib.Data.List.Nodup

/-!
# The order of declarations

An extractor may report the types of a module in any order; only the order of the aggregates is
meant to count, as it settles which of them owns an entity. Where all ids are distinct, a list of
types in another order has the same declaration for each id, and the first claim on each entity is
the same. So every fact gets the same verdict, and the relationships, the owners and the numbers of
facts dropped stay the same.

The nodes do not always stay the same. Two types may declare one node, as two converters of the same
event do, and of their declarations the first one counts. The nodes are the same for every order
exactly if such declarations are equal, those of two aggregates apart.

## Main definitions

* `Reordered`: whether types are declared in another order, but for the aggregates
* `Unambiguous`: whether no node has declarations of which either one may come first

## Main results

* `Ownership.owners_resolve_perm`: the owners do not depend on the order of the entities
* `Unambiguous.find?_declaredNodes`: unambiguous declarations give the same nodes in every order
* `Batch.analyze_withTypes`: what the order of the declarations has no influence on, and when it has
  none on the nodes
-/

namespace DomainFlow

/-! ## Lists without repeated keys -/

section Keyed

variable {α κ β : Type} [DecidableEq κ] {key : α → κ} {l l' : List α}

theorem exists_find?_of_mem (key : α → κ) {a : α} (ha : a ∈ l) :
    ∃ b ∈ l, key b = key a ∧ l.find? (key · = key a) = some b := by
  have hsome : (l.find? (key · = key a)).isSome = true :=
    List.find?_isSome.2 ⟨a, ha, decide_eq_true rfl⟩
  obtain ⟨b, hb⟩ := Option.isSome_iff_exists.1 hsome
  exact ⟨b, List.mem_of_find?_eq_some hb, by simpa using List.find?_some hb, hb⟩

/-- Where no key occurs twice, the search for a key finds every element. -/
theorem find?_eq_some_iff_of_nodup (hkeys : (l.map key).Nodup) {k : κ} {a : α} :
    l.find? (key · = k) = some a ↔ a ∈ l ∧ key a = k := by
  constructor
  · intro hfound
    exact ⟨List.mem_of_find?_eq_some hfound, by simpa using List.find?_some hfound⟩
  · rintro ⟨ha, rfl⟩
    obtain ⟨b, hb, hkey, hfound⟩ := exists_find?_of_mem key ha
    rw [hfound, List.inj_on_of_nodup_map hkeys hb ha hkey]

theorem find?_perm (hkeys : (l.map key).Nodup) (hperm : l.Perm l') (k : κ) :
    l.find? (key · = k) = l'.find? (key · = k) := by
  have hkeys' : (l'.map key).Nodup := (hperm.map key).nodup_iff.1 hkeys
  apply Option.ext
  intro a
  rw [find?_eq_some_iff_of_nodup hkeys, find?_eq_some_iff_of_nodup hkeys', hperm.mem_iff]

omit [DecidableEq κ] in
theorem keys_filterMap_sublist {f : α → Option (κ × β)} (hf : ∀ a b, f a = some b → b.1 = key a)
    (l : List α) : ((l.filterMap f).map (·.1)).Sublist (l.map key) := by
  induction l with
  | nil => exact .slnil
  | cons a rest ih =>
    cases hfa : f a with
    | none =>
      rw [List.filterMap_cons_none hfa]
      exact ih.cons (key a)
    | some b =>
      rw [List.filterMap_cons_some hfa, List.map_cons, List.map_cons, hf a b hfa]
      exact ih.cons_cons (key a)

variable [Ord κ] [Std.LawfulEqOrd κ]

/-- **Entries that elements give under their own keys** are found alike for every order of the
elements. -/
theorem lookup_filterMap_perm {f : α → Option (κ × β)} (hf : ∀ a b, f a = some b → b.1 = key a)
    (hkeys : (l.map key).Nodup) (hperm : l.Perm l') (k : κ) :
    SortedMap.lookup k (l.filterMap f) = SortedMap.lookup k (l'.filterMap f) := by
  have hentries : ((l.filterMap f).map (·.1)).Nodup := hkeys.sublist (keys_filterMap_sublist hf l)
  rw [SortedMap.lookup_eq_find?, SortedMap.lookup_eq_find?,
    find?_perm hentries (hperm.filterMap f)]

end Keyed

/-! ## Owners -/

namespace Ownership

variable {suffixes : List String} {aggregates entities entities' : List TypeFact}

/-- **The owners do not depend on the order of the entities**, only on that of the aggregates. -/
theorem owners_resolve_perm (hids : (entities.map (·.id)).Nodup) (hperm : entities.Perm entities')
    (containment : List Containment) :
    (resolve suffixes aggregates entities containment).owners =
      (resolve suffixes aggregates entities' containment).owners := by
  have hisEntity : (fun id => entities.any (·.id = id)) = fun id => entities'.any (·.id = id) :=
    funext fun _ => hperm.any_eq
  apply SortedMap.ext_get?
  intro entity
  have hnaming : SortedMap.lookup entity (namingClaims suffixes aggregates entities) =
      SortedMap.lookup entity (namingClaims suffixes aggregates entities') := by
    apply lookup_filterMap_perm _ hids hperm
    intro a claim h
    obtain ⟨_, _, rfl⟩ := Option.map_eq_some_iff.1 h
    rfl
  have hcolocation : SortedMap.lookup entity (colocationClaims aggregates entities) =
      SortedMap.lookup entity (colocationClaims aggregates entities') := by
    apply lookup_filterMap_perm _ hids hperm
    intro a claim h
    split at h <;> cases h
    rfl
  rw [get?_owners_resolve, get?_owners_resolve, claims, claims, hisEntity]
  rw [SortedMap.lookup_append, SortedMap.lookup_append, SortedMap.lookup_append,
    SortedMap.lookup_append, hnaming, hcolocation]

end Ownership

theorem endpointNodes_congr {types types' : List TypeFact}
    (h : ∀ id, declaration? types id = declaration? types' id) (relationships : List Relationship) :
    endpointNodes types relationships = endpointNodes types' relationships := by
  have hnode : endpointNode? types = endpointNode? types' := by
    funext endpoint
    rw [endpointNode?, endpointNode?, h]
  rw [endpointNodes, endpointNodes, hnode]

/-! ## Declarations of nodes -/

theorem Node.methodId_ne (typeId method : String) : methodId typeId method ≠ typeId := by
  intro h
  have hlength := congrArg String.length h
  rw [methodId, String.length_append, String.length_append] at hlength
  have hdot : ".".length = 1 := rfl
  omega

theorem Node.eq_of_methodId_eq {typeId method method' : String}
    (h : methodId typeId method = methodId typeId method') : method = method' :=
  String.append_right_inj _ |>.1 h

theorem eq_of_mem_conversions {fact : TypeFact} {node : Node}
    (h : node ∈ fact.contracts.filterMap (conversionNode? fact)) :
    node = ⟨node.id, fact.name, .integrationEventConverter⟩ := by
  obtain ⟨contract, -, hcontract⟩ := List.mem_filterMap.1 h
  cases contract <;> cases hcontract
  rfl

/-- **A type declares each of its nodes in one way.** -/
theorem TypeFact.eq_of_mem_nodes {fact : TypeFact} {a b : Node} (ha : a ∈ fact.nodes)
    (hb : b ∈ fact.nodes) (hid : a.id = b.id) : a = b := by
  rw [nodes] at ha hb
  revert ha hb
  split
  · nofun
  · intro ha hb
    rw [eq_of_mem_conversions ha, eq_of_mem_conversions hb, hid]
  · next kind _ _ =>
    intro ha hb
    cases hmethod : kind.methodKind? with
    | none =>
      rw [hmethod] at ha hb
      rw [List.mem_singleton.1 ha, List.mem_singleton.1 hb]
    | some methodKind =>
      -- the id of a method is longer than that of the type, and it ends in the method's name
      simp only [hmethod, List.mem_cons, List.mem_map] at ha hb
      rcases ha with rfl | ⟨method, -, rfl⟩ <;> rcases hb with rfl | ⟨method', -, rfl⟩
      · rfl
      · exact absurd hid.symm (Node.methodId_ne _ _)
      · exact absurd hid (Node.methodId_ne _ _)
      · rw [Node.eq_of_methodId_eq hid]

/-! ## Orders of declarations -/

/-- The aggregates among types, in declaration order. -/
def aggregates (types : List TypeFact) : List TypeFact := types.filter (·.kind = .aggregate)

/-- The types but the aggregates, in declaration order. -/
def nonAggregates (types : List TypeFact) : List TypeFact := types.filter (·.kind ≠ .aggregate)

/-- **Whether types are declared in another order**, but the aggregates among them in the same. -/
structure Reordered (types types' : List TypeFact) : Prop where
  perm : types.Perm types'
  aggregates_eq : aggregates types = aggregates types'

/-- **Whether no node has declarations of which either one may come first**, unless they are equal.
Of the aggregates that declare a node, the first one comes before the others in every order. -/
structure Unambiguous (types : List TypeFact) : Prop where
  among : ∀ a ∈ declaredNodes (nonAggregates types), ∀ b ∈ declaredNodes (nonAggregates types),
    a.id = b.id → a = b
  against : ∀ a ∈ declaredNodes (nonAggregates types),
    ∀ b ∈ (declaredNodes (aggregates types)).find? (·.id = a.id), a = b

theorem mem_declaredNodes {types : List TypeFact} {node : Node} :
    node ∈ declaredNodes types ↔ ∃ fact ∈ types, node ∈ fact.nodes := List.mem_flatMap

theorem declaredNodes_cons (fact : TypeFact) (rest : List TypeFact) :
    declaredNodes (fact :: rest) = fact.nodes ++ declaredNodes rest := List.flatMap_cons

theorem aggregates_cons_of_ne {fact : TypeFact} (hkind : fact.kind ≠ .aggregate)
    (rest : List TypeFact) : aggregates (fact :: rest) = aggregates rest :=
  List.filter_cons_of_neg (by simpa using hkind)

/-- **The node that counts** is declared by a type that is no aggregate, or it is the one that counts
among the aggregates. -/
theorem find?_declaredNodes (types : List TypeFact) (id : String) :
    (∃ a ∈ declaredNodes (nonAggregates types),
      (declaredNodes types).find? (·.id = id) = some a) ∨
    (declaredNodes types).find? (·.id = id) = (declaredNodes (aggregates types)).find? (·.id = id) := by
  induction types with
  | nil => exact .inr rfl
  | cons fact rest ih =>
    rw [declaredNodes_cons, List.find?_append]
    by_cases hkind : fact.kind = .aggregate
    · have hothers : nonAggregates (fact :: rest) = nonAggregates rest :=
        List.filter_cons_of_neg (by simpa using hkind)
      have haggregates : aggregates (fact :: rest) = fact :: aggregates rest :=
        List.filter_cons_of_pos (by simpa using hkind)
      rw [hothers, haggregates, declaredNodes_cons, List.find?_append]
      cases hfact : fact.nodes.find? (·.id = id) with
      | some a => exact .inr rfl
      | none => exact ih
    · have hothers : nonAggregates (fact :: rest) = fact :: nonAggregates rest :=
        List.filter_cons_of_pos (by simpa using hkind)
      rw [hothers, aggregates_cons_of_ne hkind, declaredNodes_cons]
      cases hfact : fact.nodes.find? (·.id = id) with
      | some a => exact .inl ⟨a, List.mem_append_left _ (List.mem_of_find?_eq_some hfact), rfl⟩
      | none =>
        refine ih.imp_left ?_
        rintro ⟨a, ha, hfound⟩
        exact ⟨a, List.mem_append_right _ ha, hfound⟩

namespace Reordered

theorem refl (types : List TypeFact) : Reordered types types := ⟨.refl types, rfl⟩

theorem mem_declaredNodes_iff {types types' : List TypeFact} (h : Reordered types types')
    {node : Node} :
    node ∈ declaredNodes (nonAggregates types) ↔ node ∈ declaredNodes (nonAggregates types') :=
  ((h.perm.filter _).flatMap_right _).mem_iff

/-- A type that is no aggregate may be declared first. -/
theorem front {fact : TypeFact} (hkind : fact.kind ≠ .aggregate) (s t : List TypeFact) :
    Reordered (fact :: (s ++ t)) (s ++ fact :: t) := by
  refine ⟨List.perm_middle.symm, ?_⟩
  have ht : (fact :: t).filter (·.kind = .aggregate) = t.filter (·.kind = .aggregate) :=
    aggregates_cons_of_ne hkind t
  rw [aggregates_cons_of_ne hkind, aggregates, aggregates, List.filter_append, List.filter_append, ht]

/-- The aggregates may be declared first. -/
theorem aggregates_first (types : List TypeFact) :
    Reordered (aggregates types ++ nonAggregates types) types := by
  have hothers : nonAggregates types = types.filter fun fact => !decide (fact.kind = .aggregate) :=
    List.filter_congr fun fact _ => decide_not
  constructor
  · rw [hothers]
    exact List.filter_append_perm ..
  · rw [hothers, aggregates, List.filter_append, aggregates, List.filter_filter, List.filter_filter]
    simp

end Reordered

namespace Unambiguous

variable {types types' : List TypeFact}

/-- A node of a type that is no aggregate is declared as this type declares it. -/
theorem find?_of_mem (hu : Unambiguous types') (h : Reordered types types') {a : Node}
    (ha : a ∈ declaredNodes (nonAggregates types')) :
    (declaredNodes types).find? (·.id = a.id) = some a := by
  have hmem : a ∈ declaredNodes types := by
    obtain ⟨fact, hfact, hnode⟩ := mem_declaredNodes.1 ha
    exact mem_declaredNodes.2 ⟨fact, h.perm.mem_iff.2 (List.mem_filter.1 hfact).1, hnode⟩
  obtain ⟨b, -, hid, hb⟩ := exists_find?_of_mem Node.id hmem
  rcases find?_declaredNodes types a.id with ⟨c, hc, hfound⟩ | hfound
  · rw [hb] at hfound
    cases hfound
    rw [hb, hu.among a ha b (h.mem_declaredNodes_iff.1 hc) hid.symm]
  · rw [h.aggregates_eq, hb] at hfound
    rw [hb, hu.against a ha b hfound.symm]

/-- **Unambiguous declarations give the same nodes in every order.** -/
theorem find?_declaredNodes (hu : Unambiguous types') (h : Reordered types types') (id : String) :
    (declaredNodes types).find? (·.id = id) = (declaredNodes types').find? (·.id = id) := by
  by_cases hshared : ∃ a ∈ declaredNodes (nonAggregates types'), a.id = id
  · obtain ⟨a, ha, rfl⟩ := hshared
    rw [hu.find?_of_mem h ha, hu.find?_of_mem (.refl types') ha]
  · have haggregates : ∀ types, Reordered types types' → (declaredNodes types).find? (·.id = id) =
        (declaredNodes (aggregates types')).find? (·.id = id) := by
      intro types h
      rcases DomainFlow.find?_declaredNodes types id with ⟨a, ha, hfound⟩ | hfound
      · have hid : a.id = id := by simpa using List.find?_some hfound
        exact absurd ⟨a, h.mem_declaredNodes_iff.1 ha, hid⟩ hshared
      · rw [hfound, h.aggregates_eq]
    rw [haggregates types h, haggregates types' (.refl types')]

/-- If every order declares the nodes of one and the same map, no declarations are ambiguous: each
declaration that may come first is the one that counts in some order. -/
theorem of_found (found : String → Option Node)
    (h : ∀ types, Reordered types types' → ∀ id node,
      (declaredNodes types).find? (·.id = id) = some node → found id = some node) :
    Unambiguous types' := by
  have hother : ∀ a ∈ declaredNodes (nonAggregates types'), found a.id = some a := by
    intro a ha
    obtain ⟨fact, hfact, hnode⟩ := mem_declaredNodes.1 ha
    obtain ⟨hmem, hkind⟩ := List.mem_filter.1 hfact
    obtain ⟨s, t, rfl⟩ := List.append_of_mem hmem
    apply h _ (Reordered.front (by simpa using hkind) s t)
    have hfirst : fact.nodes.find? (·.id = a.id) = some a := by
      obtain ⟨b, hb, hid, hfound⟩ := exists_find?_of_mem Node.id hnode
      rw [hfound, TypeFact.eq_of_mem_nodes hb hnode hid]
    rw [declaredNodes_cons, List.find?_append, hfirst, Option.some_or]
  have haggregate : ∀ id, ∀ b ∈ (declaredNodes (aggregates types')).find? (·.id = id),
      found id = some b := by
    intro id b hb
    apply h _ (Reordered.aggregates_first types')
    rw [declaredNodes, List.flatMap_append, List.find?_append]
    exact Option.or_eq_some_iff.2 (.inl hb)
  constructor
  · intro a ha b hb hid
    have hfound := hother a ha
    rw [hid, hother b hb] at hfound
    exact (Option.some.inj hfound).symm
  · intro a ha b hb
    have hfound := hother a ha
    rw [haggregate a.id b hb] at hfound
    exact (Option.some.inj hfound).symm

end Unambiguous

theorem find?_eq_some_iff_mem_values {nodes : List Node} {id : String} {node : Node} :
    nodes.find? (·.id = id) = some node ↔ node ∈ (nodeMap nodes).values ∧ node.id = id := by
  rw [← get?_nodeMap, SortedMap.values, List.mem_map]
  constructor
  · intro hfound
    refine ⟨⟨(id, node), SortedMap.mem_entries_iff.2 hfound, rfl⟩, ?_⟩
    rw [get?_nodeMap] at hfound
    simpa using List.find?_some hfound
  · rintro ⟨⟨⟨id', _⟩, hentry, rfl⟩, rfl⟩
    have hfound := SortedMap.mem_entries_iff.1 hentry
    have hid := hfound
    rw [get?_nodeMap] at hid
    obtain rfl : _ = id' := by simpa using List.find?_some hid
    exact hfound

/-! ## The contribution of a batch -/

namespace Batch

variable {batch : Batch} {settings : AnalysisSettings} {types : List TypeFact}

/-- The batch with other types. -/
def withTypes (batch : Batch) (types : List TypeFact) : Batch := { batch with types := types }

section Reordered

variable (hids : (batch.types.map (·.id)).Nodup) (h : Reordered types batch.types)

include hids h

theorem owners_withTypes (suffixes : List String) :
    ((batch.withTypes types).ownership suffixes).owners = (batch.ownership suffixes).owners := by
  have haggregates : (batch.withTypes types).typesOf .aggregate = batch.typesOf .aggregate :=
    h.aggregates_eq
  have hentities : (batch.typesOf .entity).Perm ((batch.withTypes types).typesOf .entity) :=
    h.perm.symm.filter _
  have hentityIds : ((batch.typesOf .entity).map (·.id)).Nodup :=
    hids.sublist (List.filter_sublist.map _)
  rw [ownership, ownership, containment, containment, haggregates]
  exact (Ownership.owners_resolve_perm hentityIds hentities _).symm

theorem declaration?_withTypes (id : String) :
    declaration? types id = declaration? batch.types id :=
  (find?_perm hids h.perm.symm id).symm

theorem scope_agrees :
    ((batch.withTypes types).scope settings).Agrees (batch.scope settings) where
  find? := declaration?_withTypes hids h
  owner? entity := by
    rw [scope, scope, Ownership.owner?, Ownership.owner?, owners_withTypes hids h]

theorem classification_withTypes :
    (batch.withTypes types).classification settings = batch.classification settings :=
  (scope_agrees hids h).classify batch.calls (batch.events settings.mergeSameNameEvents)

theorem relationships_withTypes :
    ((batch.withTypes types).analyze settings).relationships =
      (batch.analyze settings).relationships :=
  congrArg (·.relationships.toList) (classification_withTypes hids h)

theorem ownership_withTypes :
    ((batch.withTypes types).analyze settings).ownership = (batch.analyze settings).ownership := by
  change ((batch.withTypes types).ownership _).facts = (batch.ownership _).facts
  rw [Ownership.facts, Ownership.facts, owners_withTypes hids h]

/-- A batch in another order collects its nodes from the declarations in that order, with the nodes
that the same endpoints need. -/
theorem nodes_withTypes :
    ((batch.withTypes types).analyze settings).nodes = (nodeMap (declaredNodes types ++
      endpointNodes batch.types (batch.analyze settings).relationships)).values := by
  rw [nodes_analyze, relationships_withTypes hids h,
    ← endpointNodes_congr (declaration?_withTypes hids h)]
  rfl

theorem nodes_withTypes_of_unambiguous (hu : Unambiguous batch.types) :
    ((batch.withTypes types).analyze settings).nodes = (batch.analyze settings).nodes := by
  rw [nodes_withTypes hids h, nodes_analyze]
  apply congrArg SortedMap.values
  apply SortedMap.ext_get?
  intro id
  rw [get?_nodeMap, get?_nodeMap, List.find?_append, List.find?_append, hu.find?_declaredNodes h]

end Reordered

/-- If the nodes are the same in every order, no node is declared ambiguously: the declaration that
comes first in some order is the one that counts for the batch. -/
theorem unambiguous_of_nodes_eq (hids : (batch.types.map (·.id)).Nodup)
    (hsame : ∀ types, Reordered types batch.types →
      ((batch.withTypes types).analyze settings).nodes = (batch.analyze settings).nodes) :
    Unambiguous batch.types := by
  apply Unambiguous.of_found fun id => (declaredNodes batch.types ++
    endpointNodes batch.types (batch.analyze settings).relationships).find? (·.id = id)
  intro types h id node hnode
  have hvalues := hsame types h
  rw [nodes_withTypes hids h, nodes_analyze] at hvalues
  rw [find?_eq_some_iff_mem_values, ← hvalues, ← find?_eq_some_iff_mem_values, List.find?_append,
    hnode, Option.some_or]

/-- **The order of the declarations counts only for the nodes**, and for them exactly if some node is
declared ambiguously. The relationships, the owners and the numbers of facts dropped are the same for
every order that keeps the order of the aggregates. -/
theorem analyze_withTypes (batch : Batch) (settings : AnalysisSettings)
    (hids : (batch.types.map (·.id)).Nodup) :
    (∀ types, Reordered types batch.types →
      ((batch.withTypes types).analyze settings).relationships =
          (batch.analyze settings).relationships ∧
        ((batch.withTypes types).analyze settings).ownership = (batch.analyze settings).ownership ∧
        ((batch.withTypes types).analyze settings).diagnostics.malformedFacts =
          (batch.analyze settings).diagnostics.malformedFacts ∧
        ((batch.withTypes types).analyze settings).diagnostics.discardedCalls =
          (batch.analyze settings).diagnostics.discardedCalls) ∧
    ((∀ types, Reordered types batch.types →
      ((batch.withTypes types).analyze settings).nodes = (batch.analyze settings).nodes) ↔
        Unambiguous batch.types) := by
  constructor
  · intro types h
    have hfound : (batch.withTypes types).classification settings = batch.classification settings :=
      classification_withTypes hids h
    exact ⟨relationships_withTypes hids h, ownership_withTypes hids h,
      congrArg (·.malformed) hfound, congrArg (·.discarded) hfound⟩
  · constructor
    · exact unambiguous_of_nodes_eq hids
    · intro hu types h
      exact nodes_withTypes_of_unambiguous hids h hu

/-- A module with two aggregates that an entity is named after, and two converters of one event. -/
def billingBatch (first second : String) : Batch where
  source := "billing"
  types :=
    [.ofId "Bill" .aggregate, .ofId "Billing" .aggregate, .ofId "BillingItem" .entity,
      .ofId "Billed" .domainEvent, .ofId "InvoiceDue" .integrationEvent,
      { TypeFact.ofId first .integrationEventConverter with
        contracts := [.convertsEvent "Billed" "InvoiceDue"] },
      { TypeFact.ofId second .integrationEventConverter with
        contracts := [.convertsEvent "Billed" "InvoiceDue"] }]
  calls := []

theorem reordered_billingBatch (first second : String) :
    Reordered (billingBatch second first).types (billingBatch first second).types where
  perm := by
    change ([_, _, _, _, _] ++ [_, _]).Perm ([_, _, _, _, _] ++ [_, _])
    exact (List.Perm.swap ..).append_left _
  aggregates_eq := rfl

theorem analyze_withTypes_billingBatch :
    ((billingBatch "Old.Mapper" "New.Mapper").types.map (·.id)).Nodup ∧
      Unambiguous (billingBatch "Old.Mapper" "New.Mapper").types ∧
      ((billingBatch "New.Mapper" "Old.Mapper").analyze Settings.standard.analysis).SameGraph
        ((billingBatch "Old.Mapper" "New.Mapper").analyze Settings.standard.analysis) := by
  have hids : ((billingBatch "Old.Mapper" "New.Mapper").types.map (·.id)).Nodup := by decide
  have hu : Unambiguous (billingBatch "Old.Mapper" "New.Mapper").types :=
    ⟨by decide +kernel, by decide +kernel⟩
  have horder := reordered_billingBatch "Old.Mapper" "New.Mapper"
  obtain ⟨hsame, hnodes⟩ := analyze_withTypes _ Settings.standard.analysis hids
  obtain ⟨hrelationships, hownership, -⟩ := hsame _ horder
  exact ⟨hids, hu, hnodes.2 hu _ horder, hrelationships, hownership⟩

/-- Converters with different names give the node of their conversion the name of the first one. -/
theorem nodes_billingBatch :
    ((billingBatch "DueMapper" "DueSender").types.map (·.id)).Nodup ∧
      Reordered (billingBatch "DueSender" "DueMapper").types
        (billingBatch "DueMapper" "DueSender").types ∧
      (((billingBatch "DueMapper" "DueSender").withTypes
          (billingBatch "DueSender" "DueMapper").types).analyze Settings.standard.analysis).nodes ≠
        ((billingBatch "DueMapper" "DueSender").analyze Settings.standard.analysis).nodes :=
  ⟨by decide, reordered_billingBatch "DueMapper" "DueSender", by decide +kernel⟩

end Batch

end DomainFlow
