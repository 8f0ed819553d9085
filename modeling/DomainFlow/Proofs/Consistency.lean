import Mathlib.Data.Option.Basic
import DomainFlow.Build
import DomainFlow.Proofs.Merge
import DomainFlow.Proofs.Verdicts

/-!
# Consistency of the graph

A graph is consistent if every relationship has a known kind and both its endpoints have nodes. In
a store that has derived its nodes, an endpoint has its node as soon as its type is a node. A batch
declares the types of all relationships that it contributes, save one: a converter of events has
nodes for its conversions only, but counts as a source of commands.

## Main definitions

* `Anchored`: an id is the id of a node that a list of types declares
* `SentByConverter`: a call of a batch by which a converter sends a command

## Main results

* `Store.violations_derive_eq_nil_iff`: consistency of a store that has derived its nodes
* `Batch.anchored_of_mem_classification`: what a batch declares of the relationships it contributes
* `violations_ofBatches_eq_nil_iff`: a build is consistent exactly if every converter that sends a
  command is a node by other means
-/

namespace DomainFlow

namespace Store

/-! ## Endpoints -/

theorem violations_eq_nil_iff {store : Store} :
    store.violations = [] ↔ ∀ r ∈ store.relationships, r.kind ≠ .unknown ∧
      store.nodes.contains (store.sourceId r) = true ∧
      store.nodes.contains (store.targetId r) = true := by
  simp only [violations, List.flatMap_eq_nil_iff, SortedSet.mem_toList]
  refine forall_congr' fun r => imp_congr_right fun _ => ?_
  rw [violationsOf]
  by_cases h : r.kind = .unknown
  · simp [h]
  · rw [if_neg h, List.map_eq_nil_iff, List.filter_eq_nil_iff]
    simp [h]

theorem methodNode?_eq_some_iff {nodes : SortedMap String Node} {endpoint : MethodRef}
    {node : Node} :
    methodNode? nodes endpoint = some node ↔ endpoint.method ≠ "" ∧
      ∃ owner kind, nodes.get? endpoint.typeId = some owner ∧ owner.kind.methodKind? = some kind ∧
        node = ⟨Node.methodId endpoint.typeId endpoint.method, endpoint.method, kind⟩ := by
  simp only [methodNode?, Option.bind_eq_bind, Option.bind_eq_some_iff, Option.guard_eq_some',
    exists_const, Option.some.injEq, @eq_comm _ node, ← exists_and_left]

/-- The kinds of methods have no methods of their own. -/
theorem methodKind?_eq_none_of_methodKind? {kind methodKind : NodeKind}
    (h : kind.methodKind? = some methodKind) : methodKind.methodKind? = none := by
  cases kind <;> cases h <;> rfl

theorem get?_nodes_derive (store : Store) (id : String) :
    store.derive.nodes.get? id = (store.declared.get? id).or
      ((missingNodes store.declared store.relationships.toList).get? id) :=
  SortedMap.get?_orElse ..

/-- A derived node is a method. -/
theorem methodKind?_of_get?_missingNodes {nodes : SortedMap String Node}
    {relationships : List Relationship} {id : String} {node : Node}
    (h : (missingNodes nodes relationships).get? id = some node) : node.kind.methodKind? = none := by
  rw [missingNodes, get?_nodeMap] at h
  obtain ⟨endpoint, -, hnode⟩ :=
    List.mem_filterMap.1 (List.mem_filter.1 (List.mem_of_find?_eq_some h)).1
  obtain ⟨-, owner, kind, -, hkind, rfl⟩ := methodNode?_eq_some_iff.1 hnode
  exact methodKind?_eq_none_of_methodKind? hkind

/-- Types that carry methods are declared, never derived. -/
theorem methodNode?_declared {store : Store} {endpoint : MethodRef} {node : Node}
    (h : methodNode? store.derive.nodes endpoint = some node) :
    methodNode? store.declared endpoint = some node := by
  obtain ⟨hmethod, owner, kind, howner, hkind, hnode⟩ := methodNode?_eq_some_iff.1 h
  refine methodNode?_eq_some_iff.2 ⟨hmethod, owner, kind, ?_, hkind, hnode⟩
  rw [get?_nodes_derive, Option.or_eq_some_iff] at howner
  rcases howner with howner | ⟨-, howner⟩
  · exact howner
  · rw [methodKind?_of_get?_missingNodes howner] at hkind
    cases hkind

/-- **Where nodes have been derived, an endpoint has its node as soon as its type is a node.** -/
theorem contains_endpointId_derive {store : Store} {r : Relationship}
    (hr : r ∈ store.relationships) {endpoint : MethodRef} (he : endpoint ∈ r.endpoints) :
    store.derive.nodes.contains (store.derive.endpointId endpoint) = true ↔
      store.derive.nodes.contains endpoint.typeId = true := by
  rw [endpointId]
  split
  · next node hnode =>
    have htype : store.derive.nodes.contains endpoint.typeId = true := by
      obtain ⟨-, owner, -, howner, -⟩ := methodNode?_eq_some_iff.1 hnode
      exact SortedMap.contains_iff.2 ⟨owner, howner⟩
    have hmethod : store.derive.nodes.contains node.id = true := by
      rw [SortedMap.contains, get?_nodes_derive, Option.isSome_or, Bool.or_eq_true]
      cases hdeclared : store.declared.contains node.id with
      | true => exact .inl hdeclared
      | false =>
        exact .inr (SortedMap.mem_keys_iff.1 (mem_keys_missingNodes.2
          ⟨⟨r, SortedSet.mem_toList.2 hr, endpoint, he, node, methodNode?_declared hnode, rfl⟩,
            hdeclared⟩))
    exact iff_of_true hmethod htype
  · exact Iff.rfl

/-- **Consistency where nodes have been derived**: no relationship is unclassified, and the types of
all endpoints are nodes. -/
theorem violations_derive_eq_nil_iff {store : Store} :
    store.derive.violations = [] ↔ ∀ r ∈ store.relationships, r.kind ≠ .unknown ∧
      store.derive.nodes.contains r.source.typeId = true ∧
      store.derive.nodes.contains r.target.typeId = true := by
  rw [violations_eq_nil_iff]
  change (∀ r ∈ store.relationships, _) ↔ _
  refine forall_congr' fun r => imp_congr_right fun hr => and_congr_right fun _ => ?_
  have hsource : r.source ∈ r.endpoints := by simp [Relationship.endpoints]
  have htarget : r.target ∈ r.endpoints := by simp [Relationship.endpoints]
  exact and_congr (contains_endpointId_derive hr hsource) (contains_endpointId_derive hr htarget)

end Store

/-! ## What types declare -/

/-- Whether a type of this kind is a node under its own id. -/
def TypeKind.hasOwnNode (kind : TypeKind) : Bool :=
  kind.nodeKind?.isSome && kind ≠ .integrationEventConverter

theorem TypeKind.hasOwnNode_of_isDomainObject {kind : TypeKind} (h : kind.isDomainObject = true) :
    kind.hasOwnNode = true := by
  cases kind <;> first | rfl | cases h

/-- Of the types that may send commands, only converters are no nodes under their own ids. -/
theorem TypeKind.hasOwnNode_or_eq_of_sendingKind? {kind : TypeKind} {sent : RelationshipKind}
    (h : Scope.sendingKind? kind = some sent) :
    kind.hasOwnNode = true ∨ kind = .integrationEventConverter := by
  cases kind <;> first | exact .inl rfl | exact .inr rfl | cases h

theorem sendingKind?_ne_unknown {kind : TypeKind} {sent : RelationshipKind}
    (h : Scope.sendingKind? kind = some sent) : sent ≠ .unknown := by
  rw [Scope.sendingKind?] at h
  split at h
  · cases h
    nofun
  · split at h <;> cases h
    nofun

/-- The id of a node that a list of types declares. -/
def Anchored (types : List TypeFact) (id : String) : Prop := ∃ node ∈ declaredNodes types, node.id = id

/-- A classified relationship between nodes that a list of types declares. -/
def Relationship.Anchored (types : List TypeFact) (r : Relationship) : Prop :=
  r.kind ≠ .unknown ∧ DomainFlow.Anchored types r.source.typeId ∧
    DomainFlow.Anchored types r.target.typeId

theorem anchored_of_mem {types : List TypeFact} {fact : TypeFact} (hfact : fact ∈ types)
    (hkind : fact.kind.hasOwnNode = true) : Anchored types fact.id := by
  rw [TypeKind.hasOwnNode, Bool.and_eq_true, Option.isSome_iff_exists] at hkind
  obtain ⟨⟨kind, hkind⟩, hne⟩ := hkind
  refine ⟨⟨fact.id, fact.name, kind⟩, List.mem_flatMap.2 ⟨fact, hfact, ?_⟩, rfl⟩
  rw [TypeFact.nodes]
  split
  · next hnone => rw [hnone] at hkind; cases hkind
  · next hconverter => cases h : fact.kind <;> simp_all [TypeKind.nodeKind?]
  · next hsome =>
    rw [hsome] at hkind
    cases hkind
    exact List.mem_cons_self

namespace Ownership

/-- Owners are aggregates. -/
theorem exists_of_owner?_resolve {suffixes : List String} {aggregates entities : List TypeFact}
    {containment : List Containment} {entity owner : String}
    (h : (resolve suffixes aggregates entities containment).owner? entity = some owner) :
    ∃ aggregate ∈ aggregates, aggregate.id = owner := by
  rw [owner?, get?_owners_resolve, Option.map_eq_some_iff] at h
  obtain ⟨⟨_, tier⟩, hlookup, rfl⟩ := h
  have hclaim := SortedMap.mem_of_lookup hlookup
  rw [claims, List.mem_append, List.mem_append] at hclaim
  rcases hclaim with (hclaim | hclaim) | hclaim
  · simp only [containmentClaims, List.mem_flatMap, List.mem_filterMap] at hclaim
    obtain ⟨aggregate, haggregate, fact, -, hfact⟩ := hclaim
    refine ⟨aggregate, haggregate, ?_⟩
    split at hfact
    · split at hfact <;> cases hfact
      rfl
    · cases hfact
  · simp only [namingClaims, List.mem_filterMap, Option.map_eq_some_iff] at hclaim
    obtain ⟨fact, -, aggregate, haggregate, heq⟩ := hclaim
    cases heq
    exact ⟨aggregate, List.mem_of_find?_eq_some haggregate, rfl⟩
  · simp only [colocationClaims, List.mem_filterMap] at hclaim
    obtain ⟨fact, -, hfact⟩ := hclaim
    split at hfact
    · next only honly =>
      cases hfact
      have : only ∈ aggregates.filter (·.namespaceName = fact.namespaceName) := by simp [honly]
      exact ⟨only, (List.mem_filter.1 this).1, rfl⟩
    · cases hfact

end Ownership

/-- A call by which a converter of events sends a command. -/
def SentByConverter (types : List TypeFact) (call : Call) : Prop :=
  call.kind = .sendCommand ∧
    (declaration? types call.sourceType).map (·.kind) = some .integrationEventConverter ∧
    (declaration? types call.targetType).map (·.kind) = some .command

namespace Scope

variable {scope : Scope}

theorem anchored_of_isKind {id : String} {kind : TypeKind} (h : scope.isKind id kind = true)
    (hkind : kind.hasOwnNode = true) : Anchored scope.types id := by
  rw [isKind] at h
  split at h
  · next fact hfact =>
    obtain rfl := of_decide_eq_true h
    rw [← id_of_declaration? hfact]
    exact anchored_of_mem (mem_of_declaration? hfact) hkind
  · cases h

theorem anchored_of_mem_judgeSend {source target : TypeFact} {call : Call} {r : Relationship}
    (hsource : source ∈ scope.types) (htarget : target ∈ scope.types)
    (h : .relates r ∈ judgeSend source target call) :
    r.Anchored scope.types ∨ source.kind = .integrationEventConverter ∧ target.kind = .command ∧
      r.source.typeId = source.id ∧ r.kind ≠ .unknown ∧ Anchored scope.types r.target.typeId := by
  obtain ⟨hcommand, kind, hkind, rfl⟩ := relates_mem_judgeSend_iff.1 h
  have hto : Anchored scope.types target.id := anchored_of_mem htarget (by rw [hcommand]; rfl)
  have hknown := sendingKind?_ne_unknown hkind
  rcases TypeKind.hasOwnNode_or_eq_of_sendingKind? hkind with hown | hconverter
  · exact .inl ⟨hknown, anchored_of_mem hsource hown, hto⟩
  · exact .inr ⟨hconverter, hcommand, rfl, hknown, hto⟩

theorem anchored_of_mem_judgeContract {fact : TypeFact} (hfact : fact ∈ scope.types)
    {contract : Contract} {r : Relationship} (h : .relates r ∈ scope.judgeContract fact contract) :
    r.Anchored scope.types := by
  cases contract with
  | handlesCommand command => cases h
  | handlesDomainEvent event =>
    obtain ⟨hkind, hevent, rfl⟩ := relates_mem_contract_iff.1 h
    exact ⟨nofun, anchored_of_isKind hevent rfl, anchored_of_mem hfact (by rw [hkind]; rfl)⟩
  | handlesIntegrationEvent event =>
    obtain ⟨hkind, hevent, rfl⟩ := relates_mem_contract_iff.1 h
    exact ⟨nofun, anchored_of_isKind hevent rfl, anchored_of_mem hfact (by rw [hkind]; rfl)⟩
  | convertsEvent domainEvent integrationEvent =>
    -- a conversion relates its two events, the converter itself is no endpoint
    obtain ⟨-, hevents, rfl⟩ := relates_mem_contract_iff.1 h
    obtain ⟨hdomain, hintegration⟩ := (Bool.and_eq_true _ _).mp hevents
    exact ⟨nofun, anchored_of_isKind hdomain rfl, anchored_of_isKind hintegration rfl⟩

section Owned

variable (howners : ∀ entity owner, scope.ownership.owner? entity = some owner →
  Anchored scope.types owner)

include howners

/-- The type of a domain object's endpoint is declared, and so is the owner it may be put on. -/
theorem anchored_endpoint {fact : TypeFact} (hfact : fact ∈ scope.types)
    (hkind : fact.kind.isDomainObject = true) (method : String) :
    Anchored scope.types (scope.endpoint fact method).typeId := by
  rw [endpoint]
  split
  · next howner => exact howners _ _ howner
  · exact anchored_of_mem hfact (TypeKind.hasOwnNode_of_isDomainObject hkind)

theorem anchored_of_mem_judgeInvocation {source target : TypeFact} {call : Call} {r : Relationship}
    (htarget : target ∈ scope.types) (h : .relates r ∈ scope.judgeInvocation source target call) :
    r.Anchored scope.types := by
  obtain ⟨⟨-, hdomain⟩, command, -, hcommand, rfl⟩ := relates_mem_judgeInvocation_iff.1 h
  exact ⟨nofun, anchored_of_isKind hcommand rfl, anchored_endpoint howners htarget hdomain _⟩

theorem anchored_of_mem_judgeEvents {method : MethodRef} {events : SortedSet String}
    {r : Relationship} (h : .relates r ∈ scope.judgeEvents method events) :
    r.Anchored scope.types := by
  obtain ⟨source, hsource, hdomain, event, -, hevent, rfl⟩ := relates_mem_judgeEvents_iff.1 h
  exact ⟨nofun, anchored_endpoint howners (mem_of_declaration? hsource) hdomain _,
    anchored_of_isKind hevent rfl⟩

/-- **The types of a relationship found in a call are declared**, unless a converter sends a
command. -/
theorem anchored_of_mem_judgeCall {call : Call} {r : Relationship}
    (h : .relates r ∈ scope.judgeCall call) :
    r.Anchored scope.types ∨ SentByConverter scope.types call ∧ r.source.typeId = call.sourceType ∧
      r.kind ≠ .unknown ∧ Anchored scope.types r.target.typeId := by
  obtain ⟨source, target, hsource, htarget, ⟨hkind, h⟩ | ⟨-, h⟩⟩ := relates_mem_judgeCall_iff.1 h
  · rcases anchored_of_mem_judgeSend (mem_of_declaration? hsource) (mem_of_declaration? htarget) h
      with h | ⟨hconverter, hcommand, hid, hknown, hto⟩
    · exact .inl h
    · have hsent : SentByConverter scope.types call :=
        ⟨hkind, by rw [show declaration? scope.types call.sourceType = some source from hsource,
          Option.map_some, hconverter],
          by rw [show declaration? scope.types call.targetType = some target from htarget,
            Option.map_some, hcommand]⟩
      exact .inr ⟨hsent, hid.trans (id_of_declaration? hsource), hknown, hto⟩
  · exact .inl (anchored_of_mem_judgeInvocation howners (mem_of_declaration? htarget) h)

end Owned

theorem mem_types_of_mem_declarations {fact : TypeFact} (h : fact ∈ scope.declarations.values) :
    fact ∈ scope.types := by
  obtain ⟨⟨id, fact⟩, hentry, rfl⟩ := List.mem_map.1 h
  have hlookup := SortedMap.mem_entries_iff.1 hentry
  rw [declarations, SortedMap.get?_ofFirst] at hlookup
  obtain ⟨declared, hmem, heq⟩ := List.mem_map.1 (SortedMap.mem_of_lookup hlookup)
  cases heq
  exact hmem

/-- A converter that sends a command is related to it. -/
theorem relates_mem_judgeCall_of_sentByConverter {call : Call}
    (h : SentByConverter scope.types call) :
    .relates ⟨⟨call.sourceType, call.sourceMethod⟩, ⟨call.targetType, ""⟩, .methodToCommand⟩ ∈
      scope.judgeCall call := by
  obtain ⟨hkind, hsource, htarget⟩ := h
  obtain ⟨source, hfind, hconverter⟩ := Option.map_eq_some_iff.1 hsource
  obtain ⟨target, hfind', hcommand⟩ := Option.map_eq_some_iff.1 htarget
  rw [← id_of_declaration? hfind, ← id_of_declaration? hfind']
  refine relates_mem_judgeCall_iff.2 ⟨source, target, hfind, hfind', .inl ⟨hkind, ?_⟩⟩
  exact relates_mem_judgeSend_iff.2 ⟨hcommand, .methodToCommand, by rw [hconverter]; rfl, rfl⟩

end Scope

namespace Batch

variable {batch : Batch} {settings : AnalysisSettings}

theorem anchored_of_owner? {suffixes : List String} {entity owner : String}
    (h : (batch.ownership suffixes).owner? entity = some owner) : Anchored batch.types owner := by
  obtain ⟨aggregate, haggregate, rfl⟩ := Ownership.exists_of_owner?_resolve h
  obtain ⟨hmem, hkind⟩ := List.mem_filter.1 haggregate
  exact anchored_of_mem hmem (by rw [of_decide_eq_true hkind]; rfl)

/-- **A batch declares the types of the relationships that it contributes**, unless a converter
sends a command. -/
theorem anchored_of_mem_classification {r : Relationship}
    (h : r ∈ (batch.classification settings).relationships) :
    r.Anchored batch.types ∨ ∃ call ∈ batch.calls, SentByConverter batch.types call ∧
      r.source.typeId = call.sourceType ∧ r.kind ≠ .unknown ∧
      Anchored batch.types r.target.typeId := by
  have howners : ∀ entity owner, (batch.scope settings).ownership.owner? entity = some owner →
      Anchored (batch.scope settings).types owner := fun _ _ => anchored_of_owner?
  rcases mem_classification_iff.1 h with ⟨call, hcall, h⟩ | ⟨_, _, -, h⟩ | ⟨fact, hfact, _, -, h⟩
  · rcases Scope.anchored_of_mem_judgeCall howners h with h | h
    · exact .inl h
    · exact .inr ⟨call, hcall, h⟩
  · exact .inl (Scope.anchored_of_mem_judgeEvents howners h)
  · exact .inl (Scope.anchored_of_mem_judgeContract (Scope.mem_types_of_mem_declarations hfact) h)

theorem mem_classification_of_sentByConverter {call : Call} (hcall : call ∈ batch.calls)
    (h : SentByConverter batch.types call) :
    ⟨⟨call.sourceType, call.sourceMethod⟩, ⟨call.targetType, ""⟩, .methodToCommand⟩ ∈
      (batch.classification settings).relationships := by
  have h' : SentByConverter (batch.scope settings).types call := h
  exact mem_classification_iff.2 (.inl ⟨call, hcall,
    Scope.relates_mem_judgeCall_of_sentByConverter h'⟩)

theorem mem_relationships_analyze {r : Relationship} :
    r ∈ (batch.analyze settings).relationships ↔
      r ∈ (batch.classification settings).relationships := SortedSet.mem_toList

/-- The contribution of a batch holds a node for every id that its types declare. -/
theorem exists_mem_nodes_analyze {id : String} (h : Anchored batch.types id) :
    ∃ node ∈ (batch.analyze settings).nodes, node.id = id := by
  obtain ⟨node, hnode, rfl⟩ := h
  have hfind : ((nodeMap (declaredNodes batch.types ++ endpointNodes batch.types
      (batch.classification settings).relationships.toList)).get? node.id).isSome = true := by
    rw [get?_nodeMap, List.find?_isSome]
    exact ⟨node, List.mem_append_left _ hnode, by simp⟩
  obtain ⟨first, hfirst⟩ := Option.isSome_iff_exists.1 hfind
  refine ⟨first, List.mem_map.2 ⟨(node.id, first), SortedMap.mem_entries_iff.2 hfirst, rfl⟩, ?_⟩
  rw [get?_nodeMap] at hfirst
  simpa using List.find?_some hfirst

end Batch

/-! ## Consistency of a build -/

section Build

variable {settings : AnalysisSettings} {batches : List Batch}

theorem mem_relationships_ofBatches {r : Relationship} :
    r ∈ (Build.ofBatches settings batches).store.relationships ↔
      ∃ batch ∈ batches, r ∈ (batch.classification settings).relationships := by
  change r ∈ (Store.mergeAll ∅ (batches.map (·.analyze settings))).relationships ↔ _
  rw [Store.mem_relationships_mergeAll]
  have hempty : r ∉ (∅ : Store).relationships := SortedSet.not_mem_empty r
  rw [or_iff_right hempty]
  constructor
  · rintro ⟨delta, hdelta, hr⟩
    obtain ⟨batch, hbatch, rfl⟩ := List.mem_map.1 hdelta
    exact ⟨batch, hbatch, Batch.mem_relationships_analyze.1 hr⟩
  · rintro ⟨batch, hbatch, hr⟩
    exact ⟨_, List.mem_map.2 ⟨batch, hbatch, rfl⟩, Batch.mem_relationships_analyze.2 hr⟩

/-- What some batch declares is a node of the build. -/
theorem contains_of_anchored {batch : Batch} (hbatch : batch ∈ batches) {id : String}
    (h : Anchored batch.types id) :
    (Build.ofBatches settings batches).store.nodes.contains id = true := by
  obtain ⟨node, hnode, hid⟩ : ∃ node ∈ (batch.analyze settings).nodes, node.id = id :=
    Batch.exists_mem_nodes_analyze h
  refine Store.contains_of_contains_declared (Store.contains_declared_mergeAll.2 (.inr ?_))
  exact ⟨batch.analyze settings, List.mem_map.2 ⟨batch, hbatch, rfl⟩, node, hnode, hid⟩

/-- **A build is consistent exactly if every converter that sends a command is a node** by some
other declaration. Nothing else that batches may say, unknown ids, repeated declarations and
contradicting kinds included, makes a build inconsistent. -/
theorem violations_ofBatches_eq_nil_iff :
    (Build.ofBatches settings batches).store.violations = [] ↔
      ∀ batch ∈ batches, ∀ call ∈ batch.calls, SentByConverter batch.types call →
        (Build.ofBatches settings batches).store.nodes.contains call.sourceType = true := by
  have hderive : (Build.ofBatches settings batches).store.derive =
      (Build.ofBatches settings batches).store := Store.derive_ofDeltas _
  rw [← hderive, Store.violations_derive_eq_nil_iff, hderive]
  constructor
  · intro h batch hbatch call hcall hsent
    have hr : ⟨⟨call.sourceType, call.sourceMethod⟩, ⟨call.targetType, ""⟩, .methodToCommand⟩ ∈
        (Build.ofBatches settings batches).store.relationships :=
      mem_relationships_ofBatches.2
        ⟨batch, hbatch, Batch.mem_classification_of_sentByConverter hcall hsent⟩
    exact (h _ hr).2.1
  · intro h r hr
    obtain ⟨batch, hbatch, hr⟩ := mem_relationships_ofBatches.1 hr
    rcases Batch.anchored_of_mem_classification hr with
      ⟨hknown, hsource, htarget⟩ | ⟨call, hcall, hsent, hid, hknown, htarget⟩
    · exact ⟨hknown, contains_of_anchored hbatch hsource, contains_of_anchored hbatch htarget⟩
    · exact ⟨hknown, hid ▸ h batch hbatch call hcall hsent, contains_of_anchored hbatch htarget⟩

/-- The fingerprint of a contribution has no part in the consistency of the store. -/
theorem violations_derive_addFingerprint (store : Store) (fingerprint : String) :
    (store.addFingerprint fingerprint).derive.violations = store.derive.violations := by
  rw [Store.addFingerprint]
  split <;> rfl

/-- A converter that sends a command. -/
def relayBatch : Batch where
  source := "relay"
  types := [.ofId "Relay" .integrationEventConverter, .ofId "Go" .command]
  calls := [.send "Relay" "Convert" "Go"]

/-- A converter that sends a command and is declared as nothing else makes a build inconsistent. -/
theorem violations_relayBatch :
    (Build.ofBatches Settings.standard.analysis [relayBatch]).store.violations =
      [.missingNode ⟨⟨"Relay", "Convert"⟩, ⟨"Go", ""⟩, .methodToCommand⟩ "Relay"] := by
  simp only [Build.ofBatches, Build.ofDeltas, Store.ofDeltas, Store.mergeAll, List.map_cons,
    List.map_nil, List.foldl_cons, List.foldl_nil, Store.merge, Store.add,
    violations_derive_addFingerprint]
  decide +kernel

end Build

end DomainFlow
