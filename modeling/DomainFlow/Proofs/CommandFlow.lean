import DomainFlow.Proofs.ChainGraph
import DomainFlow.Proofs.Consistency
import DomainFlow.Proofs.Propagation

/-!
# What a command leads to

A command leads to the method that its handler calls, and from there to the events that the method
causes and to the commands that it sends. The called method and the publishing method are found on
different ways, but both are put on the owner of an owned entity by the same rule, so they mean the
same node whatever kinds other batches declare. The sending method stays where it is. So the chain
of a command always shows the events, and it shows the commands sent by methods of an owned entity
only where the flow gets to them by another way.

## Main definitions

* `Batch.Executes`: a handler of a command calls a method of an aggregate or entity
* `Batch.Sends`: a method sends a command

## Main results

* `Scope.methods_of_mem_judgeContract`: contracts relate types, not methods
* `exists_chain_publishes`: the chain of a command shows the events that its methods cause
* `exists_chain_sends_iff`: when the chain of a command shows the commands that its methods send
-/

namespace DomainFlow

/-! ## What batches say -/

namespace Batch

/-- Whether the declaration that counts for an id has a kind. -/
def Declares (batch : Batch) (id : String) (kind : TypeKind) : Prop :=
  (declaration? batch.types id).map (·.kind) = some kind

instance (batch : Batch) (id : String) (kind : TypeKind) : Decidable (batch.Declares id kind) :=
  inferInstanceAs (Decidable (_ = _))

/-- **A command executes a method**: a handler of the command calls a method of an aggregate or
entity, or constructs an object of it. -/
structure Executes (batch : Batch) (command : String) (target : TypeFact) (method : String) :
    Prop where
  declares : batch.Declares command .command
  declared : declaration? batch.types target.id = some target
  isDomainObject : target.kind.isDomainObject = true
  called : ∃ call ∈ batch.calls, (call.kind = .invocation ∨ call.kind = .construction) ∧
    call.callee = ⟨target.id, method⟩ ∧
    ∃ handler ∈ declaration? batch.types call.sourceType, handler.kind = .commandHandler ∧
      .handlesCommand command ∈ handler.contracts

/-- **A method sends a command.** -/
structure Sends (batch : Batch) (method : MethodRef) (command : String) : Prop where
  declares : batch.Declares command .command
  sent : ∃ call ∈ batch.calls, call.kind = .sendCommand ∧ call.caller = method ∧
    call.targetType = command

instance (batch : Batch) (command : String) (target : TypeFact) (method : String) :
    Decidable (batch.Executes command target method) :=
  decidable_of_iff (_ ∧ _ ∧ _ ∧ _)
    ⟨fun ⟨hcommand, htarget, hkind, hcall⟩ => ⟨hcommand, htarget, hkind, hcall⟩,
      fun h => ⟨h.declares, h.declared, h.isDomainObject, h.called⟩⟩

instance (batch : Batch) (method : MethodRef) (command : String) :
    Decidable (batch.Sends method command) :=
  decidable_of_iff (_ ∧ _) ⟨fun ⟨hcommand, hcall⟩ => ⟨hcommand, hcall⟩, fun h => ⟨h.declares, h.sent⟩⟩

variable {batch : Batch} {settings : AnalysisSettings} {command : String} {target : TypeFact}
  {method : String}

theorem isKind_scope_iff {id : String} {kind : TypeKind} :
    (batch.scope settings).isKind id kind = true ↔ batch.Declares id kind := by
  rw [Scope.isKind, Scope.find?, scope, Declares]
  cases declaration? batch.types id with
  | none => simp only [Option.map_none, Bool.false_eq_true, reduceCtorEq]
  | some fact => rw [decide_eq_true_iff, Option.map_some, Option.some_inj]

theorem Declares.anchored {id : String} {kind : TypeKind} (h : batch.Declares id kind)
    (hkind : kind.hasOwnNode = true) : Anchored batch.types id := by
  obtain ⟨fact, hfact, rfl⟩ := Option.map_eq_some_iff.1 h
  rw [← id_of_declaration? hfact]
  exact anchored_of_mem (mem_of_declaration? hfact) hkind

/-! ## What they contribute -/

/-- A handled command is related to the called method, on the owner of an owned entity. -/
theorem mem_classification_of_executes (h : batch.Executes command target method) :
    ⟨⟨command, ""⟩, (batch.scope settings).endpoint target method, .commandToAggregateMethod⟩ ∈
      (batch.classification settings).relationships := by
  obtain ⟨call, hcall, hkind, hcallee, handler, hhandler, hhandlerKind, hcontract⟩ := h.called
  obtain ⟨htype, hmethod⟩ := MethodRef.mk.inj hcallee
  have hjudged : .relates ⟨⟨command, ""⟩, (batch.scope settings).endpoint target method,
      .commandToAggregateMethod⟩ ∈ (batch.scope settings).judgeInvocation handler target call := by
    rw [← hmethod]
    exact Scope.relates_mem_judgeInvocation_iff.2 ⟨⟨hhandlerKind, h.isDomainObject⟩, command,
      TypeFact.mem_handledCommands.2 hcontract, isKind_scope_iff.2 h.declares, rfl⟩
  have htarget : (batch.scope settings).find? call.targetType = some target := htype ▸ h.declared
  exact mem_classification_iff.2 (.inl ⟨call, hcall, Scope.relates_mem_judgeCall_iff.2
    ⟨handler, target, hhandler, htarget, .inr ⟨hkind, hjudged⟩⟩⟩)

/-- The command that a method of an aggregate or entity sends is related to that method. -/
theorem mem_classification_of_sends (htarget : declaration? batch.types target.id = some target)
    (hdomain : target.kind.isDomainObject = true) (h : batch.Sends ⟨target.id, method⟩ command) :
    ⟨⟨target.id, method⟩, ⟨command, ""⟩, .methodToCommand⟩ ∈
      (batch.classification settings).relationships := by
  obtain ⟨call, hcall, hkind, hcaller, rfl⟩ := h.sent
  obtain ⟨htype, hmethod⟩ := MethodRef.mk.inj hcaller
  obtain ⟨sent, hsent, hcommand⟩ := Option.map_eq_some_iff.1 h.declares
  have hsending : Scope.sendingKind? target.kind = some .methodToCommand := by
    cases hkind : target.kind <;> rw [hkind] at hdomain <;> first | rfl | cases hdomain
  have hjudged : .relates ⟨⟨target.id, method⟩, ⟨call.targetType, ""⟩, .methodToCommand⟩ ∈
      Scope.judgeSend target sent call := by
    rw [← hmethod, ← id_of_declaration? hsent]
    exact Scope.relates_mem_judgeSend_iff.2 ⟨hcommand, _, hsending, rfl⟩
  have hsource : (batch.scope settings).find? call.sourceType = some target := htype ▸ htarget
  exact mem_classification_iff.2 (.inl ⟨call, hcall, Scope.relates_mem_judgeCall_iff.2
    ⟨target, sent, hsource, hsent, .inl ⟨hkind, hjudged⟩⟩⟩)

/-- A method of an aggregate or entity is related to the events that it causes. -/
theorem mem_classification_of_raises (htarget : declaration? batch.types target.id = some target)
    (hdomain : target.kind.isDomainObject = true) {raiser : MethodRef} {event : String}
    (hreach : Reaches (callSteps batch.calls) ⟨target.id, method⟩ raiser)
    (hraise : Raises batch.calls raiser event) (hevent : batch.Declares event .domainEvent) :
    ⟨(batch.scope settings).endpoint target method, ⟨event, ""⟩, .methodToDomainEvent⟩ ∈
      (batch.classification settings).relationships := by
  obtain ⟨events, hevents, hmem⟩ : ∃ events,
      (batch.events settings.mergeSameNameEvents).get? ⟨target.id, method⟩ = some events ∧
        event ∈ events := exists_events_of_reaches hreach hraise
  exact mem_classification_iff.2 (.inr (.inl ⟨_, events, hevents, Scope.relates_mem_judgeEvents_iff.2
    ⟨target, htarget, hdomain, event, hmem, isKind_scope_iff.2 hevent, rfl⟩⟩))

end Batch

/-! ## Contracts relate types -/

namespace Scope

variable {scope : Scope} {r : Relationship}

theorem kind_of_mem_judgeCall {call : Call} (h : .relates r ∈ scope.judgeCall call) :
    r.kind = .methodToCommand ∨ r.kind = .handlerToCommand ∨ r.kind = .commandToAggregateMethod := by
  obtain ⟨source, target, -, -, ⟨-, h⟩ | ⟨-, h⟩⟩ := relates_mem_judgeCall_iff.1 h
  · obtain ⟨-, kind, hkind, rfl⟩ := relates_mem_judgeSend_iff.1 h
    rw [sendingKind?] at hkind
    split at hkind
    · exact .inr (.inl (Option.some_inj.1 hkind).symm)
    · split at hkind <;> cases hkind
      exact .inl rfl
  · obtain ⟨-, command, -, -, rfl⟩ := relates_mem_judgeInvocation_iff.1 h
    exact .inr (.inr rfl)

theorem kind_of_mem_judgeEvents {method : MethodRef} {events : SortedSet String}
    (h : .relates r ∈ scope.judgeEvents method events) : r.kind = .methodToDomainEvent := by
  obtain ⟨source, -, -, event, -, -, rfl⟩ := relates_mem_judgeEvents_iff.1 h
  rfl

/-- **Contracts relate types**, not methods of theirs. -/
theorem methods_of_mem_judgeContract {fact : TypeFact} {contract : Contract}
    (h : .relates r ∈ scope.judgeContract fact contract) :
    r.source.method = "" ∧ r.target.method = "" := by
  cases contract with
  | handlesCommand command => cases h
  | handlesDomainEvent event =>
    obtain ⟨-, -, rfl⟩ := relates_mem_contract_iff.1 h
    exact ⟨rfl, rfl⟩
  | handlesIntegrationEvent event =>
    obtain ⟨-, -, rfl⟩ := relates_mem_contract_iff.1 h
    exact ⟨rfl, rfl⟩
  | convertsEvent domainEvent integrationEvent =>
    obtain ⟨-, -, rfl⟩ := relates_mem_contract_iff.1 h
    exact ⟨rfl, rfl⟩

end Scope

/-- Only the methods of an owned entity are put on another type. -/
theorem Scope.endpoint_of_unowned {scope : Scope} {fact : TypeFact} {method : String}
    (h : fact.kind = .aggregate ∨ scope.ownership.owner? fact.id = none) :
    scope.endpoint fact method = ⟨fact.id, method⟩ := by
  rw [endpoint]
  rcases h with h | h
  · rw [h]
  · rw [h]
    split
    · next hnone => cases hnone
    · rfl

/-- Whatever handles or converts a domain event is related to it by a contract. -/
theorem Batch.methods_of_mem_classification {batch : Batch} {settings : AnalysisSettings}
    {r : Relationship} (h : r ∈ (batch.classification settings).relationships)
    (hkind : r.kind = .domainEventToHandler ∨ r.kind = .domainEventToIntegrationEvent) :
    r.source.method = "" ∧ r.target.method = "" := by
  rcases Batch.mem_classification_iff.1 h with ⟨call, -, h⟩ | ⟨_, _, -, h⟩ | ⟨fact, -, _, -, h⟩
  · rcases Scope.kind_of_mem_judgeCall h with hcall | hcall | hcall <;>
      rw [hcall] at hkind <;> rcases hkind with hkind | hkind <;> cases hkind
  · rw [Scope.kind_of_mem_judgeEvents h] at hkind
    rcases hkind with hkind | hkind <;> cases hkind
  · exact Scope.methods_of_mem_judgeContract h

/-! ## Chains of commands -/

theorem Chain.Links.target_mem {chain : Chain} {source target : String} {label : Label}
    (h : chain.Links source label target) : target ∈ chain.nodeIds := by
  obtain ⟨-, -, node, hnode, -, rfl, -⟩ := h
  exact List.mem_map.2 ⟨node, hnode, rfl⟩

/-- A path avoids a step, or it gets to where the step starts. -/
theorem Reaches.avoids_or {α : Type} [DecidableEq α] {edges : List (α × α)} {a b : α}
    (h : Reaches edges a b) (step : α × α) :
    Reaches (edges.filter (· ≠ step)) a b ∨ Reaches edges a step.1 := by
  induction h with
  | refl => exact .inl .refl
  | @tail b c hreach he ih =>
    rcases ih with ih | ih
    · by_cases heq : (b, c) = step
      · exact .inr (heq ▸ hreach)
      · exact .inl (ih.tail (List.mem_filter.2 ⟨he, decide_eq_true heq⟩))
    · exact .inr ih

section Chains

variable {settings : AnalysisSettings} {batches : List Batch} {batch : Batch}

theorem traceFrom?_of_declares (hbatch : batch ∈ batches) {id : String} {kind : TypeKind}
    (h : batch.Declares id kind) (hkind : kind.hasOwnNode = true) :
    (Build.ofBatches settings batches).store.traceFrom? id =
      some ((Build.ofBatches settings batches).store.trace id) := by
  rw [Store.traceFrom?, if_pos (contains_of_anchored hbatch (h.anchored hkind))]

/-- The chain of a build shows what any batch contributes to it. -/
theorem links_of_mem_classification (hbatch : batch ∈ batches) {r : Relationship}
    (hr : r ∈ (batch.classification settings).relationships) {label : Label}
    (hlabel : r.kind.label? = some label) {start : String}
    (hsource : (Build.ofBatches settings batches).store.sourceId r ∈
      ((Build.ofBatches settings batches).store.trace start).nodeIds) :
    ((Build.ofBatches settings batches).store.trace start).Links
      ((Build.ofBatches settings batches).store.sourceId r) label
      ((Build.ofBatches settings batches).store.targetId r) :=
  Store.links_trace.2 ⟨hsource, r, mem_relationships_ofBatches.2 ⟨batch, hbatch, hr⟩, hlabel, rfl, rfl⟩

variable {command : String} {target : TypeFact} {method : String}

theorem links_of_executes (settings : AnalysisSettings) (hbatch : batch ∈ batches)
    (h : batch.Executes command target method) :
    ((Build.ofBatches settings batches).store.trace command).Links command .execute
      ((Build.ofBatches settings batches).store.endpointId
        ((batch.scope settings).endpoint target method)) := by
  -- an endpoint without a method is the node of its type, whatever kind that is declared with
  have hstart : command ∈ ((Build.ofBatches settings batches).store.trace command).nodeIds :=
    Store.mem_nodeIds_trace.2 .refl
  exact links_of_mem_classification hbatch (Batch.mem_classification_of_executes h) rfl hstart

/-- A module whose orders own their items. To add an item is to construct it, and the constructor sends
a command and, by a helper, raises an event. -/
def orderingBatch : Batch where
  source := "ordering"
  types :=
    [.ofId "Order" .aggregate, .ofId "OrderItem" .entity, .ofId "AddItem" .command,
      .ofId "Notify" .command, .ofId "ItemAdded" .domainEvent,
      { TypeFact.ofId "AddItemHandler" .commandHandler with contracts := [.handlesCommand "AddItem"] }]
  calls :=
    [.construction "AddItemHandler" "Handle" "OrderItem", .send "OrderItem" "ctor" "Notify",
      .invocation "OrderItem" "ctor" "OrderItem" "Announce", .raise "OrderItem" "Announce" "ItemAdded"]

/-- A module that takes orders for endpoints and handles the event. -/
def billingBatch : Batch where
  source := "billing"
  types :=
    [.ofId "Order" .endpoint, .ofId "ItemAdded" .domainEvent,
      { TypeFact.ofId "Bill" .domainEventHandler with contracts := [.handlesDomainEvent "ItemAdded"] }]
  calls := []

/-- The same module without its orders, so its items have no owner. -/
def looseBatch : Batch := { orderingBatch with types := orderingBatch.types.tail }

/-- **A command leads to the events that it causes.** Where a handler of the command calls a method
of an aggregate or entity from which calls lead to a raise of a domain event, the chain of the
command shows the execution of a node that publishes the event, and all that handles or converts the
event. Neither an owner of the entity nor what other batches declare cuts this flow. -/
theorem exists_chain_publishes (hbatch : batch ∈ batches)
    (hexecutes : batch.Executes command target method) {raiser : MethodRef} {event : String}
    (hreach : Reaches (callSteps batch.calls) ⟨target.id, method⟩ raiser)
    (hraise : Raises batch.calls raiser event) (hevent : batch.Declares event .domainEvent) :
    ∃ chain, (Build.ofBatches settings batches).store.traceFrom? command = some chain ∧
      (∃ node, chain.Links command .execute node ∧ chain.Links node .publishes event) ∧
      ∀ other ∈ batches, ∀ r ∈ (other.analyze settings).relationships,
        r.kind = .domainEventToHandler ∨ r.kind = .domainEventToIntegrationEvent →
        r.source.typeId = event → r.target.typeId ∈ chain.nodeIds := by
  have hexecute := links_of_executes settings hbatch hexecutes
  have hpublish : ((Build.ofBatches settings batches).store.trace command).Links
      ((Build.ofBatches settings batches).store.endpointId
        ((batch.scope settings).endpoint target method)) .publishes event :=
    links_of_mem_classification hbatch (Batch.mem_classification_of_raises hexecutes.declared
      hexecutes.isDomainObject hreach hraise hevent) rfl hexecute.target_mem
  refine ⟨_, traceFrom?_of_declares hbatch hexecutes.declares rfl, ⟨_, hexecute, hpublish⟩, ?_⟩
  rintro other hother ⟨⟨source, sourceMethod⟩, ⟨target', targetMethod⟩, kind⟩ hr hkind rfl
  have hr' := Batch.mem_relationships_analyze.1 hr
  obtain ⟨rfl, rfl⟩ : sourceMethod = "" ∧ targetMethod = "" :=
    Batch.methods_of_mem_classification hr' hkind
  obtain ⟨label, hlabel⟩ : ∃ label, kind.label? = some label := by
    rcases hkind with hkind | hkind
    · exact ⟨.handles, congrArg RelationshipKind.label? hkind⟩
    · exact ⟨.converts, congrArg RelationshipKind.label? hkind⟩
  exact (links_of_mem_classification hother hr' hlabel hpublish.target_mem).target_mem

theorem exists_chain_publishes_orderingBatch :
    orderingBatch.Executes "AddItem" (.ofId "OrderItem" .entity) "ctor" ∧
      Reaches (callSteps orderingBatch.calls) ⟨"OrderItem", "ctor"⟩ ⟨"OrderItem", "Announce"⟩ ∧
      Raises orderingBatch.calls ⟨"OrderItem", "Announce"⟩ "ItemAdded" ∧
      orderingBatch.Declares "ItemAdded" .domainEvent ∧
      ∃ chain, (Build.ofBatches Settings.standard.analysis
          [billingBatch, orderingBatch]).store.traceFrom? "AddItem" = some chain ∧
        (∃ node, chain.Links "AddItem" .execute node ∧ chain.Links node .publishes "ItemAdded") ∧
        "Bill" ∈ chain.nodeIds := by
  have hexecutes : orderingBatch.Executes "AddItem" (.ofId "OrderItem" .entity) "ctor" := by decide
  have hreach : Reaches (callSteps orderingBatch.calls) ⟨"OrderItem", "ctor"⟩
      ⟨"OrderItem", "Announce"⟩ := .single (by decide)
  have hraise : Raises orderingBatch.calls ⟨"OrderItem", "Announce"⟩ "ItemAdded" := by decide
  have hevent : orderingBatch.Declares "ItemAdded" .domainEvent := by decide
  have hhandles : ⟨⟨"ItemAdded", ""⟩, ⟨"Bill", ""⟩, .domainEventToHandler⟩ ∈
      (billingBatch.analyze Settings.standard.analysis).relationships := by decide +kernel
  obtain ⟨chain, hchain, hlinks, hfollows⟩ := exists_chain_publishes
    (List.mem_cons_of_mem billingBatch List.mem_cons_self) hexecutes hreach hraise hevent
  exact ⟨hexecutes, hreach, hraise, hevent, chain, hchain, hlinks,
    hfollows billingBatch List.mem_cons_self _ hhandles (.inl rfl) rfl⟩

/-- **When a command leads to the commands that its methods send.** Unless the executed method is one
of an entity with an owner, it is the sending method, and the chain of the command shows what it
sends. In any case the chain shows the sent command exactly if the flow gets to the sending method,
or to the sent command by another way. -/
theorem exists_chain_sends_iff (hbatch : batch ∈ batches)
    (hexecutes : batch.Executes command target method) {sent : String}
    (hsends : batch.Sends ⟨target.id, method⟩ sent) :
    ∃ chain, (Build.ofBatches settings batches).store.traceFrom? command = some chain ∧
      chain.Links command .execute ((Build.ofBatches settings batches).store.endpointId
        ((batch.scope settings).endpoint target method)) ∧
      (target.kind = .aggregate ∨
          (batch.ownership settings.ownershipSuffixes).owner? target.id = none →
        chain.Links command .execute
            ((Build.ofBatches settings batches).store.endpointId ⟨target.id, method⟩) ∧
          chain.Links ((Build.ofBatches settings batches).store.endpointId ⟨target.id, method⟩)
            .sends sent) ∧
      (sent ∈ chain.nodeIds ↔
        (Build.ofBatches settings batches).store.endpointId ⟨target.id, method⟩ ∈ chain.nodeIds ∨
          Reaches ((Build.ofBatches settings batches).store.edges.filter
            (· ≠ ((Build.ofBatches settings batches).store.endpointId ⟨target.id, method⟩, sent)))
            command sent) := by
  have hexecute := links_of_executes settings hbatch hexecutes
  have hsend : ⟨⟨target.id, method⟩, ⟨sent, ""⟩, .methodToCommand⟩ ∈
      (batch.classification settings).relationships :=
    Batch.mem_classification_of_sends hexecutes.declared hexecutes.isDomainObject hsends
  have hstays : (Build.ofBatches settings batches).store.endpointId ⟨target.id, method⟩ ∈
      ((Build.ofBatches settings batches).store.trace command).nodeIds →
      ((Build.ofBatches settings batches).store.trace command).Links
        ((Build.ofBatches settings batches).store.endpointId ⟨target.id, method⟩) .sends sent :=
    links_of_mem_classification hbatch hsend rfl
  refine ⟨_, traceFrom?_of_declares hbatch hexecutes.declares rfl, hexecute, ?_, ?_, ?_⟩
  · intro hunowned
    rw [Scope.endpoint_of_unowned hunowned] at hexecute
    exact ⟨hexecute, hstays hexecute.target_mem⟩
  · intro hmem
    rw [Store.mem_nodeIds_trace] at hmem ⊢
    exact (hmem.avoids_or
      ((Build.ofBatches settings batches).store.endpointId ⟨target.id, method⟩, sent)).symm
  · rintro (hmem | hreach)
    · exact (hstays hmem).target_mem
    · exact Store.mem_nodeIds_trace.2 
        (Relation.ReflTransGen.mono (fun _ _ he => (List.mem_filter.1 he).1) _ _ hreach)

theorem exists_chain_sends_iff_looseBatch :
    looseBatch.Executes "AddItem" (.ofId "OrderItem" .entity) "ctor" ∧
      looseBatch.Sends ⟨"OrderItem", "ctor"⟩ "Notify" ∧
      ∃ chain, (Build.ofBatches Settings.standard.analysis [looseBatch]).store.traceFrom? "AddItem" =
          some chain ∧
        ∃ node, chain.Links "AddItem" .execute node ∧ chain.Links node .sends "Notify" := by
  have hexecutes : looseBatch.Executes "AddItem" (.ofId "OrderItem" .entity) "ctor" := by decide
  have hsends : looseBatch.Sends ⟨"OrderItem", "ctor"⟩ "Notify" := by decide
  have hunowned : (looseBatch.ownership Settings.standard.analysis.ownershipSuffixes).owner?
      "OrderItem" = none := by decide +kernel
  obtain ⟨chain, hchain, -, hlinks, -⟩ :=
    exists_chain_sends_iff List.mem_cons_self hexecutes hsends
  exact ⟨hexecutes, hsends, chain, hchain, _, hlinks (.inr hunowned)⟩

theorem traceFrom?_derive_addFingerprint (store : Store) (fingerprint start : String) :
    (store.addFingerprint fingerprint).derive.traceFrom? start = store.derive.traceFrom? start := by
  rw [Store.addFingerprint]
  split <;> rfl

/-- The item is constructed under its order, but it notifies under its own name, so the chain ends with
the event and misses the command. -/
theorem traceFrom?_orderingBatch :
    orderingBatch.Executes "AddItem" (.ofId "OrderItem" .entity) "ctor" ∧
      orderingBatch.Sends ⟨"OrderItem", "ctor"⟩ "Notify" ∧
      ∃ chain, (Build.ofBatches Settings.standard.analysis [orderingBatch]).store.traceFrom? "AddItem" =
          some chain ∧
        chain.nodeIds = ["AddItem", "Order.OrderItem.ctor", "ItemAdded"] ∧
        "Notify" ∉ chain.nodeIds := by
  have htrace : ((Build.ofBatches Settings.standard.analysis [orderingBatch]).store.traceFrom?
      "AddItem").map Chain.nodeIds = some ["AddItem", "Order.OrderItem.ctor", "ItemAdded"] := by
    simp only [Build.ofBatches, Build.ofDeltas, Store.ofDeltas, Store.mergeAll, List.map_cons,
      List.map_nil, List.foldl_cons, List.foldl_nil, Store.merge, Store.add,
      traceFrom?_derive_addFingerprint]
    decide +kernel
  obtain ⟨chain, hchain, hnodes⟩ := Option.map_eq_some_iff.1 htrace
  refine ⟨by decide, by decide, chain, hchain, hnodes, ?_⟩
  rw [hnodes]
  decide

end Chains

end DomainFlow
