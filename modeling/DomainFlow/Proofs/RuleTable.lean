import DomainFlow.Proofs.Owners
import DomainFlow.Proofs.Verdicts

/-!
# The rules of classification

Facts are classified in three phases that add to one set. Here the rules are stated without phases,
verdicts and look-ups, one by one: what has to be said about the types at the two ends, and which
relationship it gives. The set that the phases arrive at is the set of relationships that some rule
gives, so no phase adds what the rules do not give, and no early exit loses what they do.

Rules speak of declarations that count, which are the first ones of their ids, and the methods of
aggregates and entities are put where ownership says.

## Main definitions

* `Scope.Counts`, `Scope.Declares`: which declarations rules speak of
* `Scope.Attributes`: where a method of a type is put
* `Call.Calls`: the method that an invocation or construction calls
* `Scope.Relates`: the rules

## Main results

* `Scope.attributes_iff`, `Call.calls_iff`: the places of methods and the called methods are exact
* `Scope.mem_relationships_classify_iff_relates`: classification finds what the rules give
-/

namespace DomainFlow

/-- **The method that a call calls.** However the extractor spells a constructor, it is the same one
method of its type. -/
inductive Call.Calls (call : Call) : String → Prop
  | invocation (kind : call.kind = .invocation) : Call.Calls call call.targetMethod
  | construction (kind : call.kind = .construction) : Call.Calls call "ctor"

theorem Call.calls_iff {call : Call} {method : String} :
    call.Calls method ↔
      (call.kind = .invocation ∨ call.kind = .construction) ∧ call.calleeMethod = method := by
  constructor
  · rintro (hkind | hkind)
    · exact ⟨.inl hkind, by rw [calleeMethod, hkind]⟩
    · exact ⟨.inr hkind, by rw [calleeMethod, hkind, constructorName]⟩
  · rintro ⟨hkind | hkind, rfl⟩
    · rw [calleeMethod, hkind]
      exact .invocation hkind
    · rw [calleeMethod, hkind]
      exact .construction hkind

theorem TypeKind.isDomainObject_iff {kind : TypeKind} :
    kind.isDomainObject = true ↔ kind = .aggregate ∨ kind = .entity := by
  cases kind <;> simp [isDomainObject]

namespace Scope

variable {scope : Scope} {fact : TypeFact} {method id : String} {kind : TypeKind}
  {calls : List Call} {call : Call} {events : EventMap} {r : Relationship}

/-! ## Declarations that count -/

/-- **A declaration counts** if it is the first one of its id. -/
def Counts (scope : Scope) (fact : TypeFact) : Prop :=
  IsFirst (fun other => other.id = fact.id) scope.types fact

/-- **An id is declared with a kind**, by the declaration that counts. -/
def Declares (scope : Scope) (id : String) (kind : TypeKind) : Prop :=
  ∃ fact, scope.Counts fact ∧ fact.id = id ∧ fact.kind = kind

theorem find?_eq_some_iff_counts :
    scope.find? id = some fact ↔ scope.Counts fact ∧ fact.id = id := by
  have hfirst : scope.find? id = some fact ↔ IsFirst (·.id = id) scope.types fact := by
    rw [find?, declaration?, find?_eq_some_iff_isFirst]
    exact isFirst_congr fun _ => decide_eq_true_iff
  rw [hfirst]
  constructor
  · intro h
    obtain rfl : fact.id = id := h.holds
    exact ⟨h, rfl⟩
  · rintro ⟨h, rfl⟩
    exact h

theorem isKind_iff_declares : scope.isKind id kind = true ↔ scope.Declares id kind := by
  have hfind : scope.Declares id kind ↔ ∃ fact, scope.find? id = some fact ∧ fact.kind = kind :=
    exists_congr fun _ => by rw [find?_eq_some_iff_counts, and_assoc]
  rw [hfind, isKind]
  cases scope.find? id <;> simp

/-- The declarations that are gone through for their contracts are those that count. -/
theorem mem_values_declarations_iff : fact ∈ scope.declarations.values ↔ scope.Counts fact := by
  have hentry : ∀ id, (id, fact) ∈ scope.declarations.entries ↔
      scope.Counts fact ∧ fact.id = id := by
    intro id
    rw [SortedMap.mem_entries_iff, get?_declarations, find?_eq_some_iff_counts]
  rw [SortedMap.values, List.mem_map]
  constructor
  · rintro ⟨⟨id, _⟩, hmem, rfl⟩
    exact ((hentry id).1 hmem).1
  · intro h
    exact ⟨(fact.id, fact), (hentry fact.id).2 ⟨h, rfl⟩, rfl⟩

/-! ## Places of methods -/

/-- **Where a method of a type is put**: under the name of the entity on its owner, if the type is
an entity with an owner, and on the type itself otherwise. -/
inductive Attributes (scope : Scope) (fact : TypeFact) (method : String) : MethodRef → Prop
  | owner {owner : String} {tier : Tier} (kind : fact.kind = .entity)
      (owned : scope.ownership.owners.get? fact.id = some (owner, tier)) :
      Attributes scope fact method ⟨owner, fact.name ++ "." ++ method⟩
  | itself (unowned : fact.kind = .entity → scope.ownership.owners.get? fact.id = none) :
      Attributes scope fact method ⟨fact.id, method⟩

theorem attributes_iff {place : MethodRef} :
    scope.Attributes fact method place ↔ scope.endpoint fact method = place := by
  constructor
  · rintro (⟨hkind, howned⟩ | hunowned)
    · rw [endpoint, hkind, Ownership.owner?, howned]
      rfl
    · rw [endpoint, Ownership.owner?]
      split
      · next hkind howner => simp [hunowned hkind] at howner
      · rfl
  · rintro rfl
    rw [endpoint]
    split
    · next hkind howner =>
      obtain ⟨⟨_, tier⟩, howned, rfl⟩ := Option.map_eq_some_iff.1 howner
      exact .owner hkind howned
    · next hother =>
      refine .itself fun hkind => ?_
      rw [← Option.map_eq_none_iff, Option.eq_none_iff_forall_ne_some]
      exact fun owner howner => hother owner hkind howner

/-! ## The rules -/

/-- **The rules.** Calls, events of methods and contracts relate commands, methods, events and
handlers, where both ends are declared as they have to be. -/
inductive Relates (scope : Scope) (calls : List Call) (events : EventMap) : Relationship → Prop
  /-- What is drawn as a node sends a command, unless it is an event handler. Command handlers and
  types of no special kind are not drawn. -/
  | sends {call : Call} {source : TypeFact} (mem : call ∈ calls) (kind : call.kind = .sendCommand)
      (counts : scope.Counts source) (id : source.id = call.sourceType)
      (isNode : source.kind ≠ .commandHandler ∧ source.kind ≠ .other)
      (notHandler : source.kind ≠ .domainEventHandler ∧ source.kind ≠ .integrationEventHandler)
      (isCommand : scope.Declares call.targetType .command) :
      Relates scope calls events
        ⟨⟨call.sourceType, call.sourceMethod⟩, ⟨call.targetType, ""⟩, .methodToCommand⟩
  /-- An event handler sends a command. -/
  | handlerSends {call : Call} {source : TypeFact} (mem : call ∈ calls)
      (kind : call.kind = .sendCommand) (counts : scope.Counts source)
      (id : source.id = call.sourceType)
      (isHandler : source.kind = .domainEventHandler ∨ source.kind = .integrationEventHandler)
      (isCommand : scope.Declares call.targetType .command) :
      Relates scope calls events
        ⟨⟨call.sourceType, call.sourceMethod⟩, ⟨call.targetType, ""⟩, .handlerToCommand⟩
  /-- A command executes the methods that a handler of it calls. -/
  | executes {call : Call} {handler target : TypeFact} {command method : String} {place : MethodRef}
      (mem : call ∈ calls) (called : call.Calls method)
      (counts : scope.Counts handler) (id : handler.id = call.sourceType)
      (kind : handler.kind = .commandHandler)
      (contract : .handlesCommand command ∈ handler.contracts)
      (isCommand : scope.Declares command .command)
      (countsTarget : scope.Counts target) (idTarget : target.id = call.targetType)
      (isObject : target.kind = .aggregate ∨ target.kind = .entity)
      (attributes : scope.Attributes target method place) :
      Relates scope calls events ⟨⟨command, ""⟩, place, .commandToAggregateMethod⟩
  /-- A method of an aggregate or entity publishes its domain events. -/
  | publishes {source : TypeFact} {method event : String} {raised : SortedSet String}
      {place : MethodRef} (entry : events.get? ⟨source.id, method⟩ = some raised)
      (mem : event ∈ raised) (isEvent : scope.Declares event .domainEvent)
      (counts : scope.Counts source) (isObject : source.kind = .aggregate ∨ source.kind = .entity)
      (attributes : scope.Attributes source method place) :
      Relates scope calls events ⟨place, ⟨event, ""⟩, .methodToDomainEvent⟩
  /-- A handler handles a domain event. -/
  | handlesDomainEvent {handler : TypeFact} {event : String} (counts : scope.Counts handler)
      (kind : handler.kind = .domainEventHandler)
      (contract : .handlesDomainEvent event ∈ handler.contracts)
      (isEvent : scope.Declares event .domainEvent) :
      Relates scope calls events ⟨⟨event, ""⟩, ⟨handler.id, ""⟩, .domainEventToHandler⟩
  /-- A handler handles an integration event. -/
  | handlesIntegrationEvent {handler : TypeFact} {event : String} (counts : scope.Counts handler)
      (kind : handler.kind = .integrationEventHandler)
      (contract : .handlesIntegrationEvent event ∈ handler.contracts)
      (isEvent : scope.Declares event .integrationEvent) :
      Relates scope calls events ⟨⟨event, ""⟩, ⟨handler.id, ""⟩, .integrationEventToHandler⟩
  /-- A converter converts a domain event. -/
  | converts {converter : TypeFact} {domainEvent integrationEvent : String}
      (counts : scope.Counts converter) (kind : converter.kind = .integrationEventConverter)
      (contract : .convertsEvent domainEvent integrationEvent ∈ converter.contracts)
      (isDomainEvent : scope.Declares domainEvent .domainEvent)
      (isIntegrationEvent : scope.Declares integrationEvent .integrationEvent) :
      Relates scope calls events
        ⟨⟨domainEvent, ""⟩, ⟨integrationEvent, ""⟩, .domainEventToIntegrationEvent⟩

/-- **What a type of some kind sends commands as**, with the kinds named. -/
theorem sendingKind?_eq_some_iff {source : TypeKind} {sent : RelationshipKind} :
    sendingKind? source = some sent ↔
      (source = .domainEventHandler ∨ source = .integrationEventHandler) ∧
          sent = .handlerToCommand ∨
        (source ≠ .domainEventHandler ∧ source ≠ .integrationEventHandler) ∧
          (source ≠ .commandHandler ∧ source ≠ .other) ∧ sent = .methodToCommand := by
  cases source <;> simp [sendingKind?, TypeKind.isEventHandler, TypeKind.nodeKind?, eq_comm]

/-- A relationship is found in one of the three phases. -/
theorem mem_classify_iff_phases :
    r ∈ (scope.classify calls events).relationships ↔
      (∃ call ∈ calls, .relates r ∈ scope.judgeCall call) ∨
      (∃ method raised, events.get? method = some raised ∧
        .relates r ∈ scope.judgeEvents method raised) ∨
      ∃ fact, scope.Counts fact ∧ ∃ contract ∈ fact.contracts,
        .relates r ∈ scope.judgeContract fact contract := by
  simp only [mem_relationships_classify, judgeCalls, judgeAllEvents, judgeContracts,
    List.mem_flatMap, Prod.exists, SortedMap.mem_entries_iff, mem_values_declarations_iff]

/-! ### Nothing is found but by the rules -/

theorem Relates.of_judgeCall (hcall : call ∈ calls) (h : .relates r ∈ scope.judgeCall call) :
    scope.Relates calls events r := by
  obtain ⟨source, target, hsource, htarget, h⟩ := relates_mem_judgeCall_iff.1 h
  obtain ⟨hcounts, hid⟩ := find?_eq_some_iff_counts.1 hsource
  obtain ⟨hcountsTarget, hidTarget⟩ := find?_eq_some_iff_counts.1 htarget
  rcases h with ⟨hkind, h⟩ | ⟨hkind, h⟩
  · obtain ⟨hcommand, sent, hsent, rfl⟩ := relates_mem_judgeSend_iff.1 h
    have hdeclared : scope.Declares call.targetType .command :=
      ⟨target, hcountsTarget, hidTarget, hcommand⟩
    rw [hid, hidTarget]
    -- event handlers are nodes too, so they have to be told apart first
    rcases sendingKind?_eq_some_iff.1 hsent with ⟨hhandler, rfl⟩ | ⟨hhandler, hnode, rfl⟩
    · exact .handlerSends hcall hkind hcounts hid hhandler hdeclared
    · exact .sends hcall hkind hcounts hid hnode hhandler hdeclared
  · obtain ⟨⟨hhandler, hobject⟩, command, hcommand, hdeclared, rfl⟩ :=
      relates_mem_judgeInvocation_iff.1 h
    exact .executes hcall (Call.calls_iff.2 ⟨hkind, rfl⟩) hcounts hid hhandler
      (TypeFact.mem_handledCommands.1 hcommand) (isKind_iff_declares.1 hdeclared) hcountsTarget
      hidTarget (TypeKind.isDomainObject_iff.1 hobject) (attributes_iff.2 rfl)

theorem Relates.of_judgeEvents {method : MethodRef} {raised : SortedSet String}
    (hentry : events.get? method = some raised) (h : .relates r ∈ scope.judgeEvents method raised) :
    scope.Relates calls events r := by
  obtain ⟨source, hsource, hobject, event, hmem, hevent, rfl⟩ := relates_mem_judgeEvents_iff.1 h
  obtain ⟨hcounts, hid⟩ := find?_eq_some_iff_counts.1 hsource
  have hentry' : events.get? ⟨source.id, method.method⟩ = some raised := by rw [hid, hentry]
  exact .publishes hentry' hmem (isKind_iff_declares.1 hevent) hcounts
    (TypeKind.isDomainObject_iff.1 hobject) (attributes_iff.2 rfl)

theorem Relates.of_judgeContract {contract : Contract} (hcounts : scope.Counts fact)
    (hcontract : contract ∈ fact.contracts) (h : .relates r ∈ scope.judgeContract fact contract) :
    scope.Relates calls events r := by
  cases contract with
  | handlesCommand command => cases h
  | handlesDomainEvent event =>
    obtain ⟨hkind, hevent, rfl⟩ := relates_mem_contract_iff.1 h
    exact .handlesDomainEvent hcounts hkind hcontract (isKind_iff_declares.1 hevent)
  | handlesIntegrationEvent event =>
    obtain ⟨hkind, hevent, rfl⟩ := relates_mem_contract_iff.1 h
    exact .handlesIntegrationEvent hcounts hkind hcontract (isKind_iff_declares.1 hevent)
  | convertsEvent domainEvent integrationEvent =>
    obtain ⟨hkind, hevents, rfl⟩ := relates_mem_contract_iff.1 h
    obtain ⟨hdomain, hintegration⟩ := Bool.and_eq_true_iff.1 hevents
    exact .converts hcounts hkind hcontract (isKind_iff_declares.1 hdomain)
      (isKind_iff_declares.1 hintegration)

theorem Relates.of_mem_classify (h : r ∈ (scope.classify calls events).relationships) :
    scope.Relates calls events r := by
  rcases mem_classify_iff_phases.1 h with
    ⟨call, hcall, h⟩ | ⟨method, raised, hentry, h⟩ | ⟨fact, hcounts, contract, hcontract, h⟩
  · exact .of_judgeCall hcall h
  · exact .of_judgeEvents hentry h
  · exact .of_judgeContract hcounts hcontract h

/-! ### All that the rules give is found -/

theorem relates_mem_judgeCall_of_sends {source : TypeFact} {sent : RelationshipKind}
    (hkind : call.kind = .sendCommand) (hcounts : scope.Counts source)
    (hid : source.id = call.sourceType) (hsent : sendingKind? source.kind = some sent)
    (hcommand : scope.Declares call.targetType .command) :
    .relates ⟨⟨call.sourceType, call.sourceMethod⟩, ⟨call.targetType, ""⟩, sent⟩ ∈
      scope.judgeCall call := by
  obtain ⟨target, htarget, htargetId, htargetKind⟩ := hcommand
  refine relates_mem_judgeCall_iff.2 ⟨source, target, find?_eq_some_iff_counts.2 ⟨hcounts, hid⟩,
    find?_eq_some_iff_counts.2 ⟨htarget, htargetId⟩, .inl ⟨hkind, ?_⟩⟩
  rw [relates_mem_judgeSend_iff, hid, htargetId]
  exact ⟨htargetKind, sent, hsent, rfl⟩

/-- Each rule belongs to one of the phases, and its relationship is found there. -/
theorem Relates.mem_classify (h : scope.Relates calls events r) :
    r ∈ (scope.classify calls events).relationships := by
  rw [mem_classify_iff_phases]
  cases h with
  | sends mem kind counts id isNode notHandler isCommand =>
    have hsent := sendingKind?_eq_some_iff.2 (.inr ⟨notHandler, isNode, rfl⟩)
    exact .inl ⟨_, mem, relates_mem_judgeCall_of_sends kind counts id hsent isCommand⟩
  | handlerSends mem kind counts id isHandler isCommand =>
    have hsent := sendingKind?_eq_some_iff.2 (.inl ⟨isHandler, rfl⟩)
    exact .inl ⟨_, mem, relates_mem_judgeCall_of_sends kind counts id hsent isCommand⟩
  | executes mem called counts id kind contract isCommand countsTarget idTarget isObject
      attributes =>
    obtain ⟨hkind, rfl⟩ := Call.calls_iff.1 called
    obtain rfl := attributes_iff.1 attributes
    have hhandler := find?_eq_some_iff_counts.2 ⟨counts, id⟩
    have htarget := find?_eq_some_iff_counts.2 ⟨countsTarget, idTarget⟩
    refine .inl ⟨_, mem, relates_mem_judgeCall_iff.2 ⟨_, _, hhandler, htarget, .inr ⟨hkind, ?_⟩⟩⟩
    exact relates_mem_judgeInvocation_iff.2 ⟨⟨kind, TypeKind.isDomainObject_iff.2 isObject⟩, _,
      TypeFact.mem_handledCommands.2 contract, isKind_iff_declares.2 isCommand, rfl⟩
  | publishes entry mem isEvent counts isObject attributes =>
    obtain rfl := attributes_iff.1 attributes
    have hsource := find?_eq_some_iff_counts.2 ⟨counts, rfl⟩
    refine .inr (.inl ⟨_, _, entry, relates_mem_judgeEvents_iff.2 ⟨_, hsource, ?_⟩⟩)
    exact ⟨TypeKind.isDomainObject_iff.2 isObject, _, mem, isKind_iff_declares.2 isEvent, rfl⟩
  | handlesDomainEvent counts kind contract isEvent =>
    exact .inr (.inr ⟨_, counts, _, contract,
      relates_mem_contract_iff.2 ⟨kind, isKind_iff_declares.2 isEvent, rfl⟩⟩)
  | handlesIntegrationEvent counts kind contract isEvent =>
    exact .inr (.inr ⟨_, counts, _, contract,
      relates_mem_contract_iff.2 ⟨kind, isKind_iff_declares.2 isEvent, rfl⟩⟩)
  | converts counts kind contract isDomainEvent isIntegrationEvent =>
    have hevents := Bool.and_eq_true_iff.2
      ⟨isKind_iff_declares.2 isDomainEvent, isKind_iff_declares.2 isIntegrationEvent⟩
    exact .inr (.inr ⟨_, counts, _, contract, relates_mem_contract_iff.2 ⟨kind, hevents, rfl⟩⟩)

/-- **Classification finds what the rules give**: whatever the types, the owners, the calls and the
events are, a relationship is found exactly if one of the rules gives it. -/
theorem mem_relationships_classify_iff_relates (scope : Scope) (calls : List Call)
    (events : EventMap) (r : Relationship) :
    r ∈ (scope.classify calls events).relationships ↔ scope.Relates calls events r :=
  ⟨Relates.of_mem_classify, Relates.mem_classify⟩

end Scope

end DomainFlow
