import DomainFlow.Delta
import DomainFlow.Proofs.Ordered

/-!
# What facts relate

Each of the rules by which facts are judged relates something under certain conditions, and then one
thing only. These conditions are stated once, rule by rule; whatever is said about relationships of
a classification follows from them. The rules look at the declarations that count and at the owners
of entities, and at nothing else of the types.

## Main definitions

* `Scope.verdicts`: the verdicts on all that a batch says
* `Scope.Agrees`: whether facts are judged against the same declarations and owners
* `Batch.scope`: what the facts of a batch are judged against

## Main results

* `Scope.relates_mem_judgeCall_iff`: what a call relates
* `Scope.relates_mem_judgeEvents_iff`: what the events of a method relate
* `Scope.relates_mem_contract_iff`: what a contract relates
* `Scope.Agrees.classify`: facts judged against the same are classified alike
* `Batch.mem_classification_iff`: the relationships that a batch contributes
-/

namespace DomainFlow

theorem TypeFact.mem_handledCommands {fact : TypeFact} {command : String} :
    command ∈ fact.handledCommands ↔ .handlesCommand command ∈ fact.contracts := by
  rw [handledCommands, List.mem_filterMap]
  constructor
  · rintro ⟨contract, hmem, heq⟩
    cases contract <;> cases heq
    exact hmem
  · intro hmem
    exact ⟨_, hmem, rfl⟩

namespace Scope

variable {scope other : Scope} {source target : TypeFact} {call : Call} {r : Relationship}

theorem relates_mem_judgeSend_iff :
    .relates r ∈ judgeSend source target call ↔ target.kind = .command ∧
      ∃ kind, sendingKind? source.kind = some kind ∧
        r = ⟨⟨source.id, call.sourceMethod⟩, ⟨target.id, ""⟩, kind⟩ := by
  rw [judgeSend]
  by_cases htarget : target.kind = .command
  · cases hkind : sendingKind? source.kind <;> simp [htarget]
  · simp [htarget]

theorem relates_mem_judgeInvocation_iff :
    .relates r ∈ scope.judgeInvocation source target call ↔
      (source.kind = .commandHandler ∧ target.kind.isDomainObject = true) ∧
        ∃ command ∈ source.handledCommands, scope.isKind command .command = true ∧
          r = ⟨⟨command, ""⟩, scope.endpoint target call.calleeMethod, .commandToAggregateMethod⟩ := by
  rw [judgeInvocation]
  by_cases hkinds : source.kind = .commandHandler ∧ target.kind.isDomainObject
  · rw [if_pos hkinds, iff_true_intro hkinds, true_and]
    split
    · next hnone => simp [hnone]
    · rw [List.mem_map]
      refine exists_congr fun command => and_congr_right fun _ => ?_
      by_cases hcommand : scope.isKind command .command = true
      · rw [if_pos hcommand, Verdict.relates.injEq, and_iff_right hcommand, eq_comm]
      · rw [if_neg hcommand]
        exact iff_of_false nofun fun h => hcommand h.1
  · rw [if_neg hkinds]
    exact iff_of_false (by simp) fun h => hkinds h.1

/-- **What a call relates**: a sent command, or the commands of a handler that calls a method. -/
theorem relates_mem_judgeCall_iff :
    .relates r ∈ scope.judgeCall call ↔ ∃ source target,
      scope.find? call.sourceType = some source ∧ scope.find? call.targetType = some target ∧
        (call.kind = .sendCommand ∧ .relates r ∈ judgeSend source target call ∨
          (call.kind = .invocation ∨ call.kind = .construction) ∧
            .relates r ∈ scope.judgeInvocation source target call) := by
  rw [judgeCall]
  cases scope.find? call.sourceType with
  | none => simp
  | some source =>
    cases scope.find? call.targetType with
    | none => simp
    | some target =>
      cases hkind : call.kind with
      | invocation => simp
      | construction => simp
      | sendCommand => simp
      | raiseDomainEvent => by_cases htarget : target.kind = .domainEvent <;> simp [htarget]

/-- **What the events of a method relate**: a method of an aggregate or entity and each domain event
among them. -/
theorem relates_mem_judgeEvents_iff {method : MethodRef} {events : SortedSet String} :
    .relates r ∈ scope.judgeEvents method events ↔ ∃ source,
      scope.find? method.typeId = some source ∧ source.kind.isDomainObject = true ∧
        ∃ event ∈ events, scope.isKind event .domainEvent = true ∧
          r = ⟨scope.endpoint source method.method, ⟨event, ""⟩, .methodToDomainEvent⟩ := by
  rw [judgeEvents]
  cases scope.find? method.typeId with
  | none => simp
  | some source =>
    by_cases hkind : source.kind.isDomainObject = true
    · simp only [hkind, if_true, List.mem_map, List.mem_filter, SortedSet.mem_toList,
        Verdict.relates.injEq, Option.some.injEq, exists_eq_left', true_and, and_assoc, @eq_comm _ r]
    · simp [hkind]

/-- **What a contract relates.** The verdicts relate something only if the contract fits its type and
what it names is declared as it has to be. -/
theorem relates_mem_contract_iff {fits valid : Prop} [Decidable fits] [Decidable valid]
    {r r' : Relationship} :
    Verdict.relates r ∈ (if ¬fits then [.discarded]
      else if valid then [.relates r'] else [.malformed]) ↔ fits ∧ valid ∧ r = r' := by
  by_cases hfits : fits <;> by_cases hvalid : valid <;> simp [hfits, hvalid]

theorem mem_relationships_classify {calls : List Call} {events : EventMap} :
    r ∈ (scope.classify calls events).relationships ↔ .relates r ∈ scope.judgeCalls calls ∨
      .relates r ∈ scope.judgeAllEvents events ∨ .relates r ∈ scope.judgeContracts := by
  have hempty : r ∉ (∅ : Classification).relationships := SortedSet.not_mem_empty r
  simp only [classify, Classification.mem_relationships_recordAll, hempty, false_or, or_assoc]

/-! ## All verdicts -/

/-- The verdicts on all that a batch says, in the order in which they are recorded. -/
def verdicts (scope : Scope) (calls : List Call) (events : EventMap) : List Verdict :=
  scope.judgeCalls calls ++ scope.judgeAllEvents events ++ scope.judgeContracts

theorem classify_eq_recordAll (scope : Scope) (calls : List Call) (events : EventMap) :
    scope.classify calls events = (∅ : Classification).recordAll (scope.verdicts calls events) := by
  simp only [classify, verdicts, Classification.recordAll, List.foldl_append]

/-- **Whether facts are judged against the same**: the same declaration for each id, and the same
owner for each entity. -/
structure Agrees (scope other : Scope) : Prop where
  find? (id : String) : scope.find? id = other.find? id
  owner? (entity : String) : scope.ownership.owner? entity = other.ownership.owner? entity

theorem get?_declarations (scope : Scope) (id : String) :
    scope.declarations.get? id = scope.find? id := by
  rw [declarations, SortedMap.get?_ofFirst_keyed TypeFact.id, find?, declaration?]

namespace Agrees

theorem isKind (h : scope.Agrees other) : scope.isKind = other.isKind := by
  funext id kind
  rw [Scope.isKind, Scope.isKind, h.find?]

theorem endpoint (h : scope.Agrees other) : scope.endpoint = other.endpoint := by
  funext fact method
  rw [Scope.endpoint, Scope.endpoint, h.owner?]

theorem judgeCall (h : scope.Agrees other) (call : Call) :
    scope.judgeCall call = other.judgeCall call := by
  rw [Scope.judgeCall, Scope.judgeCall, h.find?, h.find?]
  simp only [judgeInvocation, h.isKind, h.endpoint]

theorem judgeEvents (h : scope.Agrees other) (method : MethodRef) (events : SortedSet String) :
    scope.judgeEvents method events = other.judgeEvents method events := by
  rw [Scope.judgeEvents, Scope.judgeEvents, h.find?, h.isKind, h.endpoint]

theorem judgeContract (h : scope.Agrees other) (fact : TypeFact) :
    scope.judgeContract fact = other.judgeContract fact := by
  funext contract
  cases contract <;> simp only [Scope.judgeContract, h.isKind]

theorem declarations (h : scope.Agrees other) : scope.declarations = other.declarations := by
  apply SortedMap.ext_get?
  intro id
  rw [get?_declarations, get?_declarations, h.find?]

/-- **Facts get the same verdicts** where they are judged against the same. -/
theorem verdicts (h : scope.Agrees other) (calls : List Call) (events : EventMap) :
    scope.verdicts calls events = other.verdicts calls events := by
  have hcalls : scope.judgeCall = other.judgeCall := funext h.judgeCall
  have hcontracts : scope.judgeContract = other.judgeContract := funext h.judgeContract
  simp only [Scope.verdicts, judgeCalls, judgeAllEvents, judgeContracts, hcalls, h.judgeEvents,
    hcontracts, h.declarations]

theorem classify (h : scope.Agrees other) (calls : List Call) (events : EventMap) :
    scope.classify calls events = other.classify calls events := by
  rw [classify_eq_recordAll, classify_eq_recordAll, h.verdicts]

end Agrees

end Scope

namespace Batch

/-- What the facts of a batch are judged against. -/
def scope (batch : Batch) (settings : AnalysisSettings) : Scope :=
  ⟨batch.types, batch.ownership settings.ownershipSuffixes⟩

/-- **The relationships that a batch contributes** are those that some call, some method with its
events, or some contract relates. -/
theorem mem_classification_iff {batch : Batch} {settings : AnalysisSettings} {r : Relationship} :
    r ∈ (batch.classification settings).relationships ↔
      (∃ call ∈ batch.calls, .relates r ∈ (batch.scope settings).judgeCall call) ∨
      (∃ method events, (batch.events settings.mergeSameNameEvents).get? method = some events ∧
        .relates r ∈ (batch.scope settings).judgeEvents method events) ∨
      ∃ fact ∈ (batch.scope settings).declarations.values, ∃ contract ∈ fact.contracts,
        .relates r ∈ (batch.scope settings).judgeContract fact contract := by
  change r ∈ (Scope.classify (batch.scope settings) _ _).relationships ↔ _
  rw [Scope.mem_relationships_classify, Scope.judgeCalls, Scope.judgeAllEvents,
    Scope.judgeContracts, List.mem_flatMap, List.mem_flatMap, List.mem_flatMap]
  simp only [List.mem_flatMap, Prod.exists, SortedMap.mem_entries_iff]

end Batch

end DomainFlow
