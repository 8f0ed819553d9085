import DomainFlow.CallGraph
import DomainFlow.Node
import DomainFlow.Ownership
import DomainFlow.Relationship

/-!
# Classification of facts

Every call, every event of a method and every contract of a type is judged: it gives a
relationship, it is malformed because it names a type that is missing or of the wrong kind, or it
is discarded because no rule applies to it. Where a call or an event concerns an entity that has
an owner, the relationship is put on the owner, under a method name that the name of the entity
qualifies.

## Main definitions

* `Verdict`: what becomes of a fact
* `Scope`: the types and the ownership against which facts are judged
* `Scope.judgeCall`, `Scope.judgeEvents`, `Scope.judgeContract`: the three groups of rules
* `Classification`: the relationships found and the facts dropped
* `Scope.classify`: the classification of all that a batch says
-/

namespace DomainFlow

/-- **What becomes of a fact.** -/
inductive Verdict
  | relates (relationship : Relationship)
  /-- The fact names a type that is missing or of the wrong kind. -/
  | malformed
  /-- The fact is well formed, but no rule applies to it. -/
  | discarded
  deriving DecidableEq

/-- The relationships found, and the numbers of facts dropped. -/
structure Classification where
  relationships : SortedSet Relationship
  malformed : Nat
  discarded : Nat

namespace Classification

/-- Nothing judged yet. -/
def empty : Classification := ⟨∅, 0, 0⟩

instance : EmptyCollection Classification := ⟨empty⟩

/-- Adds a verdict. -/
def record (result : Classification) : Verdict → Classification
  | .relates relationship =>
    { result with relationships := result.relationships.insert relationship }
  | .malformed => { result with malformed := result.malformed + 1 }
  | .discarded => { result with discarded := result.discarded + 1 }

/-- Adds verdicts in order. -/
def recordAll (result : Classification) (verdicts : List Verdict) : Classification :=
  verdicts.foldl record result

theorem mem_relationships_recordAll {result : Classification} {verdicts : List Verdict}
    {relationship : Relationship} :
    relationship ∈ (result.recordAll verdicts).relationships ↔
      relationship ∈ result.relationships ∨ .relates relationship ∈ verdicts := by
  induction verdicts generalizing result with
  | nil => simp [recordAll]
  | cons verdict rest ih =>
    rw [recordAll, List.foldl_cons]
    change relationship ∈ ((result.record verdict).recordAll rest).relationships ↔ _
    rw [ih]
    cases verdict <;> simp [record, or_left_comm, or_assoc]

theorem malformed_recordAll (result : Classification) (verdicts : List Verdict) :
    (result.recordAll verdicts).malformed = result.malformed + verdicts.count .malformed := by
  induction verdicts generalizing result with
  | nil => simp [recordAll]
  | cons verdict rest ih =>
    rw [recordAll, List.foldl_cons]
    change ((result.record verdict).recordAll rest).malformed = _
    rw [ih]
    cases verdict <;> simp [record]
    omega

theorem discarded_recordAll (result : Classification) (verdicts : List Verdict) :
    (result.recordAll verdicts).discarded = result.discarded + verdicts.count .discarded := by
  induction verdicts generalizing result with
  | nil => simp [recordAll]
  | cons verdict rest ih =>
    rw [recordAll, List.foldl_cons]
    change ((result.record verdict).recordAll rest).discarded = _
    rw [ih]
    cases verdict <;> simp [record]
    omega

end Classification

/-- **What facts are judged against**: the types of a batch and the owners of its entities. -/
structure Scope where
  types : List TypeFact
  ownership : Ownership

namespace Scope

/-- The declaration that counts for an id. -/
def find? (scope : Scope) (id : String) : Option TypeFact := declaration? scope.types id

/-- Whether an id is declared with a kind. -/
def isKind (scope : Scope) (id : String) (kind : TypeKind) : Bool :=
  match scope.find? id with
  | some fact => fact.kind = kind
  | none => false

/-- The endpoint of a method: on the owner, qualified by the entity's name, where the type is an
entity with an owner; otherwise on the type itself. -/
def endpoint (scope : Scope) (fact : TypeFact) (method : String) : MethodRef :=
  match fact.kind, scope.ownership.owner? fact.id with
  | .entity, some owner => ⟨owner, Node.methodId fact.name method⟩
  | _, _ => ⟨fact.id, method⟩

/-! ## Calls -/

/-- The kind of the relationship of a command sent by a type, if that type may send commands. -/
def sendingKind? (source : TypeKind) : Option RelationshipKind :=
  if source.isEventHandler then some .handlerToCommand
  else if source.nodeKind?.isSome then some .methodToCommand
  else none

/-- A sent command relates its source to the command. -/
def judgeSend (source target : TypeFact) (call : Call) : List Verdict :=
  if target.kind = .command then
    match sendingKind? source.kind with
    | some kind => [.relates ⟨⟨source.id, call.sourceMethod⟩, ⟨target.id, ""⟩, kind⟩]
    | none => [.discarded]
  else [.discarded]

/-- The call of a command handler relates every command that it handles to the called method. -/
def judgeInvocation (scope : Scope) (source target : TypeFact) (call : Call) : List Verdict :=
  if source.kind = .commandHandler ∧ target.kind.isDomainObject then
    match source.handledCommands with
    | [] => [.discarded]
    | commands =>
      commands.map fun command =>
        if scope.isKind command .command then
          .relates ⟨⟨command, ""⟩, scope.endpoint target call.calleeMethod, .commandToAggregateMethod⟩
        else .malformed
  else [.discarded]

/-- **The verdicts on a call.** A raised event is judged with the events of its method, unless it
is no domain event at all. -/
def judgeCall (scope : Scope) (call : Call) : List Verdict :=
  match scope.find? call.sourceType, scope.find? call.targetType with
  | some source, some target =>
    -- the kind of the call says what it may relate, the kinds of the types whether it does
    match call.kind with
    | .raiseDomainEvent => if target.kind = .domainEvent then [] else [.malformed]
    | .sendCommand => judgeSend source target call
    | .invocation | .construction => scope.judgeInvocation source target call
  | _, _ => [.malformed]

/-! ## Events -/

/-- **The verdicts on the events of a method**: a method of an aggregate or entity publishes the
domain events among them. All else was judged with the calls. -/
def judgeEvents (scope : Scope) (method : MethodRef) (events : SortedSet String) : List Verdict :=
  match scope.find? method.typeId with
  | some source =>
    if source.kind.isDomainObject then
      (events.toList.filter (scope.isKind · .domainEvent)).map fun event =>
        .relates ⟨scope.endpoint source method.method, ⟨event, ""⟩, .methodToDomainEvent⟩
    else []
  | none => []

/-! ## Contracts -/

/-- **The verdicts on a contract** of a declared type. The type has to be of the kind that the
contract is meant for, and the events have to be declared as such. The command that a handler
handles is judged with its calls. -/
def judgeContract (scope : Scope) (fact : TypeFact) : Contract → List Verdict
  | .handlesCommand _ => []
  | .handlesDomainEvent event =>
    if fact.kind ≠ .domainEventHandler then [.discarded]
    else if scope.isKind event .domainEvent then
      [.relates ⟨⟨event, ""⟩, ⟨fact.id, ""⟩, .domainEventToHandler⟩]
    else [.malformed]
  | .handlesIntegrationEvent event =>
    if fact.kind ≠ .integrationEventHandler then [.discarded]
    else if scope.isKind event .integrationEvent then
      [.relates ⟨⟨event, ""⟩, ⟨fact.id, ""⟩, .integrationEventToHandler⟩]
    else [.malformed]
  | .convertsEvent domainEvent integrationEvent =>
    if fact.kind ≠ .integrationEventConverter then [.discarded]
    else if scope.isKind domainEvent .domainEvent && scope.isKind integrationEvent .integrationEvent
    then [.relates ⟨⟨domainEvent, ""⟩, ⟨integrationEvent, ""⟩, .domainEventToIntegrationEvent⟩]
    else [.malformed]

/-! ## Classification -/

/-- The declarations that count, by id. -/
def declarations (scope : Scope) : SortedMap String TypeFact :=
  .ofFirst (scope.types.map fun fact => (fact.id, fact))

/-- The verdicts on calls. -/
def judgeCalls (scope : Scope) (calls : List Call) : List Verdict := calls.flatMap scope.judgeCall

/-- The verdicts on the events of all methods. -/
def judgeAllEvents (scope : Scope) (events : EventMap) : List Verdict :=
  events.entries.flatMap fun (method, raised) => scope.judgeEvents method raised

/-- The verdicts on the contracts of all types. -/
def judgeContracts (scope : Scope) : List Verdict :=
  scope.declarations.values.flatMap fun fact => fact.contracts.flatMap (scope.judgeContract fact)

/-- **The classification of all that a batch says.** -/
def classify (scope : Scope) (calls : List Call) (events : EventMap) : Classification :=
  ((∅ : Classification).recordAll (scope.judgeCalls calls)).recordAll (scope.judgeAllEvents events)
    |>.recordAll scope.judgeContracts

end Scope

end DomainFlow
