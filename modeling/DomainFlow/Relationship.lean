import DomainFlow.Node

/-!
# Relationships

The typed edges of the architecture graph. An endpoint is a method of a type, or the type itself
where no method is meant, as for commands, events and handlers. The endpoints and the kind identify
a relationship, and they order the relationships of a graph.

## Main definitions

* `RelationshipKind`, `Relationship`
* `Label`: how an edge of a chain is labelled
* `RelationshipKind.label?`: the label of a kind; the unknown kind has none
-/

namespace DomainFlow

/-- **The kind of a relationship.** -/
inductive RelationshipKind
  | methodToCommand
  | commandToAggregateMethod
  | methodToDomainEvent
  | domainEventToHandler
  | integrationEventToHandler
  | domainEventToIntegrationEvent
  | handlerToCommand
  /-- The kind of a call that no rule matches. -/
  | unknown
  deriving DecidableEq

/-- **What an edge of a chain says.** The order of the labels is the order in which the edges that
leave a node are followed. -/
inductive Label
  | sends
  | execute
  | publishes
  | handles
  | converts
  deriving DecidableEq

namespace Label

/-- All labels, in their order. -/
def all : List Label := [.sends, .execute, .publishes, .handles, .converts]

/-- The text of a label. -/
def name : Label → String
  | sends => "sends"
  | execute => "execute"
  | publishes => "publishes"
  | handles => "handles"
  | converts => "converts"

/-- The label of a text. -/
def ofName? (text : String) : Option Label := all.find? (·.name == text)

theorem ofName?_name (label : Label) : ofName? label.name = some label := by
  cases label <;> decide

end Label

namespace RelationshipKind

/-- All kinds, in their order. -/
def all : List RelationshipKind :=
  [.methodToCommand, .commandToAggregateMethod, .methodToDomainEvent, .domainEventToHandler,
    .integrationEventToHandler, .domainEventToIntegrationEvent, .handlerToCommand, .unknown]

/-- The name a kind is written by. -/
def name : RelationshipKind → String
  | methodToCommand => "MethodToCommand"
  | commandToAggregateMethod => "CommandToAggregateMethod"
  | methodToDomainEvent => "MethodToDomainEvent"
  | domainEventToHandler => "DomainEventToHandler"
  | integrationEventToHandler => "IntegrationEventToHandler"
  | domainEventToIntegrationEvent => "DomainEventToIntegrationEvent"
  | handlerToCommand => "HandlerToCommand"
  | unknown => "Unknown"

/-- The kind of a name. -/
def ofName? (text : String) : Option RelationshipKind := all.find? (·.name == text)

theorem ofName?_name (kind : RelationshipKind) : ofName? kind.name = some kind := by
  cases kind <;> decide

/-- The place of a kind in the order of the kinds. -/
def rank (kind : RelationshipKind) : Nat := kind.ctorIdx

theorem eq_of_rank_eq {a b : RelationshipKind} (h : a.rank = b.rank) : a = b := by
  cases a <;> cases b <;> first | rfl | cases h

instance : Ord RelationshipKind := ⟨compareOn rank⟩

instance : Std.TransOrd RelationshipKind := inferInstanceAs (Std.TransCmp (compareOn rank))

instance : Std.LawfulEqOrd RelationshipKind where
  compare_self := Nat.compare_eq_eq.2 rfl
  eq_of_compare h := eq_of_rank_eq (Nat.compare_eq_eq.1 h)

/-- The label of the edges of a kind. -/
def label? : RelationshipKind → Option Label
  | methodToCommand | handlerToCommand => some .sends
  | commandToAggregateMethod => some .execute
  | methodToDomainEvent => some .publishes
  | domainEventToHandler | integrationEventToHandler => some .handles
  | domainEventToIntegrationEvent => some .converts
  | unknown => none

theorem label?_eq_none_iff {kind : RelationshipKind} : kind.label? = none ↔ kind = .unknown := by
  cases kind <;> simp [label?]

end RelationshipKind

/-- **A relationship**: a typed edge between two endpoints. -/
structure Relationship where
  source : MethodRef
  target : MethodRef
  kind : RelationshipKind
  deriving DecidableEq

namespace Relationship

/-- The order of relationships: by source, then by target, then by kind. -/
def order : Relationship → Relationship → Ordering :=
  compareLex (compareOn source) (compareLex (compareOn target) (compareOn kind))

instance : Ord Relationship := ⟨order⟩

instance : Std.TransOrd Relationship :=
  inferInstanceAs (Std.TransCmp
    (compareLex (compareOn source) (compareLex (compareOn target) (compareOn kind))))

theorem compare_eq_iff {a b : Relationship} : compare a b = .eq ↔ a = b := by
  change order a b = .eq ↔ a = b
  cases a; cases b
  simp only [order, compareLex_eq_eq, compareOn, Std.compare_eq_iff_eq, mk.injEq]

instance : Std.LawfulEqOrd Relationship where
  compare_self := compare_eq_iff.2 rfl
  eq_of_compare := compare_eq_iff.1

end Relationship

end DomainFlow
