/-!
# Kinds of types and of graph nodes

The extractor tags every type with a `TypeKind`; a node of the architecture graph has a
`NodeKind`. Most kinds of types are nodes, and four kinds of nodes carry nodes for their methods.

## Main definitions

* `TypeKind`, `NodeKind`: the two classifications, with the names they are written by
* `TypeKind.nodeKind?`: the kind of the node of a type
* `NodeKind.methodKind?`: the kind of the nodes of a type's methods
* `NodeKind.style`: the diagram style of a kind

## Main results

* `TypeKind.ofName?_name`, `NodeKind.ofName?_name`: a kind is read back from its name
-/

namespace DomainFlow

/-- **Kind of a node in the architecture graph.** The order of the kinds settles conflicts between
declarations of one node. -/
inductive NodeKind
  | controller
  | controllerMethod
  | endpoint
  | commandSender
  | commandSenderMethod
  | command
  | aggregate
  | aggregateMethod
  | entity
  | entityMethod
  | domainEvent
  | integrationEvent
  | domainEventHandler
  | integrationEventHandler
  | integrationEventConverter
  deriving DecidableEq

/-- **Kind of a type**, as the extractor tags it. -/
inductive TypeKind
  | controller
  | endpoint
  | commandSender
  | command
  | commandHandler
  | aggregate
  | entity
  | domainEvent
  | integrationEvent
  | domainEventHandler
  | integrationEventHandler
  | integrationEventConverter
  | other
  deriving DecidableEq

namespace NodeKind

/-- All kinds, in their order. -/
def all : List NodeKind :=
  [.controller, .controllerMethod, .endpoint, .commandSender, .commandSenderMethod, .command,
    .aggregate, .aggregateMethod, .entity, .entityMethod, .domainEvent, .integrationEvent,
    .domainEventHandler, .integrationEventHandler, .integrationEventConverter]

/-- The name a kind is written by. -/
def name : NodeKind → String
  | controller => "Controller"
  | controllerMethod => "ControllerMethod"
  | endpoint => "Endpoint"
  | commandSender => "CommandSender"
  | commandSenderMethod => "CommandSenderMethod"
  | command => "Command"
  | aggregate => "Aggregate"
  | aggregateMethod => "AggregateMethod"
  | entity => "Entity"
  | entityMethod => "EntityMethod"
  | domainEvent => "DomainEvent"
  | integrationEvent => "IntegrationEvent"
  | domainEventHandler => "DomainEventHandler"
  | integrationEventHandler => "IntegrationEventHandler"
  | integrationEventConverter => "IntegrationEventConverter"

/-- The kind of a name. -/
def ofName? (text : String) : Option NodeKind := all.find? (·.name == text)

theorem ofName?_name (kind : NodeKind) : ofName? kind.name = some kind := by
  cases kind <;> decide

/-- The place of a kind in the order of the kinds. -/
def rank (kind : NodeKind) : Nat := kind.ctorIdx

theorem eq_of_rank_eq {a b : NodeKind} (h : a.rank = b.rank) : a = b := by
  cases a <;> cases b <;> first | rfl | cases h

instance : Ord NodeKind := ⟨compareOn rank⟩

instance : Std.TransOrd NodeKind := inferInstanceAs (Std.TransCmp (compareOn rank))

instance : Std.LawfulEqOrd NodeKind where
  compare_self := Nat.compare_eq_eq.2 rfl
  eq_of_compare h := eq_of_rank_eq (Nat.compare_eq_eq.1 h)

/-- The kind of the nodes that stand for the methods of a type of this kind. -/
def methodKind? : NodeKind → Option NodeKind
  | controller => some controllerMethod
  | commandSender => some commandSenderMethod
  | aggregate => some aggregateMethod
  | entity => some entityMethod
  | _ => none

/-- The diagram style of a kind. A method is drawn as the type it belongs to. -/
def style : NodeKind → String
  | controller | controllerMethod => "controller"
  | endpoint => "endpoint"
  | commandSender | commandSenderMethod => "sender"
  | command => "command"
  | aggregate | aggregateMethod => "aggregate"
  | entity | entityMethod => "entity"
  | domainEvent => "domainEvent"
  | integrationEvent => "integrationEvent"
  | domainEventHandler => "domainHandler"
  | integrationEventHandler => "integrationHandler"
  | integrationEventConverter => "converter"

end NodeKind

namespace TypeKind

/-- All kinds. -/
def all : List TypeKind :=
  [.controller, .endpoint, .commandSender, .command, .commandHandler, .aggregate, .entity,
    .domainEvent, .integrationEvent, .domainEventHandler, .integrationEventHandler,
    .integrationEventConverter, .other]

/-- The name a kind is written by. -/
def name : TypeKind → String
  | controller => "Controller"
  | endpoint => "Endpoint"
  | commandSender => "CommandSender"
  | command => "Command"
  | commandHandler => "CommandHandler"
  | aggregate => "Aggregate"
  | entity => "Entity"
  | domainEvent => "DomainEvent"
  | integrationEvent => "IntegrationEvent"
  | domainEventHandler => "DomainEventHandler"
  | integrationEventHandler => "IntegrationEventHandler"
  | integrationEventConverter => "IntegrationEventConverter"
  | other => "Other"

/-- The kind of a name. -/
def ofName? (text : String) : Option TypeKind := all.find? (·.name == text)

theorem ofName?_name (kind : TypeKind) : ofName? kind.name = some kind := by
  cases kind <;> decide

/-- The kind of the node of a type. Command handlers and unclassified types are not nodes. -/
def nodeKind? : TypeKind → Option NodeKind
  | controller => some .controller
  | endpoint => some .endpoint
  | commandSender => some .commandSender
  | command => some .command
  | aggregate => some .aggregate
  | entity => some .entity
  | domainEvent => some .domainEvent
  | integrationEvent => some .integrationEvent
  | domainEventHandler => some .domainEventHandler
  | integrationEventHandler => some .integrationEventHandler
  | integrationEventConverter => some .integrationEventConverter
  | commandHandler | other => none

/-- Aggregates and entities, whose methods change state. -/
def isDomainObject : TypeKind → Bool
  | aggregate | entity => true
  | _ => false

/-- Handlers of domain or integration events. -/
def isEventHandler : TypeKind → Bool
  | domainEventHandler | integrationEventHandler => true
  | _ => false

end TypeKind

end DomainFlow
