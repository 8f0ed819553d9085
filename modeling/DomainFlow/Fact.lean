import DomainFlow.Kind
import DomainFlow.QualifiedName

/-!
# Facts

What an extractor reports about one module of a program: the types it declares, each tagged with
its kind, and the calls between their methods. A batch of facts is the input of the analysis.

## Main definitions

* `TypeFact`: a declared type with its methods, members and contracts
* `Call`: a call site, with its kind
* `Batch`: the facts of one module
* `Batch.declaration?`: the declaration that counts for an id, the first one
* `Batch.containment`: the members of the aggregates, which may hold entities
-/

namespace DomainFlow

/-- A reference to a declared type, with its generic arguments. -/
structure TypeRef where
  id : String
  arguments : List String
  deriving DecidableEq

/-- A field or property declared on a type. -/
structure Member where
  name : String
  type : TypeRef
  deriving DecidableEq

/-- **A contract that a type implements.** -/
inductive Contract
  | handlesCommand (command : String)
  | handlesDomainEvent (event : String)
  | handlesIntegrationEvent (event : String)
  | convertsEvent (domainEvent integrationEvent : String)
  deriving DecidableEq

/-- **All that the extractor knows about one type.** -/
structure TypeFact where
  /-- The qualified name. -/
  id : String
  /-- The simple name. -/
  name : String
  /-- The namespace, where the extractor states one. -/
  statedNamespace : Option String
  kind : TypeKind
  methods : List String
  members : List Member
  contracts : List Contract
  deriving DecidableEq

/-- The kind of a call site. -/
inductive CallKind
  | invocation
  | construction
  | raiseDomainEvent
  | sendCommand
  deriving DecidableEq

/-- **A call site**: a method of one type uses another type. -/
structure Call where
  sourceType : String
  sourceMethod : String
  targetType : String
  targetMethod : String
  kind : CallKind
  deriving DecidableEq

/-- A member of an aggregate, whose type may hold an entity. -/
structure Containment where
  aggregate : String
  member : String
  memberType : TypeRef
  deriving DecidableEq

/-- **The facts of one module.** -/
structure Batch where
  source : String
  types : List TypeFact
  calls : List Call
  deriving DecidableEq

namespace TypeRef

/-- A reference without arguments. -/
def plain (id : String) : TypeRef := ⟨id, []⟩

/-- A reference with one argument. -/
def generic (id argument : String) : TypeRef := ⟨id, [argument]⟩

end TypeRef

namespace TypeFact

/-- The fact of a type of which only the qualified name and the kind are known. -/
def ofId (id : String) (kind : TypeKind) : TypeFact where
  id := id
  name := QualifiedName.simple id
  statedNamespace := none
  kind := kind
  methods := []
  members := []
  contracts := []

/-- The namespace of a type: the stated one, otherwise the qualifier of its id. -/
def namespaceName (fact : TypeFact) : String :=
  fact.statedNamespace.getD (QualifiedName.qualifier fact.id)

/-- The commands that a type handles. -/
def handledCommands (fact : TypeFact) : List String :=
  fact.contracts.filterMap fun
    | .handlesCommand command => some command
    | _ => none

end TypeFact

namespace CallKind

/-- All kinds. -/
def all : List CallKind := [.invocation, .construction, .raiseDomainEvent, .sendCommand]

/-- The name a kind is written by. -/
def name : CallKind → String
  | invocation => "Invocation"
  | construction => "Construction"
  | raiseDomainEvent => "RaiseDomainEvent"
  | sendCommand => "SendCommand"

/-- The kind of a name. -/
def ofName? (text : String) : Option CallKind := all.find? (·.name == text)

theorem ofName?_name (kind : CallKind) : ofName? kind.name = some kind := by
  cases kind <;> decide

end CallKind

/-- The method name that stands for every constructor. -/
def constructorName : String := "ctor"

namespace Call

/-- The call of a method. -/
def invocation (sourceType sourceMethod targetType targetMethod : String) : Call :=
  ⟨sourceType, sourceMethod, targetType, targetMethod, .invocation⟩

/-- The construction of an object. -/
def construction (sourceType sourceMethod targetType : String) : Call :=
  ⟨sourceType, sourceMethod, targetType, constructorName, .construction⟩

/-- The raising of a domain event. -/
def raise (sourceType sourceMethod event : String) : Call :=
  ⟨sourceType, sourceMethod, event, "", .raiseDomainEvent⟩

/-- The sending of a command. -/
def send (sourceType sourceMethod command : String) : Call :=
  ⟨sourceType, sourceMethod, command, "", .sendCommand⟩

/-- The called method; a construction calls the constructor, however the extractor spells it. -/
def calleeMethod (call : Call) : String :=
  match call.kind with
  | .construction => constructorName
  | _ => call.targetMethod

end Call

namespace Batch

/-- The types of a kind, in declaration order. -/
def typesOf (batch : Batch) (kind : TypeKind) : List TypeFact :=
  batch.types.filter (·.kind = kind)

/-- The members of the aggregates, in declaration order. -/
def containment (batch : Batch) : List Containment :=
  (batch.typesOf .aggregate).flatMap fun aggregate =>
    aggregate.members.map fun member => ⟨aggregate.id, member.name, member.type⟩

end Batch

/-- The declaration that counts for an id: the first one. -/
def declaration? (types : List TypeFact) (id : String) : Option TypeFact :=
  types.find? (·.id = id)

theorem id_of_declaration? {types : List TypeFact} {id : String} {fact : TypeFact}
    (h : declaration? types id = some fact) : fact.id = id := by
  simpa using List.find?_some h

theorem mem_of_declaration? {types : List TypeFact} {id : String} {fact : TypeFact}
    (h : declaration? types id = some fact) : fact ∈ types :=
  List.mem_of_find?_eq_some h

end DomainFlow
