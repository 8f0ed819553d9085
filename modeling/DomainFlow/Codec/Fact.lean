import DomainFlow.Fact
import DomainFlow.Json.Printer
import DomainFlow.Json.Parser

/-!
# Fact files

The JSON form of a batch of facts. Writing gives every field in declaration order. Reading takes
the fields by name or by position, ignores what it does not know, and fills in the fields that
have a default.

## Main definitions

* `Batch.toJson`, `Batch.ofJson?`: the form of a batch, and the batch of a form
* `Batch.parse?`: the batch of the text of a fact file
-/

namespace DomainFlow

/-- The JSON form of a reference. -/
def TypeRef.toJson (ref : TypeRef) : Json :=
  .object [("id", .text ref.id), ("arguments", .ofList .text ref.arguments)]

/-- The reference of a JSON form. -/
def TypeRef.ofJson? (j : Json) : Option TypeRef := do
  let [id, arguments] ← j.fields? ["id", "arguments"] 1 | none
  some {
    id := ← Json.required Json.text? id
    arguments := ← Json.orDefault [] (Json.list? Json.text?) arguments }

/-- The JSON form of a member. -/
def Member.toJson (member : Member) : Json :=
  .object [("name", .text member.name), ("type_ref", member.type.toJson)]

/-- The member of a JSON form. -/
def Member.ofJson? (j : Json) : Option Member := do
  let [name, type] ← j.fields? ["name", "type_ref"] 2 | none
  some {
    name := ← Json.required Json.text? name
    type := ← Json.required TypeRef.ofJson? type }

/-- The JSON form of a contract: an object with one member, named for the contract. -/
def Contract.toJson : Contract → Json
  | .handlesCommand command =>
    .object [("HandlesCommand", .object [("command", .text command)])]
  | .handlesDomainEvent event =>
    .object [("HandlesDomainEvent", .object [("event", .text event)])]
  | .handlesIntegrationEvent event =>
    .object [("HandlesIntegrationEvent", .object [("event", .text event)])]
  | .convertsEvent domainEvent integrationEvent =>
    .object [("ConvertsEvent", .object
      [("domain_event", .text domainEvent), ("integration_event", .text integrationEvent)])]

/-- The contract of a name and the JSON form of its fields. -/
def Contract.ofBody? (name : String) (body : Json) : Option Contract :=
  match name with
  | "HandlesCommand" => do
    let [command] ← body.fields? ["command"] 1 | none
    some (.handlesCommand (← Json.required Json.text? command))
  | "HandlesDomainEvent" => do
    let [event] ← body.fields? ["event"] 1 | none
    some (.handlesDomainEvent (← Json.required Json.text? event))
  | "HandlesIntegrationEvent" => do
    let [event] ← body.fields? ["event"] 1 | none
    some (.handlesIntegrationEvent (← Json.required Json.text? event))
  | "ConvertsEvent" => do
    let [domainEvent, integrationEvent] ← body.fields? ["domain_event", "integration_event"] 2
      | none
    some (.convertsEvent (← Json.required Json.text? domainEvent)
      (← Json.required Json.text? integrationEvent))
  | _ => none

/-- The contract of a JSON form. -/
def Contract.ofJson? : Json → Option Contract
  | .obj [(some name, body)] => Contract.ofBody? name body
  | _ => none

/-- The JSON form of a type. -/
def TypeFact.toJson (fact : TypeFact) : Json :=
  .object [
    ("id", .text fact.id),
    ("name", .text fact.name),
    ("namespace", .ofOption .text fact.statedNamespace),
    ("kind", .text fact.kind.name),
    ("methods", .ofList .text fact.methods),
    ("members", .ofList Member.toJson fact.members),
    ("contracts", .ofList Contract.toJson fact.contracts)]

/-- The type of a JSON form. -/
def TypeFact.ofJson? (j : Json) : Option TypeFact := do
  let [id, name, statedNamespace, kind, methods, members, contracts] ← j.fields?
    ["id", "name", "namespace", "kind", "methods", "members", "contracts"] 4 | none
  some {
    id := ← Json.required Json.text? id
    name := ← Json.required Json.text? name
    statedNamespace := ← Json.orDefault none (Json.nullable? Json.text?) statedNamespace
    kind := ← Json.required (fun j => j.name?.bind TypeKind.ofName?) kind
    methods := ← Json.orDefault [] (Json.list? Json.text?) methods
    members := ← Json.orDefault [] (Json.list? Member.ofJson?) members
    contracts := ← Json.orDefault [] (Json.list? Contract.ofJson?) contracts }

/-- The JSON form of a call. -/
def Call.toJson (call : Call) : Json :=
  .object [
    ("source_type", .text call.sourceType),
    ("source_method", .text call.sourceMethod),
    ("target_type", .text call.targetType),
    ("target_method", .text call.targetMethod),
    ("call_kind", .text call.kind.name)]

/-- The call of a JSON form. -/
def Call.ofJson? (j : Json) : Option Call := do
  let [sourceType, sourceMethod, targetType, targetMethod, kind] ← j.fields?
    ["source_type", "source_method", "target_type", "target_method", "call_kind"] 5 | none
  some {
    sourceType := ← Json.required Json.text? sourceType
    sourceMethod := ← Json.required Json.text? sourceMethod
    targetType := ← Json.required Json.text? targetType
    targetMethod := ← Json.orDefault "" Json.text? targetMethod
    kind := ← Json.required (fun j => j.name?.bind CallKind.ofName?) kind }

/-- The JSON form of a containment. -/
def Containment.toJson (containment : Containment) : Json :=
  .object [
    ("aggregate", .text containment.aggregate),
    ("member", .text containment.member),
    ("member_type", containment.memberType.toJson)]

/-- The containment of a JSON form. -/
def Containment.ofJson? (j : Json) : Option Containment := do
  let [aggregate, member, memberType] ← j.fields? ["aggregate", "member", "member_type"] 3 | none
  some {
    aggregate := ← Json.required Json.text? aggregate
    member := ← Json.required Json.text? member
    memberType := ← Json.required TypeRef.ofJson? memberType }

/-- **The JSON form of a batch.** -/
def Batch.toJson (batch : Batch) : Json :=
  .object [
    ("source", .text batch.source),
    ("types", .ofList TypeFact.toJson batch.types),
    ("calls", .ofList Call.toJson batch.calls)]

/-- **The batch of a JSON form.** -/
def Batch.ofJson? (j : Json) : Option Batch := do
  let [source, types, calls] ← j.fields? ["source", "types", "calls"] 0 | none
  some {
    source := ← Json.orDefault "" Json.text? source
    types := ← Json.orDefault [] (Json.list? TypeFact.ofJson?) types
    calls := ← Json.orDefault [] (Json.list? Call.ofJson?) calls }

/-- The batch of the text of a fact file. -/
def Batch.parse? (document : String) : Option Batch := (Json.parse? document).bind Batch.ofJson?

end DomainFlow
