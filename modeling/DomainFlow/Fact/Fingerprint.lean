import DomainFlow.Fact
import DomainFlow.Sha256
import DomainFlow.Text

/-!
# The fingerprint of a batch

A batch is known by a hash of what it says: its types, as far as id, kind, methods, members and
contracts go, and its calls. The source, simple names and namespaces do not enter.

## Main definitions

* `Batch.content`: the text that stands for a batch
* `Batch.fingerprint`: its hash
-/

namespace DomainFlow

/-- A contract in quoted notation. -/
def Contract.written : Contract → String
  | .handlesCommand command => Text.record "HandlesCommand" [("command", Text.quote command)]
  | .handlesDomainEvent event => Text.record "HandlesDomainEvent" [("event", Text.quote event)]
  | .handlesIntegrationEvent event =>
    Text.record "HandlesIntegrationEvent" [("event", Text.quote event)]
  | .convertsEvent domainEvent integrationEvent =>
    Text.record "ConvertsEvent"
      [("domain_event", Text.quote domainEvent), ("integration_event", Text.quote integrationEvent)]

/-- A call in quoted notation. -/
def Call.written (call : Call) : String :=
  Text.record "RawCallEdge"
    [("source_type", Text.quote call.sourceType), ("source_method", Text.quote call.sourceMethod),
      ("target_type", Text.quote call.targetType), ("target_method", Text.quote call.targetMethod),
      ("call_kind", call.kind.name)]

/-- A member: its name, then its type with the arguments, marked by an `f`. -/
def Member.content (member : Member) : String :=
  "f" ++ member.name ++ member.type.id ++ String.join member.type.arguments

/-- A type: id, kind, methods (each marked by an `m`), members and contracts, on a line. -/
def TypeFact.content (fact : TypeFact) : String :=
  fact.id ++ fact.kind.name ++ String.join (fact.methods.map ("m" ++ ·)) ++
    String.join (fact.members.map Member.content) ++
    String.join (fact.contracts.map Contract.written) ++ "\n"

namespace Batch

/-- **The text that stands for a batch**: its types, then its calls, a line each. -/
def content (batch : Batch) : String :=
  String.join (batch.types.map TypeFact.content) ++
    String.join (batch.calls.map fun call => call.written ++ "\n")

/-- **The fingerprint of a batch.** -/
def fingerprint (batch : Batch) : String := Sha256.hexadecimal batch.content

end Batch

end DomainFlow
