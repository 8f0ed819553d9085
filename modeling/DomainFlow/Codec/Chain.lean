import DomainFlow.Chain
import DomainFlow.Codec.Fact

/-!
# The JSON form of chains

## Main definitions

* `EntryPoint.toJson`, `Chain.toJson`
* `EntryPoint.ofJson?`, `Chain.ofJson?`
-/

namespace DomainFlow

/-- The JSON form of an entry point. -/
def EntryPoint.toJson (entry : EntryPoint) : Json :=
  .object [
    ("node_id", .text entry.nodeId),
    ("entry_type", .text entry.kind.name),
    ("reasoning", .text entry.reasoning)]

/-- The entry point of a JSON form. -/
def EntryPoint.ofJson? (j : Json) : Option EntryPoint := do
  let [nodeId, kind, reasoning] ← j.fields? ["node_id", "entry_type", "reasoning"] 3 | none
  some {
    nodeId := ← Json.required Json.text? nodeId
    kind := ← Json.required (fun j => j.name?.bind EntryKind.ofName?) kind
    reasoning := ← Json.required Json.text? reasoning }

/-- The JSON form of a node of a chain. -/
def ChainNode.toJson (node : ChainNode) : Json :=
  .object [
    ("local_id", .text node.localId),
    ("node_id", .text node.nodeId),
    ("name", .text node.name),
    ("kind", .ofOption (fun kind : NodeKind => .text kind.name) node.kind)]

/-- The node of a chain of a JSON form. -/
def ChainNode.ofJson? (j : Json) : Option ChainNode := do
  let [localId, nodeId, name, kind] ← j.fields? ["local_id", "node_id", "name", "kind"] 4 | none
  some {
    localId := ← Json.required Json.text? localId
    nodeId := ← Json.required Json.text? nodeId
    name := ← Json.required Json.text? name
    kind := ← Json.orDefault none
      (Json.nullable? fun j => j.name?.bind NodeKind.ofName?) kind }

/-- The JSON form of an edge of a chain. -/
def ChainEdge.toJson (edge : ChainEdge) : Json :=
  .object [
    ("from", .text edge.source), ("to", .text edge.target), ("label", .text edge.label.name)]

/-- The edge of a chain of a JSON form. -/
def ChainEdge.ofJson? (j : Json) : Option ChainEdge := do
  let [source, target, label] ← j.fields? ["from", "to", "label"] 3 | none
  some {
    source := ← Json.required Json.text? source
    target := ← Json.required Json.text? target
    label := ← Json.required (fun j => j.name?.bind Label.ofName?) label }

/-- **The JSON form of a chain.** -/
def Chain.toJson (chain : Chain) : Json :=
  .object [
    ("name", .text chain.name),
    ("entry_point", .ofOption EntryPoint.toJson chain.entryPoint),
    ("nodes", .ofList ChainNode.toJson chain.nodes),
    ("edges", .ofList ChainEdge.toJson chain.edges)]

/-- **The chain of a JSON form.** -/
def Chain.ofJson? (j : Json) : Option Chain := do
  let [name, entryPoint, nodes, edges] ← j.fields? ["name", "entry_point", "nodes", "edges"] 4
    | none
  some {
    name := ← Json.required Json.text? name
    entryPoint := ← Json.orDefault none (Json.nullable? EntryPoint.ofJson?) entryPoint
    nodes := ← Json.required (Json.list? ChainNode.ofJson?) nodes
    edges := ← Json.required (Json.list? ChainEdge.ofJson?) edges }

end DomainFlow
