import DomainFlow.Document

/-!
# Diagrams

A Markdown document with one Mermaid flowchart per chain. Node labels are the ids in the graph,
with the characters that a flowchart gives a meaning replaced.

## Main definitions

* `Diagram.flowchart`: the lines of the flowchart of a chain
* `diagramDocument`: the document of chains
-/

namespace DomainFlow

namespace Diagram

/-- Replaces the characters that have a meaning in a flowchart. -/
def clean (text : String) : String :=
  text.map fun c => if c ∈ ['"', '<', '>', '{', '}', '|', '[', ']'] then '_' else c

/-- The styles of nodes, with the colours of their area and border. -/
def styles : List (String × String × String) := [
  ("controller", "#e3f2fd", "#1565c0"),
  ("endpoint", "#e3f2fd", "#1565c0"),
  ("sender", "#e3f2fd", "#1565c0"),
  ("command", "#fff3e0", "#ef6c00"),
  ("aggregate", "#e8f5e9", "#2e7d32"),
  ("entity", "#f1f8e9", "#558b2f"),
  ("domainEvent", "#fce4ec", "#ad1457"),
  ("integrationEvent", "#f3e5f5", "#6a1b9a"),
  ("domainHandler", "#ede7f6", "#4527a0"),
  ("integrationHandler", "#ede7f6", "#4527a0"),
  ("converter", "#eceff1", "#37474f"),
  ("unknown", "#ffffff", "#9e9e9e")]

/-- The style of a node of a chain; a node without a kind has one of its own. -/
def styleOf (kind : Option NodeKind) : String :=
  match kind with
  | some kind => kind.style
  | none => "unknown"

/-- The indentation of a line of a flowchart. -/
def indent : String := "    "

/-- The line of a node. -/
def nodeLine (node : ChainNode) : String :=
  indent ++ node.localId ++ "[\"" ++ clean node.nodeId ++ "\"]:::" ++ styleOf node.kind

/-- The line of an edge. -/
def edgeLine (edge : ChainEdge) : String :=
  indent ++ edge.source ++ " -->|" ++ edge.label.name ++ "| " ++ edge.target

/-- The line that defines a style. -/
def styleLine (style : String × String × String) : String :=
  "classDef " ++ style.1 ++ " fill:" ++ style.2.1 ++ ",stroke:" ++ style.2.2

/-- The lines that define the styles; only the first one is indented. -/
def styleLines : List String :=
  match styles.map styleLine with
  | [] => []
  | first :: rest => (indent ++ first) :: rest

/-- **The lines of the flowchart of a chain.** -/
def flowchart (chain : Chain) : List String :=
  "flowchart LR" :: (chain.nodes.map nodeLine ++ chain.edges.map edgeLine ++ styleLines)

/-- The lines of the section of a chain. -/
def chainSection (chain : Chain) : List String :=
  ["", "## " ++ chain.name, "", "```mermaid"] ++ flowchart chain ++ ["```"]

/-- The lines that tell where the document comes from. -/
def metadataLines (metadata : Metadata) : List String :=
  ["", "Generated: " ++ metadata.generatedAt,
    "Graph fingerprint: `" ++ metadata.fingerprint ++ "`"]

end Diagram

/-- **The document with a flowchart of every chain**, line by line. -/
def diagramDocument (project : String) (metadata : Option Metadata) (chains : List Chain) :
    String :=
  let lines := ["# " ++ project ++ " execution chains"] ++
    (metadata.map Diagram.metadataLines).getD [] ++ [""] ++ chains.flatMap Diagram.chainSection
  String.join (lines.map (· ++ "\n"))

end DomainFlow
