import DomainFlow.Store

/-!
# Flow

Every relationship of a known kind is an arrow between two nodes, and a flow follows the arrows. A
walk starts at a node and goes depth first: it takes the arrows that leave a node in the order of
their labels, takes every arrow once, and goes on behind an arrow if its target is new.

## Main definitions

* `Arrow`, `Store.arrows`: the arrows of a graph
* `Store.flow`: the arrows in the order in which they are taken
* `walk`: the arrows that a walk takes, in order
* `visits`: the nodes that a walk visits, in order
-/

namespace DomainFlow

/-- **An arrow between two nodes.** -/
structure Arrow where
  source : String
  label : Label
  target : String
  deriving DecidableEq

namespace Store

/-- The arrow of a relationship. -/
def arrow? (store : Store) (r : Relationship) : Option Arrow :=
  r.kind.label?.map fun label => ⟨store.sourceId r, label, store.targetId r⟩

/-- The arrows of a graph, in the order of the relationships. -/
def arrows (store : Store) : List Arrow := store.relationships.toList.filterMap store.arrow?

/-- The arrows as plain edges. -/
def edges (store : Store) : List (String × String) :=
  store.arrows.map fun arrow => (arrow.source, arrow.target)

/-- **The arrows in the order in which they are taken**: by label, then in the order of the
relationships. -/
def flow (store : Store) : List Arrow :=
  (Label.all.flatMap fun label => store.arrows.filter (·.label = label)).eraseDups

end Store

/-- The arrows that leave a node. -/
def leaving (flow : List Arrow) (id : String) : List Arrow := flow.filter (·.source = id)

/-- **The arrows that a walk takes**, given those to be taken next and the nodes visited so far. A
visit puts the arrows that leave the new node in front; they and the arrows that leave unvisited
nodes bound what is left to do. -/
def walk (flow : List Arrow) : List Arrow → SortedSet String → List Arrow
  | [], _ => []
  | arrow :: pending, visited =>
    arrow ::
      if arrow.target ∈ visited then walk flow pending visited
      else walk flow (leaving flow arrow.target ++ pending) (visited.insert arrow.target)
termination_by pending visited =>
  (flow.filter fun arrow => !visited.contains arrow.source).length + pending.length
decreasing_by
  · simp
  · next h =>
    have := length_filter_insert Arrow.source flow h
    simp only [leaving, List.length_append, List.length_cons]
    omega

/-- The arrows that a walk from a node takes. -/
def walkFrom (flow : List Arrow) (start : String) : List Arrow :=
  walk flow (leaving flow start) (.ofList [start])

/-- The nodes that the arrows of a walk visit, in order. -/
def visits (start : String) (arrows : List Arrow) : List String :=
  (start :: arrows.map (·.target)).eraseDups

end DomainFlow
