import DomainFlow.Kind

/-!
# Methods, and nodes of the architecture graph

A node stands for a type, for a method of a type, or for the conversion of a domain event into an
integration event, and its id says which.

## Main definitions

* `MethodRef`: a method of a type, ordered by type and then by method
* `Node`
* `Node.methodId`, `Node.conversionId`: the ids of method nodes and conversion nodes
* `Node.precedes`: which of two declarations of one node counts
-/

namespace DomainFlow

/-! ## Methods -/

/-- **A method of a type.** The empty method stands for the type itself. -/
structure MethodRef where
  typeId : String
  method : String
  deriving DecidableEq

namespace MethodRef

/-- The order of references: by type, then by method. -/
def order : MethodRef → MethodRef → Ordering := compareLex (compareOn typeId) (compareOn method)

instance : Ord MethodRef := ⟨order⟩

instance : Std.TransOrd MethodRef :=
  inferInstanceAs (Std.TransCmp (compareLex (compareOn typeId) (compareOn method)))

theorem compare_eq_iff {a b : MethodRef} : compare a b = .eq ↔ a = b := by
  change order a b = .eq ↔ a = b
  cases a; cases b
  simp only [order, compareLex_eq_eq, compareOn, Std.compare_eq_iff_eq, mk.injEq]

instance : Std.LawfulEqOrd MethodRef where
  compare_self := compare_eq_iff.2 rfl
  eq_of_compare := compare_eq_iff.1

end MethodRef

/-! ## Nodes -/

/-- **A node of the architecture graph.** -/
structure Node where
  id : String
  name : String
  kind : NodeKind
  deriving DecidableEq

namespace Node

/-- The id of the node of a method. -/
def methodId (typeId method : String) : String := typeId ++ "." ++ method

/-- The id of the node of a conversion. -/
def conversionId (domainEvent integrationEvent : String) : String :=
  domainEvent ++ "->" ++ integrationEvent

/-- The order of declarations of one node: by kind, then by name. -/
def order : Node → Node → Ordering := compareLex (compareOn kind) (compareOn name)

/-- Whether a declaration counts more than another one of the same node. -/
def precedes (a b : Node) : Bool := order a b = .lt

end Node

end DomainFlow
