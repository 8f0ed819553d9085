import DomainFlow.Fact
import DomainFlow.Node
import DomainFlow.Reach

/-!
# Calls between methods and the events they raise

Invocations and constructions lead from method to method, and some methods raise domain events
themselves. A method causes the events raised by any method that its calls reach. Overriding is
approximated by names: where merging is on, a reached method also causes what other methods of the
same name raise themselves, without following their calls.

## Main definitions

* `CallGraph`: the calls between methods and the events raised directly
* `CallGraph.eventsFor`: the events that a method causes
* `CallGraph.propagate`: the events of every method that calls or raises anything
-/

namespace DomainFlow

/-- The events of methods. -/
abbrev EventMap := SortedMap MethodRef (SortedSet String)

/-- **The calls between methods, and the events that methods raise themselves.** -/
structure CallGraph where
  callees : SortedMap MethodRef (SortedSet MethodRef)
  raised : EventMap

namespace CallGraph

/-- The graph without calls and events. -/
def empty : CallGraph := ⟨∅, ∅⟩

instance : EmptyCollection CallGraph := ⟨empty⟩

/-- Adds a call. -/
def addCall (graph : CallGraph) (caller callee : MethodRef) : CallGraph :=
  { graph with callees := graph.callees.alter caller fun s => some ((s.getD ∅).insert callee) }

/-- Adds an event that a method raises itself. -/
def addEvent (graph : CallGraph) (method : MethodRef) (event : String) : CallGraph :=
  { graph with raised := graph.raised.alter method fun s => some ((s.getD ∅).insert event) }

/-- Adds a call site: an invocation or construction is a call, a raised event is an event of its
source, and a sent command is neither. -/
def addSite (graph : CallGraph) (call : Call) : CallGraph :=
  match call.kind with
  | .invocation | .construction =>
    graph.addCall ⟨call.sourceType, call.sourceMethod⟩ ⟨call.targetType, call.calleeMethod⟩
  | .raiseDomainEvent => graph.addEvent ⟨call.sourceType, call.sourceMethod⟩ call.targetType
  | .sendCommand => graph

/-- The graph of a list of call sites. -/
def ofCalls (calls : List Call) : CallGraph := calls.foldl addSite ∅

/-- The methods that a method calls. -/
def calleesOf (graph : CallGraph) (method : MethodRef) : SortedSet MethodRef :=
  (graph.callees.get? method).getD ∅

/-- The events that a method raises itself. -/
def raisedBy (graph : CallGraph) (method : MethodRef) : SortedSet String :=
  (graph.raised.get? method).getD ∅

/-- The methods that call or raise anything. -/
def methods (graph : CallGraph) : SortedSet MethodRef :=
  .ofList (graph.callees.keys ++ graph.raised.keys)

/-- The calls as edges. -/
def edges (graph : CallGraph) : List (MethodRef × MethodRef) :=
  graph.callees.entries.flatMap fun (caller, callees) => callees.toList.map fun callee =>
    (caller, callee)

theorem mem_edges {graph : CallGraph} {caller callee : MethodRef} :
    (caller, callee) ∈ graph.edges ↔ callee ∈ graph.calleesOf caller := by
  simp only [edges, calleesOf, List.mem_flatMap, List.mem_map, SortedSet.mem_toList]
  constructor
  · rintro ⟨⟨m, s⟩, hm, c, hc, heq⟩
    cases heq
    rw [SortedMap.mem_entries_iff.1 hm]
    exact hc
  · intro h
    cases hs : graph.callees.get? caller with
    | none => simp [hs] at h
    | some s => exact ⟨(caller, s), SortedMap.mem_entries_iff.2 hs, callee, by simpa [hs] using h, rfl⟩

/-- The raising methods that contribute to a reached method: itself, and where merging is on those
of the same name. -/
def contributors (graph : CallGraph) (merge : Bool) (method : MethodRef) : List MethodRef :=
  if merge then method :: graph.raised.keys.filter (·.method = method.method) else [method]

/-- **The events that a method causes.** -/
def eventsFor (graph : CallGraph) (merge : Bool) (method : MethodRef) : SortedSet String :=
  .ofList ((reachable graph.edges [method]).toList.flatMap fun reached =>
    (graph.contributors merge reached).flatMap fun raiser => (graph.raisedBy raiser).toList)

/-- **The events of every method that calls or raises anything.** -/
def propagate (graph : CallGraph) (merge : Bool) : EventMap :=
  .ofFirst (graph.methods.toList.map fun method => (method, graph.eventsFor merge method))

end CallGraph

/-- The events of the methods of a batch. -/
def Batch.events (batch : Batch) (merge : Bool) : EventMap :=
  (CallGraph.ofCalls batch.calls).propagate merge

end DomainFlow
