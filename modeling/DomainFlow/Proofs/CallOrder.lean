import DomainFlow.Proofs.Propagation
import DomainFlow.Proofs.Verdicts
import DomainFlow.Settings

/-!
# The order of calls

An extractor may report the calls of a module in any order, and it may report a call several times.
The call graph grows by entries that commute and that are absorbed when they come again, so it
depends on the set of calls, and with it the events of every method. Each call is judged by itself.
So the relationships depend on the set of calls too, and the numbers of facts dropped depend on how
often each call is reported, but not on where.

## Main definitions

* `Batch.withCalls`: a batch with other calls
* `Delta.SameGraph`: whether two contributions add the same to the graph

## Main results

* `CallGraph.ofCalls_eq_of_mem_iff`: the call graph depends on the set of calls
* `Batch.relationships_withCalls`: the relationships depend on the set of calls
* `Batch.analyze_withCalls`: what the order and the repetition of calls have no influence on
-/

namespace DomainFlow

/-- **Whether two contributions add the same to the graph**: nodes, relationships and owners. -/
structure Delta.SameGraph (delta other : Delta) : Prop where
  nodes : delta.nodes = other.nodes
  relationships : delta.relationships = other.relationships
  ownership : delta.ownership = other.ownership

/-! ## The call graph -/

namespace SortedMap

variable {κ α : Type} [Ord κ] [Std.TransOrd κ] [Std.LawfulEqOrd κ] [DecidableEq κ]
  [Ord α] [Std.TransOrd α] [Std.LawfulEqOrd α]

/-- Elements may be added to the sets of a map in any order. -/
theorem alter_insert_comm (m : SortedMap κ (SortedSet α)) (k k' : κ) (a b : α) :
    (m.alter k fun s => some ((s.getD ∅).insert a)).alter k'
        (fun s => some ((s.getD ∅).insert b)) =
      (m.alter k' fun s => some ((s.getD ∅).insert b)).alter k
        fun s => some ((s.getD ∅).insert a) := by
  apply alter_comm
  intro _ present
  rw [Option.getD_some, Option.getD_some, SortedSet.insert_comm]

theorem alter_insert_idem (m : SortedMap κ (SortedSet α)) (k : κ) (a : α) :
    (m.alter k fun s => some ((s.getD ∅).insert a)).alter k
        (fun s => some ((s.getD ∅).insert a)) =
      m.alter k fun s => some ((s.getD ∅).insert a) := by
  apply alter_idem
  intro present
  rw [Option.getD_some, SortedSet.insert_idem]

end SortedMap

namespace CallGraph

/-- **Call sites may be added in any order.** -/
theorem addSite_comm (graph : CallGraph) (a b : Call) :
    (graph.addSite a).addSite b = (graph.addSite b).addSite a := by
  simp only [addSite]
  -- calls and events go to different maps, and sent commands to neither
  cases a.kind <;> cases b.kind <;> simp only [addCall, addEvent]
  all_goals rw [SortedMap.alter_insert_comm]

/-- **Adding a call site again changes nothing.** -/
theorem addSite_idem (graph : CallGraph) (call : Call) :
    (graph.addSite call).addSite call = graph.addSite call := by
  simp only [addSite]
  cases call.kind <;> simp only [addCall, addEvent]
  all_goals rw [SortedMap.alter_insert_idem]

/-- **The call graph depends on the set of calls.** -/
theorem ofCalls_eq_of_mem_iff {calls calls' : List Call} (h : ∀ call, call ∈ calls ↔ call ∈ calls') :
    ofCalls calls = ofCalls calls' :=
  foldl_eq_of_mem_iff addSite_comm addSite_idem h ∅

end CallGraph

/-! ## Verdicts -/

namespace Scope

variable {scope : Scope} {calls calls' : List Call} {events : EventMap}

/-- Calls in another order get the same verdicts in another order. -/
theorem verdicts_perm (h : calls.Perm calls') :
    (scope.verdicts calls events).Perm (scope.verdicts calls' events) := by
  have hcalls : (scope.judgeCalls calls).Perm (scope.judgeCalls calls') := h.flatMap_right _
  exact (hcalls.append_right _).append_right _

theorem malformed_classify_perm (h : calls.Perm calls') :
    (scope.classify calls events).malformed = (scope.classify calls' events).malformed := by
  rw [classify_eq_recordAll, classify_eq_recordAll, Classification.malformed_recordAll,
    Classification.malformed_recordAll, (verdicts_perm h).count_eq]

theorem discarded_classify_perm (h : calls.Perm calls') :
    (scope.classify calls events).discarded = (scope.classify calls' events).discarded := by
  rw [classify_eq_recordAll, classify_eq_recordAll, Classification.discarded_recordAll,
    Classification.discarded_recordAll, (verdicts_perm h).count_eq]

end Scope

/-! ## The contribution of a batch -/

namespace Batch

variable {batch : Batch} {settings : AnalysisSettings} {calls : List Call}

theorem nodes_analyze (batch : Batch) (settings : AnalysisSettings) :
    (batch.analyze settings).nodes = (nodeMap (declaredNodes batch.types ++
      endpointNodes batch.types (batch.analyze settings).relationships)).values := rfl

theorem diagnostics_analyze (batch : Batch) (settings : AnalysisSettings) :
    (batch.analyze settings).diagnostics = ⟨(batch.classification settings).malformed,
      (batch.classification settings).discarded,
      (batch.ownership settings.ownershipSuffixes).unresolved⟩ := rfl

/-- The batch with other calls. -/
def withCalls (batch : Batch) (calls : List Call) : Batch := { batch with calls := calls }

theorem events_withCalls (h : ∀ call, call ∈ calls ↔ call ∈ batch.calls) (merge : Bool) :
    (batch.withCalls calls).events merge = batch.events merge := by
  rw [events, events, withCalls, CallGraph.ofCalls_eq_of_mem_iff h]

/-- **The relationships of a batch depend on the set of its calls.** -/
theorem relationships_withCalls (h : ∀ call, call ∈ calls ↔ call ∈ batch.calls) :
    ((batch.withCalls calls).classification settings).relationships =
      (batch.classification settings).relationships := by
  apply SortedSet.ext
  intro r
  rw [mem_classification_iff, mem_classification_iff, events_withCalls h]
  refine or_congr ?_ Iff.rfl
  exact exists_congr fun call => and_congr (h call) Iff.rfl

theorem sameGraph_withCalls (h : ∀ call, call ∈ calls ↔ call ∈ batch.calls) :
    ((batch.withCalls calls).analyze settings).SameGraph (batch.analyze settings) := by
  have hrelationships : ((batch.withCalls calls).analyze settings).relationships =
      (batch.analyze settings).relationships := congrArg SortedSet.toList (relationships_withCalls h)
  refine ⟨?_, hrelationships, rfl⟩
  rw [nodes_analyze, nodes_analyze, hrelationships]
  rfl

theorem diagnostics_withCalls (h : calls.Perm batch.calls) :
    ((batch.withCalls calls).analyze settings).diagnostics =
      (batch.analyze settings).diagnostics := by
  have hevents := events_withCalls (fun _ => h.mem_iff) settings.mergeSameNameEvents
  have hmalformed : ((batch.withCalls calls).classification settings).malformed =
      (batch.classification settings).malformed := by
    rw [classification, hevents]
    exact Scope.malformed_classify_perm h
  have hdiscarded : ((batch.withCalls calls).classification settings).discarded =
      (batch.classification settings).discarded := by
    rw [classification, hevents]
    exact Scope.discarded_classify_perm h
  rw [diagnostics_analyze, diagnostics_analyze, hmalformed, hdiscarded]
  rfl

/-- A module with a call to an unknown type and a call that no rule applies to. -/
def deskBatch : Batch where
  source := "desk"
  types :=
    [.ofId "Desk" .controller, .ofId "Pay" .command, .ofId "Order" .aggregate,
      .ofId "Paid" .domainEvent]
  calls :=
    [.send "Desk" "Post" "Pay", .send "Desk" "Post" "Nowhere",
      .invocation "Order" "Close" "Order" "MarkPaid", .raise "Order" "MarkPaid" "Paid"]

/-- **The order of calls does not matter, nor does their repetition.** A batch that says the same
calls in another order makes the same contribution, facts dropped included. One that says the same
calls with other repetitions adds the same to the graph and leaves the same entities without owners. -/
theorem analyze_withCalls (batch : Batch) (settings : AnalysisSettings) :
    (∀ calls, calls.Perm batch.calls →
      ((batch.withCalls calls).analyze settings).SameGraph (batch.analyze settings) ∧
        ((batch.withCalls calls).analyze settings).diagnostics =
          (batch.analyze settings).diagnostics) ∧
    ∀ calls, (∀ call, call ∈ calls ↔ call ∈ batch.calls) →
      ((batch.withCalls calls).analyze settings).SameGraph (batch.analyze settings) ∧
        ((batch.withCalls calls).analyze settings).diagnostics.unresolvedEntities =
          (batch.analyze settings).diagnostics.unresolvedEntities := by
  constructor
  · intro calls h
    exact ⟨sameGraph_withCalls fun _ => h.mem_iff, diagnostics_withCalls h⟩
  · intro calls h
    exact ⟨sameGraph_withCalls h, rfl⟩

theorem analyze_withCalls_deskBatch :
    deskBatch.calls.reverse.Perm deskBatch.calls ∧
      (∀ call, call ∈ deskBatch.calls ++ deskBatch.calls ↔ call ∈ deskBatch.calls) ∧
      ((deskBatch.withCalls deskBatch.calls.reverse).analyze
          Settings.standard.analysis).SameGraph (deskBatch.analyze Settings.standard.analysis) ∧
      ((deskBatch.withCalls deskBatch.calls.reverse).analyze
          Settings.standard.analysis).diagnostics = ⟨1, 1, []⟩ ∧
      ((deskBatch.withCalls (deskBatch.calls ++ deskBatch.calls)).analyze
          Settings.standard.analysis).SameGraph (deskBatch.analyze Settings.standard.analysis) := by
  have hreverse : deskBatch.calls.reverse.Perm deskBatch.calls := List.reverse_perm _
  have htwice : ∀ call, call ∈ deskBatch.calls ++ deskBatch.calls ↔ call ∈ deskBatch.calls := by
    intro call
    rw [List.mem_append, or_self_iff]
  have hdropped : (deskBatch.analyze Settings.standard.analysis).diagnostics = ⟨1, 1, []⟩ := by
    decide +kernel
  obtain ⟨horder, hrepetition⟩ := analyze_withCalls deskBatch Settings.standard.analysis
  obtain ⟨hgraph, hdiagnostics⟩ := horder _ hreverse
  exact ⟨hreverse, htwice, hgraph, hdiagnostics.trans hdropped, (hrepetition _ htwice).1⟩

end Batch

end DomainFlow
