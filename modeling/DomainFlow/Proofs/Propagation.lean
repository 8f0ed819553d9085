import DomainFlow.CallGraph
import DomainFlow.Proofs.Ordered
import DomainFlow.Proofs.Reachability

/-!
# Events caused through calls

The graph of a list of call sites has a call for every invocation and construction, an event for
every raise, and nothing else. So a method from which invocations and constructions lead to a raise
is among the methods whose events are collected, and the event is one of them.

## Main definitions

* `Call.caller`, `Call.callee`: the two methods of a call site
* `callSteps`: the invocations and constructions of a list of call sites, as steps between methods
* `Raises`: whether a method raises an event itself
* `CallGraph.Populated`: whether every method that a graph lists has a callee or an event
* `Occurs`: whether a method calls, is called or raises anything
* `OnlyOverridden`: whether a method is called only for namesakes that raise events

## Main results

* `CallGraph.mem_eventsFor`: a method causes the events that reached methods raise or, where merging
  is on, namesakes of reached methods
* `CallGraph.mem_calleesOf_ofCalls`, `CallGraph.mem_raisedBy_ofCalls`: the graph of a list of calls
* `CallGraph.get?_propagate`: which methods have their events collected, and which events these are
* `CallGraph.populated_ofCalls`: the graph of a list of calls lists no method for nothing
* `CallGraph.eventsFor_and_propagate_ofCalls`: the events of methods, in terms of the calls alone
* `CallGraph.get?_propagate_eq_eventsFor_iff`: the methods whose events are collected in full
* `exists_events_of_reaches`: an event is collected for all methods whose calls lead to a raise
-/

namespace DomainFlow

/-! ## Call sites -/

namespace Call

/-- The calling method. -/
def caller (call : Call) : MethodRef := ⟨call.sourceType, call.sourceMethod⟩

/-- The called method. -/
def callee (call : Call) : MethodRef := ⟨call.targetType, call.calleeMethod⟩

/-- The step from the calling to the called method, if one is called. -/
def step? (call : Call) : Option (MethodRef × MethodRef) :=
  match call.kind with
  | .invocation | .construction => some (call.caller, call.callee)
  | .raiseDomainEvent | .sendCommand => none

end Call

/-- **The steps between methods** that a list of call sites takes. -/
def callSteps (calls : List Call) : List (MethodRef × MethodRef) := calls.filterMap Call.step?

/-- **Whether a method raises an event itself.** -/
def Raises (calls : List Call) (method : MethodRef) (event : String) : Prop :=
  ∃ call ∈ calls, call.kind = .raiseDomainEvent ∧ call.caller = method ∧ call.targetType = event

instance (calls : List Call) (method : MethodRef) (event : String) :
    Decidable (Raises calls method event) :=
  inferInstanceAs (Decidable (∃ call ∈ calls, _))

/-! ## The events of a method -/

namespace CallGraph

variable {graph : CallGraph} {method : MethodRef} {event : String}

theorem get?_raised_of_mem_raisedBy (h : event ∈ graph.raisedBy method) : method ∈ graph.raised.keys := by
  rw [raisedBy] at h
  cases hs : graph.raised.get? method with
  | none => simp [hs] at h
  | some s => exact List.mem_map.2 ⟨_, SortedMap.mem_entries_iff.2 hs, rfl⟩

/-- **The events that a method causes** are those that a reached method raises or, where merging is
on, a method of the same name as a reached one. -/
theorem mem_eventsFor {merge : Bool} :
    event ∈ graph.eventsFor merge method ↔
      ∃ reached, Reaches graph.edges method reached ∧ ∃ raiser, event ∈ graph.raisedBy raiser ∧
        (raiser = reached ∨ merge = true ∧ raiser.method = reached.method) := by
  simp only [eventsFor, SortedSet.mem_ofList, List.mem_flatMap, SortedSet.mem_toList, mem_reachable,
    List.mem_singleton, exists_eq_left]
  refine exists_congr fun reached => and_congr_right fun _ => exists_congr fun raiser => ?_
  -- a method that raises nothing contributes nothing, so namesakes among the raisers suffice
  cases merge with
  | false => simp [contributors, and_comm]
  | true =>
    simp only [contributors, if_true, List.mem_cons, List.mem_filter, decide_eq_true_eq, true_and]
    constructor
    · rintro ⟨h, he⟩
      exact ⟨he, h.imp_right And.right⟩
    · rintro ⟨he, h⟩
      exact ⟨h.imp_right fun h => ⟨get?_raised_of_mem_raisedBy he, h⟩, he⟩

end CallGraph

/-! ## The graph of a list of call sites -/

namespace CallGraph

variable {graph : CallGraph} {calls : List Call} {call : Call} {method caller callee : MethodRef}
  {event : String}

theorem mem_calleesOf_addCall {a b : MethodRef} :
    callee ∈ (graph.addCall a b).calleesOf caller ↔
      (a, b) = (caller, callee) ∨ callee ∈ graph.calleesOf caller := by
  rw [calleesOf, addCall, SortedMap.get?_alter, Prod.mk.injEq]
  by_cases h : caller = a
  · subst h
    rw [if_pos rfl, Option.getD_some, SortedSet.mem_insert, calleesOf]
    exact or_congr ⟨fun h => ⟨rfl, h.symm⟩, fun h => h.2.symm⟩ Iff.rfl
  · rw [if_neg h, calleesOf, or_iff_right fun heq => h heq.1.symm]

theorem mem_raisedBy_addEvent {m : MethodRef} {e : String} :
    event ∈ (graph.addEvent m e).raisedBy method ↔
      m = method ∧ e = event ∨ event ∈ graph.raisedBy method := by
  rw [raisedBy, addEvent, SortedMap.get?_alter]
  by_cases h : method = m
  · subst h
    rw [if_pos rfl, Option.getD_some, SortedSet.mem_insert, raisedBy]
    exact or_congr ⟨fun h => ⟨rfl, h.symm⟩, fun h => h.2.symm⟩ Iff.rfl
  · rw [if_neg h, raisedBy, or_iff_right fun heq => h heq.1.symm]

/-- A call site adds its step, if it takes one. -/
theorem mem_calleesOf_addSite :
    callee ∈ (graph.addSite call).calleesOf caller ↔
      call.step? = some (caller, callee) ∨ callee ∈ graph.calleesOf caller := by
  rw [addSite, Call.step?]
  cases call.kind with
  | invocation => exact mem_calleesOf_addCall.trans (by rw [Option.some_inj]; rfl)
  | construction => exact mem_calleesOf_addCall.trans (by rw [Option.some_inj]; rfl)
  | raiseDomainEvent => exact (or_iff_right nofun).symm
  | sendCommand => exact (or_iff_right nofun).symm

/-- A call site adds its event, if it raises one. -/
theorem mem_raisedBy_addSite :
    event ∈ (graph.addSite call).raisedBy method ↔
      call.kind = .raiseDomainEvent ∧ call.caller = method ∧ call.targetType = event ∨
        event ∈ graph.raisedBy method := by
  rw [addSite]
  cases hkind : call.kind with
  | invocation => exact (or_iff_right nofun).symm
  | construction => exact (or_iff_right nofun).symm
  | raiseDomainEvent => exact mem_raisedBy_addEvent.trans (by rw [eq_self, true_and]; rfl)
  | sendCommand => exact (or_iff_right nofun).symm

theorem mem_calleesOf_foldl_addSite :
    callee ∈ (calls.foldl addSite graph).calleesOf caller ↔
      (caller, callee) ∈ callSteps calls ∨ callee ∈ graph.calleesOf caller := by
  induction calls generalizing graph with
  | nil => exact (or_iff_right List.not_mem_nil).symm
  | cons call rest ih =>
    rw [List.foldl_cons, ih, mem_calleesOf_addSite]
    simp only [callSteps, List.mem_filterMap, List.mem_cons, or_and_right, exists_or, exists_eq_left]
    rw [or_assoc, or_left_comm]

theorem mem_raisedBy_foldl_addSite :
    event ∈ (calls.foldl addSite graph).raisedBy method ↔
      Raises calls method event ∨ event ∈ graph.raisedBy method := by
  induction calls generalizing graph with
  | nil => exact (or_iff_right fun ⟨_, h, _⟩ => nomatch h).symm
  | cons call rest ih =>
    rw [List.foldl_cons, ih, mem_raisedBy_addSite]
    simp only [Raises, List.mem_cons, or_and_right, exists_or, exists_eq_left]
    rw [or_assoc, or_left_comm]

/-- **The calls of the graph are the steps of the list.** -/
theorem mem_calleesOf_ofCalls :
    callee ∈ (ofCalls calls).calleesOf caller ↔ (caller, callee) ∈ callSteps calls := by
  have hempty : callee ∉ (∅ : CallGraph).calleesOf caller := SortedSet.not_mem_empty callee
  rw [ofCalls, mem_calleesOf_foldl_addSite, or_iff_left hempty]

/-- **The events of the graph are those raised in the list.** -/
theorem mem_raisedBy_ofCalls :
    event ∈ (ofCalls calls).raisedBy method ↔ Raises calls method event := by
  have hempty : event ∉ (∅ : CallGraph).raisedBy method := SortedSet.not_mem_empty event
  rw [ofCalls, mem_raisedBy_foldl_addSite, or_iff_left hempty]

theorem reaches_edges_ofCalls {a b : MethodRef} :
    Reaches (ofCalls calls).edges a b ↔ Reaches (callSteps calls) a b := by
  have hmem : ∀ step, step ∈ (ofCalls calls).edges ↔ step ∈ callSteps calls :=
    fun _ => mem_edges.trans mem_calleesOf_ofCalls
  simp only [Reaches, hmem]

/-! ## Methods that call or raise anything -/

/-- **No method is listed for nothing**: each one listed as a caller has a callee, and each one listed
as a raiser has an event. -/
structure Populated (graph : CallGraph) : Prop where
  callees : ∀ method callees, graph.callees.get? method = some callees → ∃ callee, callee ∈ callees
  raised : ∀ method events, graph.raised.get? method = some events → ∃ event, event ∈ events

theorem Populated.addCall (h : graph.Populated) (caller callee : MethodRef) :
    (graph.addCall caller callee).Populated := by
  refine ⟨?_, h.raised⟩
  intro method callees hcallees
  rw [CallGraph.addCall, SortedMap.get?_alter] at hcallees
  split at hcallees
  · cases hcallees
    exact ⟨callee, SortedSet.mem_insert.2 (.inl rfl)⟩
  · exact h.callees method callees hcallees

theorem Populated.addEvent (h : graph.Populated) (method : MethodRef) (event : String) :
    (graph.addEvent method event).Populated := by
  refine ⟨h.callees, ?_⟩
  intro other events hevents
  rw [CallGraph.addEvent, SortedMap.get?_alter] at hevents
  split at hevents
  · cases hevents
    exact ⟨event, SortedSet.mem_insert.2 (.inl rfl)⟩
  · exact h.raised other events hevents

/-- A call site lists no method for nothing. -/
theorem Populated.addSite (h : graph.Populated) (call : Call) : (graph.addSite call).Populated := by
  rw [CallGraph.addSite]
  cases call.kind with
  | invocation => exact h.addCall _ _
  | construction => exact h.addCall _ _
  | raiseDomainEvent => exact h.addEvent _ _
  | sendCommand => exact h

theorem Populated.foldl_addSite (h : graph.Populated) (calls : List Call) :
    (calls.foldl CallGraph.addSite graph).Populated := by
  induction calls generalizing graph with
  | nil => exact h
  | cons call rest ih => exact ih (h.addSite call)

theorem populated_ofCalls (calls : List Call) : (ofCalls calls).Populated := by
  have hempty : (∅ : CallGraph).Populated := ⟨nofun, nofun⟩
  exact hempty.foldl_addSite calls

/-! ## Collected events -/

theorem mem_methods_of_mem_calleesOf (h : callee ∈ graph.calleesOf caller) :
    caller ∈ graph.methods := by
  obtain ⟨⟨_, callees⟩, hentry, hcallee⟩ := List.mem_flatMap.1 (mem_edges.2 h)
  obtain ⟨_, -, heq⟩ := List.mem_map.1 hcallee
  cases heq
  rw [methods, SortedSet.mem_ofList, List.mem_append]
  exact .inl (List.mem_map.2 ⟨_, hentry, rfl⟩)

theorem mem_methods_of_mem_raisedBy (h : event ∈ graph.raisedBy method) :
    method ∈ graph.methods := by
  rw [methods, SortedSet.mem_ofList, List.mem_append]
  exact .inr (get?_raised_of_mem_raisedBy h)

/-- **The methods of the graph of a list of calls** are those that take a step or raise an event. -/
theorem mem_methods_ofCalls :
    method ∈ (ofCalls calls).methods ↔
      (∃ callee, (method, callee) ∈ callSteps calls) ∨ ∃ event, Raises calls method event := by
  constructor
  · intro h
    rw [methods, SortedSet.mem_ofList, List.mem_append, SortedMap.mem_keys_iff,
      SortedMap.mem_keys_iff, SortedMap.contains_iff, SortedMap.contains_iff] at h
    rcases h with ⟨callees, hcallees⟩ | ⟨events, hevents⟩
    · obtain ⟨callee, hmem⟩ := (populated_ofCalls calls).callees method callees hcallees
      have hcallee : callee ∈ (ofCalls calls).calleesOf method := by
        rwa [calleesOf, hcallees, Option.getD_some]
      exact .inl ⟨callee, mem_calleesOf_ofCalls.1 hcallee⟩
    · obtain ⟨event, hmem⟩ := (populated_ofCalls calls).raised method events hevents
      have hevent : event ∈ (ofCalls calls).raisedBy method := by
        rwa [raisedBy, hevents, Option.getD_some]
      exact .inr ⟨event, mem_raisedBy_ofCalls.1 hevent⟩
  · rintro (⟨callee, hcallee⟩ | ⟨event, hevent⟩)
    · exact mem_methods_of_mem_calleesOf (mem_calleesOf_ofCalls.2 hcallee)
    · exact mem_methods_of_mem_raisedBy (mem_raisedBy_ofCalls.2 hevent)

/-- A method from which calls lead to a raise calls or raises something itself. -/
theorem mem_methods_of_reaches {raiser : MethodRef} (hreach : Reaches graph.edges method raiser)
    (hraise : event ∈ graph.raisedBy raiser) : method ∈ graph.methods := by
  rcases hreach.cases_head with rfl | ⟨callee, hcall, -⟩
  · exact mem_methods_of_mem_raisedBy hraise
  · exact mem_methods_of_mem_calleesOf (mem_edges.1 hcall)

/-- **Events are collected for the methods that call or raise anything.** -/
theorem get?_propagate {merge : Bool} :
    (graph.propagate merge).get? method =
      if method ∈ graph.methods then some (graph.eventsFor merge method) else none := by
  simp only [propagate, SortedMap.get?_ofFirst, ← SortedSet.mem_toList]
  induction graph.methods.toList with
  | nil => rfl
  | cons first rest ih =>
    rw [List.map_cons]
    by_cases h : method = first
    · subst h
      rw [SortedMap.lookup_cons_self, if_pos List.mem_cons_self]
    · rw [SortedMap.lookup_cons_ne h, ih]
      simp only [List.mem_cons, or_iff_right h]

/-- **The events of methods are exact.** A method causes the events that the methods reached by its
calls raise themselves and, where merging is on, those that the namesakes of reached methods raise
themselves. These events, and no others, are collected for every method that calls or raises anything,
and for no other method. -/
theorem eventsFor_and_propagate_ofCalls (calls : List Call) (merge : Bool) :
    (∀ method event, event ∈ (ofCalls calls).eventsFor merge method ↔
      ∃ reached, Reaches (callSteps calls) method reached ∧ ∃ raiser, Raises calls raiser event ∧
        (raiser = reached ∨ merge = true ∧ raiser.method = reached.method)) ∧
    ∀ method events, ((ofCalls calls).propagate merge).get? method = some events ↔
      ((∃ callee, (method, callee) ∈ callSteps calls) ∨ ∃ event, Raises calls method event) ∧
        events = (ofCalls calls).eventsFor merge method := by
  constructor
  · intro method event
    rw [mem_eventsFor]
    simp only [reaches_edges_ofCalls, mem_raisedBy_ofCalls]
  · intro method events
    rw [get?_propagate, ← mem_methods_ofCalls]
    by_cases h : method ∈ (ofCalls calls).methods
    · rw [if_pos h, Option.some_inj, and_iff_right h, eq_comm]
    · rw [if_neg h]
      exact iff_of_false nofun fun hmem => h hmem.1

end CallGraph

/-! ## Methods that are only overridden -/

/-- A method occurs in a list of call sites if it calls, is called or raises anything. -/
def Occurs (calls : List Call) (method : MethodRef) : Prop :=
  (∃ callee, (method, callee) ∈ callSteps calls) ∨ (∃ caller, (caller, method) ∈ callSteps calls) ∨
    ∃ event, Raises calls method event

/-- **A method that is only overridden** is called, but has no effects other than those of namesakes:
the method of a base type, say, of which the sources have no body. -/
structure OnlyOverridden (calls : List Call) (method : MethodRef) : Prop where
  called : ∃ caller, (caller, method) ∈ callSteps calls
  callsNothing : ∀ callee, (method, callee) ∉ callSteps calls
  raisesNothing : ∀ event, ¬Raises calls method event
  namesake : ∃ raiser event, Raises calls raiser event ∧ raiser.method = method.method

namespace CallGraph

variable {calls : List Call} {merge : Bool} {method : MethodRef} {event : String}

theorem mem_methods_of_get?_propagate {graph : CallGraph} {events : SortedSet String}
    (h : (graph.propagate merge).get? method = some events) : method ∈ graph.methods := by
  rw [get?_propagate] at h
  split at h
  · assumption
  · cases h

/-- A method that calls and raises nothing reaches no other, so all its events are of namesakes. -/
theorem exists_namesake_of_mem_eventsFor (hcalls : ∀ callee, (method, callee) ∉ callSteps calls)
    (hraises : ∀ event, ¬Raises calls method event)
    (hevent : event ∈ (ofCalls calls).eventsFor merge method) :
    merge = true ∧ ∃ raiser, Raises calls raiser event ∧ raiser.method = method.method := by
  obtain ⟨reached, hreach, raiser, hraise, hraiser⟩ := mem_eventsFor.1 hevent
  rw [mem_raisedBy_ofCalls] at hraise
  rcases (reaches_edges_ofCalls.1 hreach).cases_head with rfl | ⟨callee, hstep, -⟩
  · rcases hraiser with rfl | ⟨hmerge, hname⟩
    · exact absurd hraise (hraises event)
    · exact ⟨hmerge, raiser, hraise, hname⟩
  · exact absurd hstep (hcalls callee)

/-- **Which methods have their events collected.** A method that occurs in the calls has all events
that it causes collected if it causes any, except one that is only overridden while events of
namesakes are merged: it causes the events of its namesakes, and nothing is collected for it. -/
theorem get?_propagate_eq_eventsFor_iff (calls : List Call) (merge : Bool) (method : MethodRef) :
    (Occurs calls method → (∃ event, event ∈ (ofCalls calls).eventsFor merge method) →
      ((ofCalls calls).propagate merge).get? method = some ((ofCalls calls).eventsFor merge method)) ↔
    ¬(merge = true ∧ OnlyOverridden calls method) := by
  constructor
  · rintro hcollected ⟨hmerge, h⟩
    obtain ⟨raiser, event, hraise, hname⟩ := h.namesake
    have hevent : event ∈ (ofCalls calls).eventsFor merge method :=
      mem_eventsFor.2 ⟨method, .refl, raiser, mem_raisedBy_ofCalls.2 hraise, .inr ⟨hmerge, hname⟩⟩
    have hget := hcollected (.inr (.inl h.called)) ⟨event, hevent⟩
    rcases mem_methods_ofCalls.1 (mem_methods_of_get?_propagate hget) with
      ⟨callee, hstep⟩ | ⟨raised, hraised⟩
    · exact h.callsNothing callee hstep
    · exact h.raisesNothing raised hraised
  · rintro hnot hoccurs ⟨event, hevent⟩
    rw [get?_propagate]
    refine if_pos (Classical.byContradiction fun hmem => ?_)
    rw [mem_methods_ofCalls, not_or, not_exists, not_exists] at hmem
    obtain ⟨hcalls, hraises⟩ := hmem
    obtain ⟨hmerge, raiser, hraise, hname⟩ := exists_namesake_of_mem_eventsFor hcalls hraises hevent
    have hcalled : ∃ caller, (caller, method) ∈ callSteps calls := by
      rcases hoccurs with ⟨callee, hstep⟩ | hcalled | ⟨raised, hraised⟩
      · exact absurd hstep (hcalls callee)
      · exact hcalled
      · exact absurd hraised (hraises raised)
    exact hnot ⟨hmerge, hcalled, hcalls, hraises, raiser, event, hraise, hname⟩

/-- A handler that closes a document, and the invoice, whose closing announces itself. -/
def closingCalls : List Call :=
  [.invocation "CloseHandler" "Handle" "Document" "Close",
    .raise "Invoice" "Close" "InvoiceClosed"]

/-- The handler causes the event through the document, but nothing is collected for the document. -/
theorem get?_propagate_closingCalls :
    Occurs closingCalls ⟨"Document", "Close"⟩ ∧
    "InvoiceClosed" ∈ (ofCalls closingCalls).eventsFor true ⟨"Document", "Close"⟩ ∧
    ((ofCalls closingCalls).propagate true).get? ⟨"Document", "Close"⟩ = none := by
  refine ⟨.inr (.inl ⟨⟨"CloseHandler", "Handle"⟩, by decide⟩), ?_, ?_⟩
  · decide +kernel
  · decide +kernel

end CallGraph

/-- **An event is collected for every method whose calls lead to a raise of it**, whether or not
events of namesakes are merged. -/
theorem exists_events_of_reaches {batch : Batch} {merge : Bool} {method raiser : MethodRef}
    {event : String} (hreach : Reaches (callSteps batch.calls) method raiser)
    (hraise : Raises batch.calls raiser event) :
    ∃ events, (batch.events merge).get? method = some events ∧ event ∈ events := by
  have hreach' := CallGraph.reaches_edges_ofCalls.2 hreach
  have hraise' := CallGraph.mem_raisedBy_ofCalls.2 hraise
  refine ⟨(CallGraph.ofCalls batch.calls).eventsFor merge method, ?_, ?_⟩
  · rw [Batch.events, CallGraph.get?_propagate,
      if_pos (CallGraph.mem_methods_of_reaches hreach' hraise')]
  · exact CallGraph.mem_eventsFor.2 ⟨raiser, hreach', raiser, hraise', .inl rfl⟩

end DomainFlow
