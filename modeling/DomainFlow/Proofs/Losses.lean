import DomainFlow.Proofs.CallOrder
import DomainFlow.Proofs.CommandFlow
import DomainFlow.Proofs.RuleTable
import Mathlib.Algebra.GroupWithZero.Nat

/-!
# Calls that leave no trace

A call is lost if it justifies no relationship of what its batch contributes. A lost call is meant
to be among the facts counted as dropped, and with one exception it is. A raise of a domain event is
left to the phase that judges the events of methods, and that phase passes over the methods of types
other than aggregates and entities. So a raise by such a type is lost silently, unless an aggregate
or entity publishes the same event.

What is counted is not only lost calls: the call of a handler may be dropped once for each of its
commands, and contracts are dropped too. So a batch may count as many facts as it loses calls even
though it has silent raises, and it does exactly if it drops as much beyond its lost calls.

## Main definitions

* `Batch.Justifies`: whether a call justifies a relationship
* `Batch.IsLost`: whether a call justifies nothing that its batch contributes
* `Batch.IsSilent`: whether a call raises an event that neither its own type, being no aggregate or
  entity, nor any other type publishes
* `Scope.drops`: how often a call is counted as dropped
* `Batch.spareDrops`: the facts dropped beyond one for each lost call

## Main results

* `Batch.isLost_undropped_iff`: a lost call is not dropped exactly if it is a silent raise
* `Batch.length_lostCalls_add_spareDrops`: the account of lost calls and facts dropped
* `Batch.lostCalls_counted_iff`: when the facts dropped are no fewer than the lost calls
-/

namespace DomainFlow

/-! ## Dropped facts -/

/-- Whether a verdict drops its fact. -/
def Verdict.isDropped : Verdict → Bool
  | .relates _ => false
  | .malformed | .discarded => true

theorem Verdict.countP_isDropped (verdicts : List Verdict) :
    verdicts.countP isDropped = verdicts.count .malformed + verdicts.count .discarded := by
  induction verdicts with
  | nil => rfl
  | cons verdict rest ih =>
    rw [List.countP_cons, List.count_cons, List.count_cons, ih]
    cases verdict <;> simp [isDropped] <;> omega

namespace Scope

variable {scope : Scope} {call : Call}

/-- **How often a call is counted as dropped.** -/
def drops (scope : Scope) (call : Call) : Nat := (scope.judgeCall call).countP Verdict.isDropped

/-- The events of methods are never dropped. -/
theorem countP_isDropped_judgeAllEvents (scope : Scope) (events : EventMap) :
    (scope.judgeAllEvents events).countP Verdict.isDropped = 0 := by
  rw [List.countP_eq_zero]
  intro verdict hverdict
  obtain ⟨⟨method, raised⟩, -, hverdict⟩ := List.mem_flatMap.1 hverdict
  change verdict ∈ scope.judgeEvents method raised at hverdict
  rw [judgeEvents] at hverdict
  split at hverdict
  · split at hverdict
    · obtain ⟨event, -, rfl⟩ := List.mem_map.1 hverdict
      exact Bool.false_ne_true
    · cases hverdict
  · cases hverdict

/-- **The facts dropped** are calls and contracts. -/
theorem malformed_add_discarded_classify (scope : Scope) (calls : List Call) (events : EventMap) :
    (scope.classify calls events).malformed + (scope.classify calls events).discarded =
      (calls.map scope.drops).sum + scope.judgeContracts.countP Verdict.isDropped := by
  have hmalformed : (∅ : Classification).malformed = 0 := rfl
  have hdiscarded : (∅ : Classification).discarded = 0 := rfl
  have hcalls : (scope.judgeCalls calls).countP Verdict.isDropped = (calls.map scope.drops).sum :=
    List.countP_flatMap
  rw [classify_eq_recordAll, Classification.malformed_recordAll, Classification.discarded_recordAll,
    hmalformed, hdiscarded, Nat.zero_add, Nat.zero_add, ← Verdict.countP_isDropped, verdicts,
    List.countP_append, List.countP_append, hcalls, countP_isDropped_judgeAllEvents, Nat.add_zero]

theorem judgeSend_ne_nil (source target : TypeFact) (call : Call) :
    judgeSend source target call ≠ [] := by
  rw [judgeSend]
  split
  · split <;> exact List.cons_ne_nil _ _
  · exact List.cons_ne_nil _ _

theorem judgeInvocation_ne_nil (scope : Scope) (source target : TypeFact) (call : Call) :
    scope.judgeInvocation source target call ≠ [] := by
  rw [judgeInvocation]
  split
  · split
    · exact List.cons_ne_nil _ _
    · next hsome => simpa using hsome
  · exact List.cons_ne_nil _ _

/-- Only a raise of a domain event is left to another phase. -/
theorem judgeCall_eq_nil_iff :
    scope.judgeCall call = [] ↔ call.kind = .raiseDomainEvent ∧
      (∃ source, scope.find? call.sourceType = some source) ∧
      ∃ target, scope.find? call.targetType = some target ∧ target.kind = .domainEvent := by
  rw [judgeCall]
  cases scope.find? call.sourceType with
  | none => simp
  | some source =>
    cases scope.find? call.targetType with
    | none => simp
    | some target =>
      cases hkind : call.kind with
      | raiseDomainEvent => by_cases htarget : target.kind = .domainEvent <;> simp [htarget]
      | sendCommand => simp [judgeSend_ne_nil]
      | invocation => simp [judgeInvocation_ne_nil]
      | construction => simp [judgeInvocation_ne_nil]

end Scope

namespace Batch

variable {batch : Batch} {settings : AnalysisSettings} {call : Call} {r : Relationship}

/-! ## Lost calls -/

/-- **A call justifies a relationship**: a sent command the one from its method to the command, the
call of a method any one to the method from a command that the caller handles, and a raise any one
to the raised event. -/
def Justifies (batch : Batch) (settings : AnalysisSettings) (call : Call) (r : Relationship) :
    Prop :=
  call.kind = .sendCommand ∧ (r.kind = .methodToCommand ∨ r.kind = .handlerToCommand) ∧
      r.source = call.caller ∧ r.target = ⟨call.targetType, ""⟩ ∨
    (call.kind = .invocation ∨ call.kind = .construction) ∧ r.kind = .commandToAggregateMethod ∧
      (∃ handler ∈ declaration? batch.types call.sourceType,
        .handlesCommand r.source.typeId ∈ handler.contracts) ∧ r.source.method = "" ∧
      (∃ target ∈ declaration? batch.types call.targetType,
        r.target = (batch.scope settings).endpoint target call.calleeMethod) ∨
    call.kind = .raiseDomainEvent ∧ r.kind = .methodToDomainEvent ∧ r.target = ⟨call.targetType, ""⟩

instance (batch : Batch) (settings : AnalysisSettings) (call : Call) (r : Relationship) :
    Decidable (batch.Justifies settings call r) :=
  inferInstanceAs (Decidable (_ ∨ _))

/-- **A call is lost** if it justifies no relationship that its batch contributes. -/
def IsLost (batch : Batch) (settings : AnalysisSettings) (call : Call) : Prop :=
  ∀ r ∈ (batch.analyze settings).relationships, ¬batch.Justifies settings call r

instance (batch : Batch) (settings : AnalysisSettings) (call : Call) :
    Decidable (batch.IsLost settings call) :=
  inferInstanceAs (Decidable (∀ r ∈ _, _))

/-- **An aggregate or entity publishes an event**: one of its methods causes the event. -/
def Publishes (batch : Batch) (settings : AnalysisSettings) (event : String) : Prop :=
  ∃ entry ∈ (batch.events settings.mergeSameNameEvents).entries, event ∈ entry.2 ∧
    ∃ source ∈ declaration? batch.types entry.1.typeId, source.kind.isDomainObject = true

instance (batch : Batch) (settings : AnalysisSettings) (event : String) :
    Decidable (batch.Publishes settings event) :=
  inferInstanceAs (Decidable (∃ entry ∈ _, _))

/-- **A silent raise**: a type that is no aggregate or entity raises a domain event that no
aggregate or entity publishes. -/
structure IsSilent (batch : Batch) (settings : AnalysisSettings) (call : Call) : Prop where
  isRaise : call.kind = .raiseDomainEvent
  isEvent : batch.Declares call.targetType .domainEvent
  source : ∃ source ∈ declaration? batch.types call.sourceType, source.kind.isDomainObject = false
  unpublished : ¬batch.Publishes settings call.targetType

instance (batch : Batch) (settings : AnalysisSettings) (call : Call) :
    Decidable (batch.IsSilent settings call) :=
  decidable_of_iff (_ ∧ _ ∧ _ ∧ _)
    ⟨fun ⟨hraise, hevent, hsource, hunpublished⟩ => ⟨hraise, hevent, hsource, hunpublished⟩,
      fun h => ⟨h.isRaise, h.isEvent, h.source, h.unpublished⟩⟩

/-- The lost calls of a batch. -/
def lostCalls (batch : Batch) (settings : AnalysisSettings) : List Call :=
  batch.calls.filter (batch.IsLost settings ·)

/-- The silent raises of a batch. -/
def silentRaises (batch : Batch) (settings : AnalysisSettings) : List Call :=
  batch.calls.filter (batch.IsSilent settings ·)

/-- **The facts dropped beyond one for each lost call**: commands of handlers for which a call is
dropped again, or while it is not lost, and contracts. -/
def spareDrops (batch : Batch) (settings : AnalysisSettings) : Nat :=
  (batch.calls.map fun call => (batch.scope settings).drops call -
    if batch.IsLost settings call then 1 else 0).sum +
  (batch.scope settings).judgeContracts.countP Verdict.isDropped

/-- What the verdicts on a call relate is justified by the call. -/
theorem justifies_of_mem_judgeCall (h : .relates r ∈ (batch.scope settings).judgeCall call) :
    batch.Justifies settings call r := by
  obtain ⟨source, target, hsource, htarget, ⟨hkind, h⟩ | ⟨hkind, h⟩⟩ :=
    Scope.relates_mem_judgeCall_iff.1 h
  · obtain ⟨-, sent, hsent, rfl⟩ := Scope.relates_mem_judgeSend_iff.1 h
    have hsourceId : source.id = call.sourceType := id_of_declaration? hsource
    have htargetId : target.id = call.targetType := id_of_declaration? htarget
    have hkinds : sent = .methodToCommand ∨ sent = .handlerToCommand := by
      rcases Scope.sendingKind?_eq_some_iff.1 hsent with ⟨-, rfl⟩ | ⟨-, -, rfl⟩
      · exact .inr rfl
      · exact .inl rfl
    exact .inl ⟨hkind, hkinds, by rw [hsourceId, Call.caller], by rw [htargetId]⟩
  · obtain ⟨-, command, hcommand, -, rfl⟩ := Scope.relates_mem_judgeInvocation_iff.1 h
    have hcontract := TypeFact.mem_handledCommands.1 hcommand
    exact .inr (.inl ⟨hkind, rfl, ⟨source, hsource, hcontract⟩, rfl, ⟨target, htarget, rfl⟩⟩)

/-- A domain event is related to a method exactly if an aggregate or entity publishes it. -/
theorem publishes_iff {event : String} (hevent : batch.Declares event .domainEvent) :
    batch.Publishes settings event ↔ ∃ r ∈ (batch.analyze settings).relationships,
      r.kind = .methodToDomainEvent ∧ r.target = ⟨event, ""⟩ := by
  constructor
  · rintro ⟨⟨method, raised⟩, hentry, hmem, source, hsource, hobject⟩
    refine ⟨⟨(batch.scope settings).endpoint source method.method, ⟨event, ""⟩,
      .methodToDomainEvent⟩, ?_, rfl, rfl⟩
    refine mem_relationships_analyze.2 (mem_classification_iff.2 (.inr (.inl ⟨method, raised,
      SortedMap.mem_entries_iff.1 hentry, ?_⟩)))
    exact Scope.relates_mem_judgeEvents_iff.2
      ⟨source, hsource, hobject, event, hmem, isKind_scope_iff.2 hevent, rfl⟩
  · rintro ⟨r, hr, hkind, htarget⟩
    cases Scope.Relates.of_mem_classify (mem_relationships_analyze.1 hr) with
    | publishes entry mem isEvent counts isObject attributes =>
      cases htarget
      exact ⟨_, SortedMap.mem_entries_iff.2 entry, mem, _,
        Scope.find?_eq_some_iff_counts.2 ⟨counts, rfl⟩, TypeKind.isDomainObject_iff.2 isObject⟩
    | _ => cases hkind

theorem isLost_iff_of_raise (hraise : call.kind = .raiseDomainEvent)
    (hevent : batch.Declares call.targetType .domainEvent) :
    batch.IsLost settings call ↔ ¬batch.Publishes settings call.targetType := by
  have hjustifies : ∀ r, batch.Justifies settings call r ↔
      r.kind = .methodToDomainEvent ∧ r.target = ⟨call.targetType, ""⟩ := by
    intro r
    simp [Justifies, hraise]
  simp only [publishes_iff hevent, IsLost, hjustifies, not_exists, not_and]

/-- The methods of an aggregate or entity publish the events that they raise. -/
theorem publishes_of_raise (hcall : call ∈ batch.calls) (hraise : call.kind = .raiseDomainEvent)
    {source : TypeFact} (hsource : source ∈ declaration? batch.types call.sourceType)
    (hobject : source.kind.isDomainObject = true) : batch.Publishes settings call.targetType := by
  obtain ⟨raised, hraised, hmem⟩ := exists_events_of_reaches .refl
    (⟨call, hcall, hraise, rfl, rfl⟩ : Raises batch.calls call.caller call.targetType)
  exact ⟨(call.caller, raised), SortedMap.mem_entries_iff.2 hraised, hmem, source, hsource, hobject⟩

/-- An undropped call relates something, or nothing is said about it. -/
theorem judgeCall_eq_nil_of_isLost (hcall : call ∈ batch.calls) (hlost : batch.IsLost settings call)
    (hdrops : (batch.scope settings).drops call = 0) :
    (batch.scope settings).judgeCall call = [] := by
  rw [List.eq_nil_iff_forall_not_mem]
  intro verdict hverdict
  have hkept := List.countP_eq_zero.1 hdrops verdict hverdict
  cases verdict with
  | relates r =>
    have hr : r ∈ (batch.analyze settings).relationships :=
      mem_relationships_analyze.2 (mem_classification_iff.2 (.inl ⟨call, hcall, hverdict⟩))
    exact hlost r hr (justifies_of_mem_judgeCall hverdict)
  | malformed => exact hkept rfl
  | discarded => exact hkept rfl

/-- **A lost call is dropped**, unless it is a silent raise. -/
theorem isLost_undropped_iff (hcall : call ∈ batch.calls) :
    batch.IsLost settings call ∧ (batch.scope settings).drops call = 0 ↔
      batch.IsSilent settings call := by
  constructor
  · rintro ⟨hlost, hdrops⟩
    have hnone := judgeCall_eq_nil_of_isLost hcall hlost hdrops
    obtain ⟨hraise, ⟨source, hsource⟩, target, htarget, hkind⟩ := Scope.judgeCall_eq_nil_iff.1 hnone
    have hevent : batch.Declares call.targetType .domainEvent :=
      Option.map_eq_some_iff.2 ⟨target, htarget, hkind⟩
    have hunpublished := (isLost_iff_of_raise hraise hevent).1 hlost
    refine ⟨hraise, hevent, ⟨source, hsource, ?_⟩, hunpublished⟩
    -- an aggregate or entity would publish the event itself
    rw [Bool.eq_false_iff]
    intro hobject
    exact hunpublished (publishes_of_raise hcall hraise hsource hobject)
  · rintro ⟨hraise, hevent, ⟨source, hsource, -⟩, hunpublished⟩
    obtain ⟨target, htarget, hkind⟩ := Option.map_eq_some_iff.1 hevent
    have hnone : (batch.scope settings).judgeCall call = [] :=
      Scope.judgeCall_eq_nil_iff.2 ⟨hraise, ⟨source, hsource⟩, target, htarget, hkind⟩
    refine ⟨(isLost_iff_of_raise hraise hevent).2 hunpublished, ?_⟩
    rw [Scope.drops, hnone, List.countP_nil]

/-! ## The account -/

/-- What holds of the numbers that each element adds to the sums and lengths holds of the totals. -/
theorem sum_add_length_filter {α : Type} {f g : α → Nat} {p q : α → Prop} [DecidablePred p]
    [DecidablePred q] {l : List α}
    (h : ∀ a ∈ l, f a + (if q a then 1 else 0) = (if p a then 1 else 0) + g a) :
    (l.map f).sum + (l.filter (q ·)).length = (l.filter (p ·)).length + (l.map g).sum := by
  induction l with
  | nil => rfl
  | cons a rest ih =>
    have hhead := h a List.mem_cons_self
    have htail := ih fun b hb => h b (List.mem_cons_of_mem a hb)
    rw [List.filter_cons, List.filter_cons, List.map_cons, List.map_cons, List.sum_cons,
      List.sum_cons]
    by_cases hp : p a <;> by_cases hq : q a <;> simp [hp, hq] at hhead ⊢ <;> omega

/-- A call that is lost and no silent raise is dropped once, and any more than that is spare. -/
theorem drops_add_silent (hcall : call ∈ batch.calls) :
    (batch.scope settings).drops call + (if batch.IsSilent settings call then 1 else 0) =
      (if batch.IsLost settings call then 1 else 0) +
        ((batch.scope settings).drops call - if batch.IsLost settings call then 1 else 0) := by
  have hsilent : batch.IsLost settings call ∧ (batch.scope settings).drops call = 0 ↔
      batch.IsSilent settings call := isLost_undropped_iff hcall
  -- only for a silent raise does the subtraction cut off
  by_cases hlost : batch.IsLost settings call
  · by_cases hdrops : (batch.scope settings).drops call = 0
    · rw [if_pos (hsilent.1 ⟨hlost, hdrops⟩), if_pos hlost, hdrops]
    · rw [if_neg fun h => hdrops (hsilent.2 h).2, if_pos hlost]
      omega
  · rw [if_neg fun h => hlost (hsilent.2 h).1, if_neg hlost]
    omega

/-- **The account of calls and facts dropped**: lost calls are dropped or silent. -/
theorem length_lostCalls_add_spareDrops (batch : Batch) (settings : AnalysisSettings) :
    (batch.lostCalls settings).length + batch.spareDrops settings =
      (batch.analyze settings).diagnostics.malformedFacts +
        (batch.analyze settings).diagnostics.discardedCalls +
        (batch.silentRaises settings).length := by
  have hcalls : (batch.calls.map (batch.scope settings).drops).sum +
        (batch.silentRaises settings).length =
      (batch.lostCalls settings).length +
        (batch.calls.map fun call => (batch.scope settings).drops call -
          if batch.IsLost settings call then 1 else 0).sum :=
    sum_add_length_filter fun _ hcall => drops_add_silent hcall
  have hdropped : (batch.analyze settings).diagnostics.malformedFacts +
        (batch.analyze settings).diagnostics.discardedCalls =
      (batch.calls.map (batch.scope settings).drops).sum +
        (batch.scope settings).judgeContracts.countP Verdict.isDropped :=
    Scope.malformed_add_discarded_classify _ _ _
  rw [spareDrops]
  omega

theorem filter_lostCalls_undropped (batch : Batch) (settings : AnalysisSettings) :
    (batch.lostCalls settings).filter ((batch.scope settings).drops · = 0) =
      batch.silentRaises settings := by
  rw [lostCalls, silentRaises, List.filter_filter]
  apply List.filter_congr
  intro call hcall
  rw [← Bool.decide_and, decide_eq_decide, and_comm]
  exact isLost_undropped_iff hcall

/-- **Lost calls are counted, silent raises apart.** The lost calls that are not dropped themselves
are the silent raises. So the facts dropped are no fewer than the lost calls exactly if those
dropped beyond them are no fewer than the silent raises. -/
theorem lostCalls_counted_iff (batch : Batch) (settings : AnalysisSettings) :
    (batch.lostCalls settings).filter ((batch.scope settings).drops · = 0) =
        batch.silentRaises settings ∧
      ((batch.lostCalls settings).length ≤ (batch.analyze settings).diagnostics.malformedFacts +
          (batch.analyze settings).diagnostics.discardedCalls ↔
        (batch.silentRaises settings).length ≤ batch.spareDrops settings) := by
  have haccount := length_lostCalls_add_spareDrops batch settings
  refine ⟨filter_lostCalls_undropped batch settings, ?_⟩
  omega

/-- A module whose controller raises an event. -/
def noticeBatch : Batch where
  source := "notice"
  types := [.ofId "Desk" .controller, .ofId "Paid" .domainEvent]
  calls := [.raise "Desk" "Post" "Paid"]

/-- The controller publishes nothing, and nothing is counted as dropped. -/
theorem lostCalls_noticeBatch :
    (noticeBatch.analyze Settings.standard.analysis).relationships = [] ∧
      (noticeBatch.lostCalls Settings.standard.analysis).length = 1 ∧
      (noticeBatch.analyze Settings.standard.analysis).diagnostics = ⟨0, 0, []⟩ ∧
      ¬(noticeBatch.lostCalls Settings.standard.analysis).length ≤
        (noticeBatch.analyze Settings.standard.analysis).diagnostics.malformedFacts +
          (noticeBatch.analyze Settings.standard.analysis).diagnostics.discardedCalls := by
  decide +kernel

end Batch

end DomainFlow
