import Mathlib.Data.Option.Basic
import DomainFlow.Proofs.Rounds

/-!
# Entry points of a graph

A node may be found as an entry point in several kinds and counts in the first one. So every node
is an entry point at most once, a node found in any kind is an entry point, and what the found nodes
lead to is covered by the chains.

## Main results

* `Store.exists_mem_entryPoints`: a node found in any kind is an entry point
* `Store.pairwise_entryPoints`, `Store.nodup_entryPoints`: the order of the entry points
* `Store.entryPoints_cover`: the rounds end, and the entry points cover all command origins and all
  event handlers
-/

namespace DomainFlow

namespace EntryKind

theorem compare_lt_iff {a b : EntryKind} : compare a b = .lt ↔ a.rank < b.rank := Nat.compare_eq_lt

theorem mem_all (kind : EntryKind) : kind ∈ all := by
  cases kind <;> simp [all]

end EntryKind

theorem EntryKey.compare_lt_iff {a b : EntryKey} :
    compare a b = .lt ↔ compare a.kind b.kind = .lt ∨
      a.kind = b.kind ∧ compare a.nodeId b.nodeId = .lt := by
  change (compareLex (compareOn EntryKey.kind) (compareOn EntryKey.nodeId) a b) = .lt ↔ _
  simp only [compareLex, compareOn, Ordering.then_eq_lt, Std.compare_eq_iff_eq]

/-! ## Command origins -/

/-- Controllers, endpoints and command senders send commands on a request from outside. -/
theorem NodeKind.sendsOnRequest_iff {kind : NodeKind} : kind.sendsOnRequest = true ↔
    kind = .controller ∨ kind = .endpoint ∨ kind = .commandSender := by
  cases kind <;> simp [sendsOnRequest]

/-- A flow is carried to executed methods, to published events and to converted ones. -/
theorem RelationshipKind.triggers_iff {kind : RelationshipKind} : kind.triggers = true ↔
    kind = .commandToAggregateMethod ∨ kind = .methodToDomainEvent ∨
      kind = .domainEventToIntegrationEvent := by
  cases kind <;> simp [triggers]

namespace Store

variable {store : Store}

theorem mem_triggered {id : String} :
    id ∈ store.triggered ↔
      ∃ r ∈ store.relationships, r.kind.triggers = true ∧ store.targetId r = id := by
  simp only [triggered, SortedSet.mem_ofList, List.mem_map, List.mem_filter, SortedSet.mem_toList,
    and_assoc]

theorem origin?_eq_some_iff {triggered : SortedSet String} {r : Relationship}
    {found : EntryKey × String} :
    store.origin? triggered r = some found ↔ r.kind = .methodToCommand ∧
      ∃ origin, store.node? r.source.typeId = some origin ∧ origin.kind.sendsOnRequest = true ∧
        store.sourceId r ∉ triggered ∧ found = (⟨.commandOrigin, store.sourceId r⟩,
          origin.kind.name ++ " sends " ++ r.target.typeId) := by
  simp only [origin?, Option.bind_eq_bind, Option.bind_eq_some_iff, Option.guard_eq_some',
    exists_const, Option.some.injEq, @eq_comm _ found]

/-- **The command origins** are the sources of the commands that senders send on request, as far as
no flow is carried to them. -/
theorem mem_keys_origins {key : EntryKey} :
    key ∈ store.origins.keys ↔ ∃ r ∈ store.relationships, r.kind = .methodToCommand ∧
      (∃ origin, store.node? r.source.typeId = some origin ∧ origin.kind.sendsOnRequest = true) ∧
      store.sourceId r ∉ store.triggered ∧ key = ⟨.commandOrigin, store.sourceId r⟩ := by
  rw [origins, SortedMap.mem_keys_ofFirst]
  simp only [List.mem_filterMap, SortedSet.mem_toList, origin?_eq_some_iff]
  constructor
  · rintro ⟨reason, r, hr, hkind, origin, hnode, hsends, htriggered, heq⟩
    cases heq
    exact ⟨r, hr, hkind, ⟨origin, hnode, hsends⟩, htriggered, rfl⟩
  · rintro ⟨r, hr, hkind, ⟨origin, hnode, hsends⟩, htriggered, rfl⟩
    exact ⟨_, r, hr, hkind, origin, hnode, hsends, htriggered, rfl⟩

/-! ## What is found -/

theorem contains_foundEntries {key : EntryKey} :
    store.foundEntries.contains key = true ↔
      key ∈ store.origins.keys ∨ ∃ f ∈ store.chosenHandlers, f.key = key := by
  rw [← SortedMap.mem_keys_iff, foundEntries, SortedMap.mem_keys_ofFirst]
  simp only [List.mem_append, exists_or]
  refine or_congr ?_ ?_
  · rw [SortedMap.keys, List.mem_map]
    constructor
    · rintro ⟨reason, h⟩
      exact ⟨(key, reason), h, rfl⟩
    · rintro ⟨⟨_, reason⟩, h, rfl⟩
      exact ⟨reason, h⟩
  · constructor
    · rintro ⟨reason, h⟩
      obtain ⟨f, hf, heq⟩ := List.mem_map.1 h
      cases heq
      exact ⟨f, hf, rfl⟩
    · rintro ⟨f, hf, rfl⟩
      exact ⟨_, List.mem_map.2 ⟨f, hf, rfl⟩⟩

/-- **A found entry is an entry point if its node is not found in an earlier kind.** -/
theorem mem_entryPoints {entry : EntryPoint} :
    entry ∈ store.entryPoints ↔
      store.foundEntries.get? ⟨entry.kind, entry.nodeId⟩ = some entry.reasoning ∧
        ∀ kind, compare kind entry.kind = .lt →
          store.foundEntries.contains ⟨kind, entry.nodeId⟩ = false := by
  have hfirst : ∀ key : EntryKey, (EntryKind.all.all fun kind =>
      !(compare kind key.kind = .lt && store.foundEntries.contains ⟨kind, key.nodeId⟩)) = true ↔
        ∀ kind, compare kind key.kind = .lt →
          store.foundEntries.contains ⟨kind, key.nodeId⟩ = false := by
    intro key
    simp only [List.all_eq_true, EntryKind.mem_all, forall_const, Bool.not_eq_true',
      Bool.and_eq_false_imp, decide_eq_true_eq]
  rw [entryPoints, List.mem_map]
  constructor
  · rintro ⟨⟨key, reasoning⟩, h, rfl⟩
    obtain ⟨h, hkinds⟩ := List.mem_filter.1 h
    exact ⟨SortedMap.mem_entries_iff.1 h, (hfirst key).1 hkinds⟩
  · rintro ⟨h, hkinds⟩
    exact ⟨(⟨entry.kind, entry.nodeId⟩, entry.reasoning), List.mem_filter.2
      ⟨SortedMap.mem_entries_iff.2 h, (hfirst ⟨entry.kind, entry.nodeId⟩).2 hkinds⟩, rfl⟩

/-- **A node found in any kind is an entry point**, and no later kind counts. -/
theorem exists_mem_entryPoints {kind : EntryKind} {id : String}
    (h : store.foundEntries.contains ⟨kind, id⟩ = true) :
    ∃ entry ∈ store.entryPoints, entry.nodeId = id ∧ entry.kind.rank ≤ kind.rank := by
  induction hrank : kind.rank using Nat.strongRecOn generalizing kind with
  | _ rank ih =>
    by_cases hearlier : ∃ kind', compare kind' kind = .lt ∧
        store.foundEntries.contains ⟨kind', id⟩ = true
    · obtain ⟨kind', hlt, hfound⟩ := hearlier
      have hlt' := EntryKind.compare_lt_iff.1 hlt
      obtain ⟨entry, hentry, hid, hle⟩ := ih kind'.rank (hrank ▸ hlt') hfound rfl
      exact ⟨entry, hentry, hid, by omega⟩
    · obtain ⟨reasoning, hreasoning⟩ := SortedMap.contains_iff.1 h
      refine ⟨⟨id, kind, reasoning⟩, mem_entryPoints.2 ⟨hreasoning, fun kind' hlt => ?_⟩, rfl,
        Nat.le_of_eq hrank⟩
      exact Bool.eq_false_iff.2 fun hfound => hearlier ⟨kind', hlt, hfound⟩

theorem contains_foundEntries_of_mem {entry : EntryPoint} (h : entry ∈ store.entryPoints) :
    store.foundEntries.contains ⟨entry.kind, entry.nodeId⟩ = true :=
  SortedMap.contains_iff.2 ⟨_, (mem_entryPoints.1 h).1⟩

/-- The entry points increase, by kind and then by id. -/
theorem pairwise_entryPoints (store : Store) :
    store.entryPoints.Pairwise fun a b =>
      compare (⟨a.kind, a.nodeId⟩ : EntryKey) ⟨b.kind, b.nodeId⟩ = .lt := by
  rw [entryPoints, List.pairwise_map]
  exact store.foundEntries.increasing.sublist List.filter_sublist

/-- **Every node is an entry point at most once.** -/
theorem nodup_entryPoints (store : Store) : (store.entryPoints.map (·.nodeId)).Nodup := by
  rw [List.Nodup, List.pairwise_map]
  refine store.pairwise_entryPoints.imp_of_mem fun {a b} ha hb hlt heq => ?_
  rcases EntryKey.compare_lt_iff.1 hlt with hkind | ⟨-, hid⟩
  · have hfound := contains_foundEntries_of_mem ha
    have hnone := (mem_entryPoints.1 hb).2 a.kind hkind
    rw [← heq, hfound] at hnone
    cases hnone
  · exact SortedMap.ne_of_compare_lt hid heq

/-! ## What is covered -/

/-- A command origin is an entry point of the first kind. -/
theorem exists_mem_entryPoints_of_mem_origins {key : EntryKey} (h : key ∈ store.origins.keys) :
    ∃ entry ∈ store.entryPoints, entry.nodeId = key.nodeId ∧ entry.kind = .commandOrigin := by
  obtain ⟨r, -, -, -, -, rfl⟩ := mem_keys_origins.1 h
  obtain ⟨entry, hentry, hid, hle⟩ := exists_mem_entryPoints (contains_foundEntries.2 (.inl h))
  exact ⟨entry, hentry, hid, EntryKind.eq_of_rank_eq (Nat.le_zero.1 hle)⟩

/-- **Every handler is behind an entry point.** -/
theorem exists_entry_reaches_handler {f : Handler} (hf : f ∈ store.handlers) :
    ∃ entry ∈ store.entryPoints, Reaches store.edges entry.nodeId f.key.nodeId := by
  -- what leads to the handler has been found, maybe in a kind that does not count
  obtain ⟨key, hfound, hreach⟩ : ∃ key, store.foundEntries.contains key = true ∧
      Reaches store.edges key.nodeId f.key.nodeId := by
    rcases reaches_of_mem_handlers hf with ⟨key, hkey, hreach⟩ | ⟨g, hg, hreach⟩
    · exact ⟨key, contains_foundEntries.2 (.inl hkey), hreach⟩
    · exact ⟨g.key, contains_foundEntries.2 (.inr ⟨g, hg, rfl⟩), hreach⟩
  obtain ⟨entry, hentry, hid, -⟩ := exists_mem_entryPoints hfound
  exact ⟨entry, hentry, hid ▸ hreach⟩

theorem exists_mem_traceAll {entry : EntryPoint} (hentry : entry ∈ store.entryPoints) {id : String}
    (h : Reaches store.edges entry.nodeId id) : ∃ chain ∈ store.traceAll, id ∈ chain.nodeIds :=
  ⟨_, mem_traceAll.2 ⟨entry, hentry, rfl⟩, mem_nodeIds_trace.2 h⟩

/-- **The choice of entry points ends and covers all it has to.** There are at most as many rounds
as handlers, and the last round leaves what is chosen. The entry points are distinct nodes, by kind
and then by id. They hold every method of a controller, endpoint or command sender that sends a command,
unless a command executes it or it is a published or converted event; and every event handler is in one
of their chains. -/
theorem entryPoints_cover (store : Store) :
    (∀ n s, Rounds store.edges store.firstSelection n s → n ≤ store.handlers.length) ∧
    (∃ n last, Rounds store.edges store.firstSelection n last ∧ last.next? store.edges = none ∧
      last.chosen = chooseHandlers store.edges store.firstSelection.traced store.handlers) ∧
    (store.entryPoints.map (·.nodeId)).Nodup ∧
    (store.entryPoints.Pairwise fun a b =>
      compare (⟨a.kind, a.nodeId⟩ : EntryKey) ⟨b.kind, b.nodeId⟩ = .lt) ∧
    (∀ r ∈ store.relationships, ∀ origin, r.kind = .methodToCommand →
      store.node? r.source.typeId = some origin →
      origin.kind = .controller ∨ origin.kind = .endpoint ∨ origin.kind = .commandSender →
      (∀ carrier ∈ store.relationships,
        carrier.kind = .commandToAggregateMethod ∨ carrier.kind = .methodToDomainEvent ∨
          carrier.kind = .domainEventToIntegrationEvent →
        store.targetId carrier ≠ store.sourceId r) →
      ∃ entry ∈ store.entryPoints,
        entry.nodeId = store.sourceId r ∧ entry.kind = .commandOrigin) ∧
    (∀ r ∈ store.relationships,
      r.kind = .domainEventToHandler ∨ r.kind = .integrationEventToHandler →
      ∃ chain ∈ store.traceAll, store.targetId r ∈ chain.nodeIds) := by
  refine ⟨fun n s hrounds => ?_, store.exists_last_rounds, store.nodup_entryPoints,
    store.pairwise_entryPoints, fun r hr origin hkind hnode hsends huntriggered => ?_,
    fun r hr hkind => ?_⟩
  · exact Nat.le_trans (Nat.le_add_right ..) hrounds.add_length_le
  · have htriggered : store.sourceId r ∉ store.triggered := by
      intro h
      obtain ⟨carrier, hcarrier, htriggers, heq⟩ := mem_triggered.1 h
      exact huntriggered carrier hcarrier (RelationshipKind.triggers_iff.1 htriggers) heq
    exact exists_mem_entryPoints_of_mem_origins
      (mem_keys_origins.2
        ⟨r, hr, hkind, ⟨origin, hnode, NodeKind.sendsOnRequest_iff.2 hsends⟩, htriggered, rfl⟩)
  · obtain ⟨kind, hhandler⟩ : ∃ kind, r.kind.handlerKind? = some kind := by
      rcases hkind with hkind | hkind <;> rw [hkind] <;> exact ⟨_, rfl⟩
    obtain ⟨f, hf, hkey⟩ := exists_mem_handlers hr hhandler
    obtain ⟨entry, hentry, hreach⟩ := exists_entry_reaches_handler hf
    rw [hkey] at hreach
    exact exists_mem_traceAll hentry hreach

end Store

end DomainFlow
