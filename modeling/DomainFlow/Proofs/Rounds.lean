import DomainFlow.Proofs.Ordered
import DomainFlow.Proofs.Walk

/-!
# Rounds of event handlers

Between two rounds, the nodes traced are those that a command origin or a chosen handler reaches. A
handler is open to choice exactly if it has not been traced: where one of its events has been
traced, so has the handler, because an event leads to its handlers.

## Main definitions

* `Unled`: whether none of the other handlers leads to a handler
* `Selection`, `Selection.next?`, `Rounds`: the rounds, one after another
* `Selection.Sound`: what holds between two rounds

## Main results

* `Rounds.sound`: the invariant of the rounds
* `Rounds.add_length_le`, `Store.exists_last_rounds`: the rounds end
* `Store.reaches_of_mem_handlers`: every handler is behind a command origin or a chosen handler
-/

namespace DomainFlow

/-! ## Handlers -/

theorem RelationshipKind.ne_unknown_of_handlerKind? {kind : RelationshipKind} {entry : EntryKind}
    (h : kind.handlerKind? = some entry) : kind ≠ .unknown := by
  rintro rfl
  cases h

namespace Store

variable {store : Store} {f g : Handler}

theorem exists_relationship_of_mem_handlers (hf : f ∈ store.handlers) {event : String}
    (he : event ∈ f.events) :
    ∃ r ∈ store.relationships, r.kind.handlerKind? = some f.key.kind ∧
      store.targetId r = f.key.nodeId ∧ store.sourceId r = event := by
  obtain ⟨⟨key, events⟩, hmem, rfl⟩ := List.mem_map.1 hf
  obtain ⟨-, rfl⟩ := SortedMap.mem_entries_ofGroups.1 hmem
  obtain ⟨⟨_, _⟩, hentry, rfl⟩ := List.mem_map.1 he
  obtain ⟨hentry, hkey⟩ := List.mem_filter.1 hentry
  obtain ⟨r, hr, hmap⟩ := List.mem_filterMap.1 hentry
  obtain ⟨kind, hkind, heq⟩ := Option.map_eq_some_iff.1 hmap
  obtain rfl : _ = key := of_decide_eq_true hkey
  cases heq
  exact ⟨r, SortedSet.mem_toList.1 hr, hkind, rfl, rfl⟩

theorem exists_event_of_mem_handlers (hf : f ∈ store.handlers) : ∃ event, event ∈ f.events := by
  obtain ⟨⟨key, events⟩, hmem, rfl⟩ := List.mem_map.1 hf
  obtain ⟨⟨event, hevent⟩, rfl⟩ := SortedMap.mem_entries_ofGroups.1 hmem
  exact ⟨event, List.mem_map.2 ⟨(key, event), List.mem_filter.2 ⟨hevent, by simp⟩, rfl⟩⟩

/-- An event leads to its handlers. -/
theorem mem_edges_of_mem_events (hf : f ∈ store.handlers) {event : String} (he : event ∈ f.events) :
    (event, f.key.nodeId) ∈ store.edges := by
  obtain ⟨r, hr, hkind, htarget, hsource⟩ := exists_relationship_of_mem_handlers hf he
  rw [← htarget, ← hsource]
  exact mem_edges.2 ⟨r, hr, RelationshipKind.ne_unknown_of_handlerKind? hkind, rfl⟩

theorem kind_ne_of_mem_handlers (hf : f ∈ store.handlers) : f.key.kind ≠ .commandOrigin := by
  obtain ⟨event, he⟩ := exists_event_of_mem_handlers hf
  obtain ⟨r, -, hkind, -⟩ := exists_relationship_of_mem_handlers hf he
  intro h
  rw [h] at hkind
  cases hr : r.kind <;> rw [hr] at hkind <;> cases hkind

theorem exists_mem_handlers {r : Relationship} (hr : r ∈ store.relationships) {kind : EntryKind}
    (hkind : r.kind.handlerKind? = some kind) :
    ∃ f ∈ store.handlers, f.key = ⟨kind, store.targetId r⟩ := by
  have hentry : ((⟨kind, store.targetId r⟩ : EntryKey), store.sourceId r) ∈
      store.relationships.toList.filterMap fun r =>
        r.kind.handlerKind?.map fun kind =>
          ((⟨kind, store.targetId r⟩ : EntryKey), store.sourceId r) :=
    List.mem_filterMap.2 ⟨r, SortedSet.mem_toList.2 hr, by rw [hkind]; rfl⟩
  exact ⟨⟨_, _⟩, List.mem_map.2 ⟨_, SortedMap.mem_entries_ofGroups.2 ⟨⟨_, hentry⟩, rfl⟩, rfl⟩, rfl⟩

/-- The handlers increase. -/
theorem pairwise_handlers (store : Store) :
    store.handlers.Pairwise fun f g => compare f.key g.key = .lt :=
  List.pairwise_map.2 (SortedMap.increasing _)

end Store

/-! ## Roots -/

theorem mem_reachable_map {β : Type} {edges : List (String × String)} {l : List β}
    {node : β → String} {id : String} :
    id ∈ reachable edges (l.map node) ↔ ∃ b ∈ l, Reaches edges (node b) id := by
  rw [mem_reachable]
  constructor
  · rintro ⟨r, hr, hreach⟩
    obtain ⟨b, hb, rfl⟩ := List.mem_map.1 hr
    exact ⟨b, hb, hreach⟩
  · rintro ⟨b, hb, hreach⟩
    exact ⟨node b, List.mem_map.2 ⟨b, hb, rfl⟩, hreach⟩

section Roots

variable {edges : List (String × String)} {handlers : List Handler} {f g : Handler}

/-- Whether none of the handlers leads to a handler, that handler itself aside. -/
def Unled (edges : List (String × String)) (handlers : List Handler) (f : Handler) : Prop :=
  ∀ g ∈ handlers, Reaches edges g.key.nodeId f.key.nodeId → g.key = f.key

theorem not_unled_iff :
    ¬Unled edges handlers f ↔
      ∃ g ∈ handlers, g.key ≠ f.key ∧ Reaches edges g.key.nodeId f.key.nodeId := by
  simp only [Unled, Classical.not_forall, exists_prop, ne_eq, @and_comm (¬_ = _)]

/-- The search from every handler decides which ones are unled. -/
theorem unled_iff_all_reachable :
    Unled edges handlers f ↔
      ((handlers.map fun other => (other.key, reachable edges [other.key.nodeId])).all fun e =>
        e.1 = f.key || !e.2.contains f.key.nodeId) = true := by
  simp only [Unled, List.all_map, List.all_eq_true, Function.comp, Bool.or_eq_true,
    decide_eq_true_eq, Bool.not_eq_true', ← Bool.not_eq_true, SortedSet.contains_iff_mem,
    mem_reachable, List.mem_singleton, exists_eq_left]
  refine forall_congr' fun g => imp_congr_right fun _ => ?_
  rw [Classical.or_iff_not_imp_right, Classical.not_not]

/-- **A root is unled**, or no handler is and it is the first one. -/
theorem mem_rootHandlers (h : f ∈ rootHandlers edges handlers) :
    f ∈ handlers ∧
      (Unled edges handlers f ∨
        handlers.head? = some f ∧ rootHandlers edges handlers = [f] ∧
          ∀ g ∈ handlers, ¬Unled edges handlers g) := by
  rw [rootHandlers] at h ⊢
  split at h
  · next hnil =>
    have hled : ∀ g ∈ handlers, ¬Unled edges handlers g := fun g hg =>
      mt unled_iff_all_reachable.1 (List.filter_eq_nil_iff.1 hnil g hg)
    cases handlers with
    | nil => cases h
    | cons first rest =>
      obtain rfl : f = first := by simpa using h
      exact ⟨List.mem_cons_self, .inr ⟨rfl, rfl, hled⟩⟩
  · obtain ⟨hmem, hf⟩ := List.mem_filter.1 h
    exact ⟨hmem, .inl (unled_iff_all_reachable.2 hf)⟩

end Roots

/-! ## Rounds -/

/-- **The state between two rounds.** -/
structure Selection where
  /-- What the entry points chosen so far lead to. -/
  traced : SortedSet String
  pending : List Handler
  chosen : List Handler

namespace Selection

/-- The handlers that are open to choice. -/
def candidates (s : Selection) : List Handler := untracedHandlers s.traced s.pending

/-- **A round**, unless no handler is open to choice. -/
def next? (edges : List (String × String)) (s : Selection) : Option Selection :=
  if s.candidates = [] then none
  else
    let roots := rootHandlers edges s.candidates
    some
      { traced := s.traced ∪ reachable edges (roots.map (·.key.nodeId))
        pending := otherHandlers edges s.candidates
        chosen := s.chosen ++ roots }

variable {edges : List (String × String)} {s s' : Selection}

theorem next?_eq_none_iff : s.next? edges = none ↔ s.candidates = [] := by
  rw [next?]
  split <;> simp [*]

theorem next?_eq_some (h : s.next? edges = some s') :
    s.candidates ≠ [] ∧
      s'.traced = s.traced ∪ reachable edges
        ((rootHandlers edges s.candidates).map (·.key.nodeId)) ∧
      s'.pending = otherHandlers edges s.candidates ∧
      s'.chosen = s.chosen ++ rootHandlers edges s.candidates := by
  rw [next?] at h
  split at h
  · cases h
  · next hne =>
    cases h
    exact ⟨hne, rfl, rfl, rfl⟩

/-- A round leaves fewer handlers. -/
theorem length_pending_lt (h : s.next? edges = some s') : s'.pending.length < s.pending.length := by
  obtain ⟨hne, -, hpending, -⟩ := next?_eq_some h
  rw [hpending]
  exact Nat.lt_of_lt_of_le (length_otherHandlers_lt edges hne) (List.length_filter_le ..)

/-- All that is chosen in the end. -/
def outcome (edges : List (String × String)) (s : Selection) : List Handler :=
  s.chosen ++ chooseHandlers edges s.traced s.pending

theorem outcome_next? (h : s.next? edges = some s') : s'.outcome edges = s.outcome edges := by
  obtain ⟨hne, htraced, hpending, hchosen⟩ := next?_eq_some h
  rw [candidates] at hne htraced hpending hchosen
  rw [outcome, outcome, htraced, hpending, hchosen, List.append_assoc]
  conv => rhs; rw [chooseHandlers, if_neg hne]

theorem outcome_of_next?_eq_none (h : s.next? edges = none) : s.outcome edges = s.chosen := by
  rw [next?_eq_none_iff, candidates] at h
  rw [outcome, chooseHandlers, if_pos h, List.append_nil]

end Selection

/-- **What a number of rounds makes of a selection.** -/
inductive Rounds (edges : List (String × String)) (start : Selection) : Nat → Selection → Prop
  /-- No round has taken place. -/
  | zero : Rounds edges start 0 start
  /-- One more round has taken place. -/
  | succ {n : Nat} {s s' : Selection} :
      Rounds edges start n s → s.next? edges = some s' → Rounds edges start (n + 1) s'

namespace Rounds

variable {edges : List (String × String)} {start s : Selection} {n : Nat}

theorem outcome_eq (h : Rounds edges start n s) : s.outcome edges = start.outcome edges := by
  induction h with
  | zero => rfl
  | succ _ hnext ih => rw [Selection.outcome_next? hnext, ih]

/-- **The rounds end**: every one of them uses up a handler. -/
theorem add_length_le (h : Rounds edges start n s) :
    n + s.pending.length ≤ start.pending.length := by
  induction h with
  | zero => omega
  | succ _ hnext ih =>
    have := Selection.length_pending_lt hnext
    omega

/-- The rounds go on until no handler is open to choice. -/
theorem exists_last (h : Rounds edges start n s) :
    ∃ m last, Rounds edges start m last ∧ last.next? edges = none := by
  induction hlen : s.pending.length using Nat.strongRecOn generalizing n s with
  | _ len ih =>
    cases hnext : s.next? edges with
    | none => exact ⟨n, s, h, hnext⟩
    | some s' => exact ih _ (hlen ▸ Selection.length_pending_lt hnext) (h.succ hnext) rfl

end Rounds

/-! ## What holds between two rounds -/

namespace Store

/-- Whether a command origin leads to a node. -/
def FromOrigin (store : Store) (id : String) : Prop :=
  ∃ key ∈ store.origins.keys, Reaches store.edges key.nodeId id

/-- The state before the first round. -/
def firstSelection (store : Store) : Selection where
  traced := reachable store.edges (store.origins.keys.map (·.nodeId))
  pending := store.handlers
  chosen := []

end Store

namespace Selection

variable {store : Store} {s s' : Selection} {f g : Handler}

/-- **The invariant of the rounds.** What has been traced is what the entry points chosen so far
lead to, and no handler gets lost. -/
structure Sound (store : Store) (s : Selection) : Prop where
  mem_handlers : ∀ f ∈ s.chosen, f ∈ store.handlers
  mem_traced : ∀ id, id ∈ s.traced ↔
    store.FromOrigin id ∨ ∃ f ∈ s.chosen, Reaches store.edges f.key.nodeId id
  not_fromOrigin : ∀ f ∈ s.chosen, ¬store.FromOrigin f.key.nodeId
  sublist : s.pending.Sublist store.handlers
  pending_or_traced : ∀ f ∈ store.handlers, f ∈ s.pending ∨ f.key.nodeId ∈ s.traced

theorem sound_firstSelection (store : Store) : store.firstSelection.Sound store where
  mem_handlers := by
    intro f hf
    cases hf
  mem_traced := by
    intro id
    rw [Store.firstSelection, mem_reachable_map]
    simp [Store.FromOrigin]
  not_fromOrigin := by
    intro f hf
    cases hf
  sublist := .refl _
  pending_or_traced := fun f hf => .inl hf

namespace Sound

variable (h : s.Sound store)
include h

/-- What a traced node leads to has been traced. -/
theorem traced_of_reaches {a b : String} (ha : a ∈ s.traced) (hreach : Reaches store.edges a b) :
    b ∈ s.traced := by
  rw [h.mem_traced] at ha ⊢
  rcases ha with ⟨key, hkey, ha⟩ | ⟨f, hf, ha⟩
  · exact .inl ⟨key, hkey, ha.trans hreach⟩
  · exact .inr ⟨f, hf, ha.trans hreach⟩

theorem candidates_sublist : s.candidates.Sublist store.handlers :=
  List.filter_sublist.trans h.sublist

/-- **The handlers open to choice are those not traced.** -/
theorem mem_candidates : f ∈ s.candidates ↔ f ∈ store.handlers ∧ f.key.nodeId ∉ s.traced := by
  constructor
  · intro hf
    refine ⟨h.candidates_sublist.subset hf, fun htraced => ?_⟩
    have huntraced := (List.mem_filter.1 hf).2
    rw [Handler.untraced, SortedSet.contains_iff_mem.2 htraced] at huntraced
    cases huntraced
  · rintro ⟨hf, htraced⟩
    have hpending : f ∈ s.pending := (h.pending_or_traced f hf).resolve_right htraced
    -- an event leads to its handlers, so none of the events has been traced either
    have hevents : ∀ event ∈ f.events, event ∉ s.traced := fun event he hmem =>
      htraced (h.traced_of_reaches hmem (.single (Store.mem_edges_of_mem_events hf he)))
    refine List.mem_filter.2 ⟨hpending, ?_⟩
    simpa [Handler.untraced, ← Bool.not_eq_true] using ⟨htraced, hevents⟩

/-- A round keeps the invariant. -/
theorem next? (hnext : s.next? store.edges = some s') : s'.Sound store := by
  obtain ⟨-, htraced, hpending, hchosen⟩ := next?_eq_some hnext
  have hroot : ∀ f ∈ rootHandlers store.edges s.candidates, f ∈ s.candidates :=
    fun f hf => (mem_rootHandlers hf).1
  refine ⟨fun f hf => ?_, fun id => ?_, fun f hf => ?_, ?_, fun f hf => ?_⟩
  · rw [hchosen] at hf
    rcases List.mem_append.1 hf with hf | hf
    · exact h.mem_handlers f hf
    · exact h.candidates_sublist.subset (hroot f hf)
  · rw [htraced, hchosen, SortedSet.mem_union, h.mem_traced, mem_reachable_map, or_assoc]
    simp only [List.mem_append, or_and_right, exists_or]
  · rw [hchosen] at hf
    rcases List.mem_append.1 hf with hf | hf
    · exact h.not_fromOrigin f hf
    · exact fun horigin => (h.mem_candidates.1 (hroot f hf)).2 ((h.mem_traced _).2 (.inl horigin))
  · rw [hpending]
    exact List.filter_sublist.trans h.candidates_sublist
  · rw [htraced, hpending, SortedSet.mem_union]
    by_cases hold : f.key.nodeId ∈ s.traced
    · exact .inr (.inl hold)
    · have hcand : f ∈ s.candidates := h.mem_candidates.2 ⟨hf, hold⟩
      by_cases hf' : f ∈ rootHandlers store.edges s.candidates
      · exact .inr (.inr (mem_reachable_map.2 ⟨f, hf', .refl⟩))
      · exact .inl (List.mem_filter.2 ⟨hcand, by simpa using hf'⟩)

/-- When the rounds are over, every handler has been traced. -/
theorem traced_of_next?_eq_none (hlast : s.next? store.edges = none) (hf : f ∈ store.handlers) :
    f.key.nodeId ∈ s.traced := by
  refine Decidable.of_not_not fun htraced => ?_
  have hmem : f ∈ s.candidates := h.mem_candidates.2 ⟨hf, htraced⟩
  rw [next?_eq_none_iff.1 hlast] at hmem
  cases hmem

end Sound

end Selection

theorem Rounds.sound {store : Store} {n : Nat} {s : Selection}
    (h : Rounds store.edges store.firstSelection n s) : s.Sound store := by
  induction h with
  | zero => exact Selection.sound_firstSelection store
  | succ _ hnext ih => exact ih.next? hnext

/-- The handlers that are chosen as entry points. -/
def Store.chosenHandlers (store : Store) : List Handler :=
  chooseHandlers store.edges store.firstSelection.traced store.handlers

/-- **The rounds end, and what they chose by then are the handlers chosen as entry points.** -/
theorem Store.exists_last_rounds (store : Store) :
    ∃ n last, Rounds store.edges store.firstSelection n last ∧ last.next? store.edges = none ∧
      last.chosen = store.chosenHandlers := by
  obtain ⟨n, last, hrounds, hlast⟩ := Rounds.exists_last (.zero : Rounds store.edges
    store.firstSelection 0 store.firstSelection)
  refine ⟨n, last, hrounds, hlast, ?_⟩
  rw [← Selection.outcome_of_next?_eq_none hlast, hrounds.outcome_eq]
  rfl

namespace Store

variable {store : Store} {f : Handler}

theorem mem_handlers_of_mem_chosenHandlers (hf : f ∈ store.chosenHandlers) : f ∈ store.handlers := by
  obtain ⟨n, last, hrounds, -, hchosen⟩ := store.exists_last_rounds
  exact hrounds.sound.mem_handlers f (hchosen ▸ hf)

/-- No command origin leads to a chosen handler. -/
theorem not_fromOrigin_of_mem_chosenHandlers (hf : f ∈ store.chosenHandlers) :
    ¬store.FromOrigin f.key.nodeId := by
  obtain ⟨n, last, hrounds, -, hchosen⟩ := store.exists_last_rounds
  exact hrounds.sound.not_fromOrigin f (hchosen ▸ hf)

/-- **Every handler is behind a command origin or a chosen handler.** -/
theorem reaches_of_mem_handlers (hf : f ∈ store.handlers) :
    store.FromOrigin f.key.nodeId ∨
      ∃ g ∈ store.chosenHandlers, Reaches store.edges g.key.nodeId f.key.nodeId := by
  obtain ⟨n, last, hrounds, hlast, hchosen⟩ := store.exists_last_rounds
  rw [← hchosen]
  exact (hrounds.sound.mem_traced _).1 (hrounds.sound.traced_of_next?_eq_none hlast hf)

end Store

end DomainFlow
