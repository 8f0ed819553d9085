import DomainFlow.Proofs.EntryPoints

/-!
# Redundant entry points

A round chooses handlers that no other open one leads to, and otherwise the first open one. The
latter need not be part of a cycle: it may merely lie behind one. Then it is chosen although a
handler that leads to it is chosen later, and the chain of the later one contains it.

## Main definitions

* `Store.Misplaced`: a handler that is chosen instead of those that lead to it

## Main results

* `Rounds.exists_reaches_chosen_iff`: a chosen handler leads to another one exactly if some handler
  is misplaced
* `Store.entryPoints_irredundant_iff`: no entry point leads to a handler among the others exactly if
  no handler is misplaced
-/

namespace DomainFlow

/-! ## Misplaced handlers -/

/-- **A handler that is chosen instead of those that lead to it.** It is the first of the handlers
that lead to it, and each of these is led to by another one, so it is taken as the first one open to
choice. It does not lead back to all of them. -/
structure Store.Misplaced (store : Store) (f : Handler) : Prop where
  not_fromOrigin : ¬store.FromOrigin f.key.nodeId
  led : ∀ g ∈ store.handlers, Reaches store.edges g.key.nodeId f.key.nodeId →
    ¬Unled store.edges store.handlers g
  first : ∀ g ∈ store.handlers, Reaches store.edges g.key.nodeId f.key.nodeId →
    compare f.key g.key ≠ .gt
  behind : ∃ g ∈ store.handlers, Reaches store.edges g.key.nodeId f.key.nodeId ∧
    ¬Reaches store.edges f.key.nodeId g.key.nodeId

namespace Selection

variable {store : Store} {s s' : Selection} {f g : Handler}

namespace Sound

/-- The first handler open to choice precedes the others. -/
theorem compare_of_head? (h : s.Sound store) (hhead : s.candidates.head? = some f)
    (hg : g ∈ s.candidates) : g = f ∨ compare f.key g.key = .lt := by
  have hsorted := store.pairwise_handlers.sublist h.candidates_sublist
  obtain ⟨rest, hrest⟩ := List.head?_eq_some_iff.1 hhead
  rw [hrest] at hg hsorted
  exact (List.mem_cons.1 hg).imp_right (List.rel_of_pairwise_cons hsorted)

/-- A handler is chosen before one that leads to it, and that it does not lead to, only where it is
misplaced. -/
theorem misplaced_of_mem_rootHandlers (h : s.Sound store)
    (hf : f ∈ rootHandlers store.edges s.candidates) (hg : g ∈ s.candidates)
    (hreach : Reaches store.edges g.key.nodeId f.key.nodeId)
    (hback : ¬Reaches store.edges f.key.nodeId g.key.nodeId) : store.Misplaced f := by
  obtain ⟨hmem, hroot | ⟨hhead, -, hled⟩⟩ := mem_rootHandlers hf
  · have heq : g.key = f.key := hroot g hg hreach
    exact absurd (heq ▸ .refl) hback
  · obtain ⟨-, hopen⟩ := h.mem_candidates.1 hmem
    have hcand : ∀ x ∈ store.handlers, Reaches store.edges x.key.nodeId f.key.nodeId →
        x ∈ s.candidates := fun x hx hxf =>
      h.mem_candidates.2 ⟨hx, fun htraced => hopen (h.traced_of_reaches htraced hxf)⟩
    refine ⟨fun horigin => hopen ((h.mem_traced _).2 (.inl horigin)), fun x hx hxf => ?_,
      fun x hx hxf => ?_, g, (h.mem_candidates.1 hg).1, hreach, hback⟩
    · exact fun hunled => hled x (hcand x hx hxf) fun y hy => hunled y (h.mem_candidates.1 hy).1
    · rcases h.compare_of_head? hhead (hcand x hx hxf) with rfl | hlt
      · simp [Std.ReflCmp.compare_self]
      · simp [hlt]

/-- A round traces a misplaced handler only by choosing it. -/
theorem mem_chosen_of_misplaced (h : s.Sound store) (hnext : s.next? store.edges = some s')
    (hf : f ∈ store.handlers) (hmis : store.Misplaced f)
    (hchosen : f.key.nodeId ∈ s.traced → f ∈ s.chosen) (htraced : f.key.nodeId ∈ s'.traced) :
    f ∈ s'.chosen := by
  obtain ⟨-, htraced', -, hchosen'⟩ := next?_eq_some hnext
  rw [hchosen']
  by_cases hold : f.key.nodeId ∈ s.traced
  · exact List.mem_append_left _ (hchosen hold)
  · rw [htraced', SortedSet.mem_union, mem_reachable_map] at htraced
    obtain ⟨root, hroot, hreach⟩ := htraced.resolve_left hold
    have hcand : f ∈ s.candidates := h.mem_candidates.2 ⟨hf, hold⟩
    obtain ⟨hmem, honly | ⟨hhead, -, -⟩⟩ := mem_rootHandlers hroot
    · obtain ⟨x, hx, hne, hxroot⟩ :=
        not_unled_iff.1 (hmis.led root (h.mem_candidates.1 hmem).1 hreach)
      have hx' : x ∈ s.candidates := h.mem_candidates.2 ⟨hx, fun htraced =>
        hold (h.traced_of_reaches htraced (hxroot.trans hreach))⟩
      exact absurd (honly x hx' hxroot) hne
    · rcases h.compare_of_head? hhead hcand with rfl | hlt
      · exact List.mem_append_right _ hroot
      · have hgt := hmis.first root (h.mem_candidates.1 hmem).1 hreach
        rw [Std.OrientedCmp.gt_iff_lt.2 hlt] at hgt
        exact absurd rfl hgt

end Sound

/-- Chosen handlers that others lead to are misplaced, be these others chosen or still open to
choice. -/
structure Explained (store : Store) (s : Selection) : Prop where
  of_open : ∀ f ∈ s.chosen, ∀ g ∈ s.candidates,
    Reaches store.edges g.key.nodeId f.key.nodeId → store.Misplaced f
  of_chosen : ∀ f ∈ s.chosen, ∀ g ∈ s.chosen, g.key.nodeId ≠ f.key.nodeId →
    Reaches store.edges g.key.nodeId f.key.nodeId → store.Misplaced f

theorem Explained.next? (he : s.Explained store) (h : s.Sound store)
    (hnext : s.next? store.edges = some s') : s'.Explained store := by
  have h' := h.next? hnext
  obtain ⟨-, htraced, -, hchosen⟩ := next?_eq_some hnext
  -- what is open to choice after the round was so before, and no root leads to it
  have hopen : ∀ g ∈ s'.candidates, g ∈ s.candidates ∧
      ∀ f ∈ rootHandlers store.edges s.candidates,
        ¬Reaches store.edges f.key.nodeId g.key.nodeId := by
    intro g hg
    obtain ⟨hmem, hg⟩ := h'.mem_candidates.1 hg
    rw [htraced, SortedSet.mem_union, mem_reachable_map] at hg
    exact ⟨h.mem_candidates.2 ⟨hmem, fun hold => hg (.inl hold)⟩,
      fun f hf hfg => hg (.inr ⟨f, hf, hfg⟩)⟩
  have hroots : ∀ f ∈ rootHandlers store.edges s.candidates, f.key.nodeId ∉ s.traced :=
    fun f hf => (h.mem_candidates.1 (mem_rootHandlers hf).1).2
  constructor
  · intro f hf g hg hreach
    rw [hchosen] at hf
    obtain ⟨hg, hback⟩ := hopen g hg
    rcases List.mem_append.1 hf with hf | hf
    · exact he.of_open f hf g hg hreach
    · exact h.misplaced_of_mem_rootHandlers hf hg hreach (hback f hf)
  · intro f hf g hg hne hreach
    rw [hchosen] at hf hg
    rcases List.mem_append.1 hf with hf | hf <;> rcases List.mem_append.1 hg with hg | hg
    · exact he.of_chosen f hf g hg hne hreach
    · exact he.of_open f hf g (mem_rootHandlers hg).1 hreach
    · have hg' : g.key.nodeId ∈ s.traced := (h.mem_traced _).2 (.inr ⟨g, hg, .refl⟩)
      exact absurd (h.traced_of_reaches hg' hreach) (hroots f hf)
    · obtain ⟨-, honly | ⟨-, hsingle, -⟩⟩ := mem_rootHandlers hf
      · rw [honly g (mem_rootHandlers hg).1 hreach] at hne
        exact absurd rfl hne
      · rw [hsingle, List.mem_singleton] at hg
        exact absurd (hg ▸ rfl) hne

end Selection

section Run

variable {store : Store} {n : Nat} {s : Selection}

theorem Rounds.explained (h : Rounds store.edges store.firstSelection n s) : s.Explained store := by
  induction h with
  | zero => exact ⟨fun f hf => absurd hf List.not_mem_nil, fun f hf => absurd hf List.not_mem_nil⟩
  | succ hrounds hnext ih => exact ih.next? hrounds.sound hnext

theorem Rounds.mem_chosen_of_misplaced (h : Rounds store.edges store.firstSelection n s) {f : Handler}
    (hf : f ∈ store.handlers) (hmis : store.Misplaced f) (htraced : f.key.nodeId ∈ s.traced) :
    f ∈ s.chosen := by
  induction h with
  | zero =>
    have hfirst := ((Selection.sound_firstSelection store).mem_traced _).1 htraced
    rcases hfirst with horigin | ⟨g, hg, -⟩
    · exact absurd horigin hmis.not_fromOrigin
    · cases hg
  | succ hrounds hnext ih => exact hrounds.sound.mem_chosen_of_misplaced hnext hf hmis ih htraced

/-- **Where chosen handlers are redundant.** Once the rounds are over, a chosen handler leads to
another one exactly if some handler is misplaced. -/
theorem Rounds.exists_reaches_chosen_iff (h : Rounds store.edges store.firstSelection n s)
    (hlast : s.next? store.edges = none) :
    (∃ g ∈ s.chosen, ∃ f ∈ s.chosen, g.key.nodeId ≠ f.key.nodeId ∧
        Reaches store.edges g.key.nodeId f.key.nodeId) ↔
      ∃ f ∈ store.handlers, store.Misplaced f := by
  constructor
  · rintro ⟨g, hg, f, hf, hne, hreach⟩
    exact ⟨f, h.sound.mem_handlers f hf, h.explained.of_chosen f hf g hg hne hreach⟩
  · rintro ⟨f, hf, hmis⟩
    obtain ⟨g, hg, hreach, hback⟩ := hmis.behind
    have hchosen : f ∈ s.chosen :=
      h.mem_chosen_of_misplaced hf hmis (h.sound.traced_of_next?_eq_none hlast hf)
    -- whatever traced `g` leads to `f` too, and is not `f` itself
    have htraced := h.sound.traced_of_next?_eq_none hlast hg
    rcases (h.sound.mem_traced _).1 htraced with ⟨key, hkey, horigin⟩ | ⟨x, hx, hxg⟩
    · exact absurd ⟨key, hkey, horigin.trans hreach⟩ hmis.not_fromOrigin
    · exact ⟨x, hx, f, hchosen, fun heq => hback (heq ▸ hxg), hxg.trans hreach⟩

end Run

/-! ## Entry points -/

namespace Store

variable {store : Store}

theorem exists_chosen_of_mem_entryPoints {entry : EntryPoint} (h : entry ∈ store.entryPoints)
    (hkind : entry.kind ≠ .commandOrigin) :
    ∃ f ∈ store.chosenHandlers, f.key = ⟨entry.kind, entry.nodeId⟩ := by
  refine (contains_foundEntries.1 (contains_foundEntries_of_mem h)).resolve_left fun hkey => hkind ?_
  obtain ⟨r, -, -, -, -, heq⟩ := mem_keys_origins.1 hkey
  exact (EntryKey.mk.inj heq).1

/-- A chosen handler is an entry point as a handler, because no command origin leads to it. -/
theorem exists_handler_entry {f : Handler} (hf : f ∈ store.chosenHandlers) :
    ∃ entry ∈ store.entryPoints, entry.nodeId = f.key.nodeId ∧ entry.kind ≠ .commandOrigin := by
  obtain ⟨entry, hentry, hid, -⟩ :=
    exists_mem_entryPoints (contains_foundEntries.2 (.inr ⟨f, hf, rfl⟩))
  refine ⟨entry, hentry, hid, fun hkind => ?_⟩
  rcases contains_foundEntries.1 (contains_foundEntries_of_mem hentry) with hkey | ⟨g, hg, hkey⟩
  · exact not_fromOrigin_of_mem_chosenHandlers hf ⟨_, hkey, hid ▸ .refl⟩
  · have hne := kind_ne_of_mem_handlers (mem_handlers_of_mem_chosenHandlers hg)
    rw [hkey] at hne
    exact hne hkind

/-- Handlers are redundant as entry points exactly if they are as chosen handlers. -/
theorem exists_reaches_entryPoints_iff :
    (∃ g ∈ store.entryPoints, ∃ h ∈ store.entryPoints, g.nodeId ≠ h.nodeId ∧
        h.kind ≠ .commandOrigin ∧ Reaches store.edges g.nodeId h.nodeId) ↔
      ∃ g ∈ store.chosenHandlers, ∃ f ∈ store.chosenHandlers, g.key.nodeId ≠ f.key.nodeId ∧
        Reaches store.edges g.key.nodeId f.key.nodeId := by
  constructor
  · rintro ⟨g, hg, h, hh, hne, hkind, hreach⟩
    obtain ⟨f, hf, hkey⟩ := exists_chosen_of_mem_entryPoints hh hkind
    have hid : f.key.nodeId = h.nodeId := by rw [hkey]
    rw [← hid] at hne hreach
    rcases contains_foundEntries.1 (contains_foundEntries_of_mem hg) with horigin | ⟨x, hx, hxkey⟩
    · exact absurd ⟨_, horigin, hreach⟩ (not_fromOrigin_of_mem_chosenHandlers hf)
    · have hxid : x.key.nodeId = g.nodeId := by rw [hxkey]
      exact ⟨x, hx, f, hf, hxid ▸ hne, hxid ▸ hreach⟩
  · rintro ⟨g, hg, f, hf, hne, hreach⟩
    obtain ⟨entry, hentry, hid, -⟩ := exists_handler_entry hg
    obtain ⟨handler, hhandler, hid', hkind⟩ := exists_handler_entry hf
    rw [← hid, ← hid'] at hne hreach
    exact ⟨entry, hentry, handler, hhandler, hne, hkind, hreach⟩

/-- **Where entry points are redundant.** No entry point leads to a handler among the others exactly
if no handler is misplaced. -/
theorem entryPoints_irredundant_iff (store : Store) :
    (∀ g ∈ store.entryPoints, ∀ h ∈ store.entryPoints, g.nodeId ≠ h.nodeId →
        h.kind = .domainEventHandler ∨ h.kind = .integrationEventHandler →
        ¬Reaches store.edges g.nodeId h.nodeId) ↔
      ∀ f ∈ store.handlers, ¬store.Misplaced f := by
  obtain ⟨n, last, hrounds, hlast, hchosen⟩ := store.exists_last_rounds
  have hmisplaced := @exists_reaches_entryPoints_iff store
  rw [← hchosen, hrounds.exists_reaches_chosen_iff hlast] at hmisplaced
  constructor
  · intro hnone f hf hmis
    obtain ⟨g, hg, h, hh, hne, hkind, hreach⟩ := hmisplaced.2 ⟨f, hf, hmis⟩
    refine hnone g hg h hh hne ?_ hreach
    cases hcase : h.kind with
    | commandOrigin => exact absurd hcase hkind
    | domainEventHandler => exact .inl rfl
    | integrationEventHandler => exact .inr rfl
  · intro hnone g hg h hh hne hkind hreach
    have hkind' : h.kind ≠ .commandOrigin := by
      rcases hkind with hkind | hkind <;> rw [hkind] <;> exact nofun
    obtain ⟨f, hf, hmis⟩ := hmisplaced.1 ⟨g, hg, h, hh, hne, hkind', hreach⟩
    exact hnone f hf hmis

/-- Two handlers that answer a ping with a ping, and one that announces the score behind them. -/
def echoStore : Store where
  nodes := nodeMap
    [⟨"Announcer", "Announcer", .domainEventHandler⟩, ⟨"Echo", "Echo", .domainEventHandler⟩,
      ⟨"Ping", "Ping", .command⟩, ⟨"Pinged", "Pinged", .domainEvent⟩,
      ⟨"Relay", "Relay", .domainEventHandler⟩, ⟨"Scored", "Scored", .domainEvent⟩,
      ⟨"Table", "Table", .aggregate⟩, ⟨"Table.Ping", "Ping", .aggregateMethod⟩]
  relationships := .ofList
    [⟨⟨"Echo", "Handle"⟩, ⟨"Ping", ""⟩, .handlerToCommand⟩,
      ⟨⟨"Relay", "Handle"⟩, ⟨"Ping", ""⟩, .handlerToCommand⟩,
      ⟨⟨"Ping", ""⟩, ⟨"Table", "Ping"⟩, .commandToAggregateMethod⟩,
      ⟨⟨"Table", "Ping"⟩, ⟨"Pinged", ""⟩, .methodToDomainEvent⟩,
      ⟨⟨"Table", "Ping"⟩, ⟨"Scored", ""⟩, .methodToDomainEvent⟩,
      ⟨⟨"Pinged", ""⟩, ⟨"Echo", ""⟩, .domainEventToHandler⟩,
      ⟨⟨"Pinged", ""⟩, ⟨"Relay", ""⟩, .domainEventToHandler⟩,
      ⟨⟨"Scored", ""⟩, ⟨"Announcer", ""⟩, .domainEventToHandler⟩]
  ownership := ∅
  mergedBatches := ∅
  derived := ∅

/-- The handler behind the cycle is first by id, so it is chosen before a handler of the cycle, whose
chain contains it. -/
theorem entryPoints_echoStore :
    echoStore.entryPoints =
        [⟨"Announcer", .domainEventHandler, "Handles untraced Scored"⟩,
          ⟨"Echo", .domainEventHandler, "Handles untraced Pinged"⟩] ∧
      ¬∀ g ∈ echoStore.entryPoints, ∀ h ∈ echoStore.entryPoints, g.nodeId ≠ h.nodeId →
        h.kind = .domainEventHandler ∨ h.kind = .integrationEventHandler →
        ¬Reaches echoStore.edges g.nodeId h.nodeId := by
  have hentries : echoStore.entryPoints =
      [⟨"Announcer", .domainEventHandler, "Handles untraced Scored"⟩,
        ⟨"Echo", .domainEventHandler, "Handles untraced Pinged"⟩] := by decide +kernel
  have hsearch : "Announcer" ∈ reachable echoStore.edges ["Echo"] := by decide +kernel
  have hreach : Reaches echoStore.edges "Echo" "Announcer" := by simpa using mem_reachable.1 hsearch
  refine ⟨hentries, fun h => ?_⟩
  rw [hentries] at h
  exact h _ (.tail _ (.head _)) _ (.head _) (by decide) (.inl rfl) hreach

end Store

end DomainFlow
