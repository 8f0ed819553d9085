import Mathlib.Order.Bounds.Defs
import DomainFlow.Chain
import DomainFlow.Proofs.Reachability

/-!
# What a walk visits

A walk keeps one promise while it runs: an arrow that leaves a visited node has been taken or is
still to be taken. When nothing is left to be taken, the walk has therefore taken every arrow that
leaves a node behind its start. A search without labels sees the same nodes, so the entry points are
chosen by what their chains show.

## Main definitions

* `Arrow.ends`: an arrow as a plain edge
* `Seen`: the nodes visited once certain arrows have been taken
* `Store.flowClosed`: the sets of nodes that a flow from a node does not leave

## Main results

* `mem_walkFrom`: a walk takes exactly the arrows that leave what its start reaches
* `Store.mem_nodeIds_trace`: a chain has exactly the nodes that its start reaches
* `Store.trace_reachable_agree`: walks and searches visit the least set that a flow does not leave
-/

namespace DomainFlow

/-- An arrow as a plain edge. -/
def Arrow.ends (arrow : Arrow) : String × String := (arrow.source, arrow.target)

/-! ## Walks -/

section Walk

variable {flow : List Arrow} {start : String} {arrow : Arrow}

theorem mem_leaving {id : String} : arrow ∈ leaving flow id ↔ arrow ∈ flow ∧ arrow.source = id := by
  simp [leaving]

/-- An arrow that is taken and was not to be taken leaves what some such arrow leads to. -/
theorem reaches_of_mem_walk {pending : List Arrow} {visited : SortedSet String}
    (h : arrow ∈ walk flow pending visited) :
    arrow ∈ pending ∨
      arrow ∈ flow ∧ ∃ first ∈ pending, Reaches (flow.map Arrow.ends) first.target arrow.source := by
  fun_induction walk flow pending visited with
  | case1 => exact .inl h
  | case2 next pending visited ih ihNew =>
    rcases List.mem_cons.1 h with rfl | h
    · exact .inl List.mem_cons_self
    by_cases hvisited : next.target ∈ visited
    · rw [if_pos hvisited] at h
      rcases ih h with h | ⟨hflow, first, hfirst, hreach⟩
      · exact .inl (List.mem_cons_of_mem _ h)
      · exact .inr ⟨hflow, first, List.mem_cons_of_mem _ hfirst, hreach⟩
    · rw [if_neg hvisited] at h
      rcases ihNew hvisited h with h | ⟨hflow, first, hfirst, hreach⟩
      · rcases List.mem_append.1 h with h | h
        · obtain ⟨hflow, hsource⟩ := mem_leaving.1 h
          exact .inr ⟨hflow, next, List.mem_cons_self, hsource ▸ .refl⟩
        · exact .inl (List.mem_cons_of_mem _ h)
      · rcases List.mem_append.1 hfirst with hfirst | hfirst
        · obtain ⟨hmem, hsource⟩ := mem_leaving.1 hfirst
          have hedge : (next.target, first.target) ∈ flow.map Arrow.ends :=
            List.mem_map.2 ⟨first, hmem, by rw [Arrow.ends, hsource]⟩
          exact .inr ⟨hflow, next, List.mem_cons_self, .head hedge hreach⟩
        · exact .inr ⟨hflow, first, List.mem_cons_of_mem _ hfirst, hreach⟩

/-- What is visited once the given arrows have been taken. -/
def Seen (visited : SortedSet String) (arrows : List Arrow) (id : String) : Prop :=
  id ∈ visited ∨ ∃ arrow ∈ arrows, arrow.target = id

theorem seen_cons {visited : SortedSet String} {next : Arrow} {arrows : List Arrow} {id : String} :
    Seen visited (next :: arrows) id ↔ id = next.target ∨ Seen visited arrows id := by
  simp only [Seen, List.mem_cons, or_and_right, exists_or, exists_eq_left]
  rw [eq_comm]
  exact or_left_comm

theorem seen_insert {visited : SortedSet String} {new : String} {arrows : List Arrow} {id : String} :
    Seen (visited.insert new) arrows id ↔ id = new ∨ Seen visited arrows id := by
  rw [Seen, SortedSet.mem_insert, or_assoc]
  exact Iff.rfl

/-- **The promise of a walk.** If every arrow that leaves a visited node is to be taken or was taken
before, then in the end every arrow that leaves a node visited by then has been taken. -/
theorem mem_walk_of_promise {pending : List Arrow} {visited : SortedSet String}
    {taken : Arrow → Prop}
    (h : ∀ arrow ∈ flow, arrow.source ∈ visited → arrow ∈ pending ∨ taken arrow)
    (hflow : arrow ∈ flow) (hseen : Seen visited (walk flow pending visited) arrow.source) :
    arrow ∈ walk flow pending visited ∨ taken arrow := by
  fun_induction walk flow pending visited generalizing taken with
  | case1 visited =>
    rcases hseen with hseen | ⟨before, hbefore, -⟩
    · exact h arrow hflow hseen
    · cases hbefore
  | case2 next pending visited ih ihNew =>
    have hnext : ∀ a, a ∈ next :: pending ∨ taken a → a ∈ pending ∨ (a = next ∨ taken a) := by
      rintro a (ha | ha)
      · exact (List.mem_cons.1 ha).elim (fun e => .inr (.inl e)) .inl
      · exact .inr (.inr ha)
    have hcons : ∀ arrows : List Arrow, arrow ∈ arrows ∨ (arrow = next ∨ taken arrow) →
        arrow ∈ next :: arrows ∨ taken arrow := by
      rintro arrows (ha | rfl | ha)
      · exact .inl (List.mem_cons_of_mem _ ha)
      · exact .inl List.mem_cons_self
      · exact .inr ha
    by_cases hvisited : next.target ∈ visited
    · rw [if_pos hvisited] at hseen ⊢
      apply hcons
      refine ih (fun a ha hs => hnext a (h a ha hs)) ?_
      rcases seen_cons.1 hseen with heq | hseen
      · exact .inl (heq ▸ hvisited)
      · exact hseen
    · rw [if_neg hvisited] at hseen ⊢
      have hrest : ∀ a ∈ flow, a.source ∈ visited.insert next.target →
          a ∈ leaving flow next.target ++ pending ∨ (a = next ∨ taken a) := by
        intro a ha hs
        rcases SortedSet.mem_insert.1 hs with hs | hs
        · exact .inl (List.mem_append_left _ (mem_leaving.2 ⟨ha, hs⟩))
        · exact (hnext a (h a ha hs)).imp_left (List.mem_append_right _)
      apply hcons
      exact ihNew hvisited hrest (seen_insert.2 (seen_cons.1 hseen))

/-- **A walk takes exactly the arrows that leave what its start reaches.** -/
theorem mem_walkFrom :
    arrow ∈ walkFrom flow start ↔
      arrow ∈ flow ∧ Reaches (flow.map Arrow.ends) start arrow.source := by
  constructor
  · intro h
    rcases reaches_of_mem_walk h with h | ⟨hflow, first, hfirst, hreach⟩
    · obtain ⟨hflow, hsource⟩ := mem_leaving.1 h
      exact ⟨hflow, hsource ▸ .refl⟩
    · obtain ⟨hmem, hsource⟩ := mem_leaving.1 hfirst
      have hedge : (start, first.target) ∈ flow.map Arrow.ends :=
        List.mem_map.2 ⟨first, hmem, by rw [Arrow.ends, hsource]⟩
      exact ⟨hflow, .head hedge hreach⟩
  · rintro ⟨hflow, hreach⟩
    have promise : ∀ a ∈ flow, a.source ∈ SortedSet.ofList [start] →
        a ∈ leaving flow start ∨ False := by
      intro a ha hs
      exact .inl (mem_leaving.2 ⟨ha, by simpa using hs⟩)
    have taken : ∀ a ∈ flow, Seen (.ofList [start]) (walkFrom flow start) a.source →
        a ∈ walkFrom flow start :=
      fun a ha hs => (mem_walk_of_promise promise ha hs).resolve_right id
    -- what is visited is closed under the arrows, so it holds all that the start reaches
    have hclosed : ∀ e ∈ flow.map Arrow.ends, Seen (.ofList [start]) (walkFrom flow start) e.1 →
        Seen (.ofList [start]) (walkFrom flow start) e.2 := by
      intro e he hs
      obtain ⟨a, ha, rfl⟩ := List.mem_map.1 he
      exact .inr ⟨a, taken a ha hs, rfl⟩
    have hstart : Seen (.ofList [start]) (walkFrom flow start) start := .inl (by simp)
    exact taken arrow hflow (hreach.mem_of_closed hclosed hstart)

/-- **A walk visits exactly what its start reaches.** -/
theorem mem_visits_walkFrom {id : String} :
    id ∈ visits start (walkFrom flow start) ↔ Reaches (flow.map Arrow.ends) start id := by
  rw [visits, List.mem_eraseDups, List.mem_cons]
  constructor
  · rintro (rfl | h)
    · exact .refl
    · obtain ⟨a, ha, rfl⟩ := List.mem_map.1 h
      obtain ⟨hflow, hreach⟩ := mem_walkFrom.1 ha
      exact hreach.tail (List.mem_map.2 ⟨a, hflow, rfl⟩)
  · intro h
    cases h with
    | refl => exact .inl rfl
    | tail hreach he =>
      obtain ⟨a, ha, hends⟩ := List.mem_map.1 he
      cases hends
      exact .inr (List.mem_map.2 ⟨a, mem_walkFrom.2 ⟨ha, hreach⟩, rfl⟩)

end Walk

/-! ## Chains -/

namespace Store

variable {store : Store}

theorem mem_flow {arrow : Arrow} : arrow ∈ store.flow ↔ arrow ∈ store.arrows := by
  have hlabel : arrow.label ∈ Label.all := by cases arrow.label <;> simp [Label.all]
  rw [flow, List.mem_eraseDups, List.mem_flatMap]
  constructor
  · rintro ⟨label, -, h⟩
    exact (List.mem_filter.1 h).1
  · intro h
    exact ⟨arrow.label, hlabel, List.mem_filter.2 ⟨h, by simp⟩⟩

/-- Relationships of known kinds are the edges of a graph. -/
theorem mem_edges {e : String × String} :
    e ∈ store.edges ↔
      ∃ r ∈ store.relationships, r.kind ≠ .unknown ∧ e = (store.sourceId r, store.targetId r) := by
  simp only [edges, arrows, List.mem_map, List.mem_filterMap, SortedSet.mem_toList, arrow?,
    Option.map_eq_some_iff]
  constructor
  · rintro ⟨_, ⟨r, hr, label, hlabel, rfl⟩, rfl⟩
    refine ⟨r, hr, fun h => ?_, rfl⟩
    rw [RelationshipKind.label?_eq_none_iff.2 h] at hlabel
    cases hlabel
  · rintro ⟨r, hr, hkind, rfl⟩
    obtain ⟨label, hlabel⟩ : ∃ label, r.kind.label? = some label :=
      Option.ne_none_iff_exists'.1 (mt RelationshipKind.label?_eq_none_iff.1 hkind)
    exact ⟨_, ⟨r, hr, label, hlabel, rfl⟩, rfl⟩

theorem reaches_flow_iff {a b : String} :
    Reaches (store.flow.map Arrow.ends) a b ↔ Reaches store.edges a b := by
  have hmem : ∀ e, e ∈ store.flow.map Arrow.ends ↔ e ∈ store.edges := by
    intro e
    simp only [edges, List.mem_map, mem_flow, Arrow.ends]
  simp only [Reaches, hmem]

theorem nodeId_chainNode (id : String) (place : Nat) : (store.chainNode id place).nodeId = id := by
  rw [chainNode]
  split <;> rfl

theorem nodeIds_traceAlong (flow : List Arrow) (start : String) :
    (store.traceAlong flow start).nodeIds = visits start (walkFrom flow start) := by
  have hid : (fun e : String × Nat => (store.chainNode e.1 e.2).nodeId) = Prod.fst :=
    funext fun e => nodeId_chainNode e.1 e.2
  rw [traceAlong, Chain.nodeIds, List.map_map]
  change (List.zipIdx _).map (fun e : String × Nat => (store.chainNode e.1 e.2).nodeId) = _
  rw [hid, List.zipIdx_map_fst]

/-- **A chain has exactly the nodes that its start reaches.** -/
theorem mem_nodeIds_trace {start id : String} :
    id ∈ (store.trace start).nodeIds ↔ Reaches store.edges start id := by
  rw [trace, nodeIds_traceAlong, mem_visits_walkFrom, reaches_flow_iff]

theorem mem_traceAll {chain : Chain} :
    chain ∈ store.traceAll ↔
      ∃ entry ∈ store.entryPoints, chain = { store.trace entry.nodeId with entryPoint := some entry } := by
  rw [traceAll, List.mem_map]
  exact exists_congr fun entry => and_congr_right fun _ => eq_comm

/-! ## Walks and searches -/

/-- The sets that hold a node and that no relationship of a known kind leads out of. -/
def flowClosed (store : Store) (start : String) : Set (Set String) :=
  {s | start ∈ s ∧ ∀ r ∈ store.relationships, r.kind ≠ .unknown →
    store.sourceId r ∈ s → store.targetId r ∈ s}

theorem isLeast_reaches (store : Store) (start : String) :
    IsLeast (store.flowClosed start) {id | Reaches store.edges start id} := by
  constructor
  · refine ⟨.refl, fun r hr hkind hsource => ?_⟩
    exact hsource.tail (mem_edges.2 ⟨r, hr, hkind, rfl⟩)
  · rintro s ⟨hstart, hclosed⟩ id hreach
    have hedges : ∀ e ∈ store.edges, e.1 ∈ s → e.2 ∈ s := by
      intro e he hsource
      obtain ⟨r, hr, hkind, rfl⟩ := mem_edges.1 he
      exact hclosed r hr hkind hsource
    exact hreach.mem_of_closed hedges hstart

theorem setOf_mem_nodeIds_trace (store : Store) (start : String) :
    {id | id ∈ (store.trace start).nodeIds} = {id | Reaches store.edges start id} := by
  ext id
  exact mem_nodeIds_trace

theorem mem_reachable_singleton {edges : List (String × String)} {start id : String} :
    id ∈ reachable edges [start] ↔ Reaches edges start id := by
  rw [mem_reachable]
  simp only [List.mem_singleton, exists_eq_left]

theorem setOf_mem_reachable (store : Store) (start : String) :
    {id | id ∈ reachable store.edges [start]} = {id | Reaches store.edges start id} := by
  ext id
  exact mem_reachable_singleton

/-- A search from several roots sees what the searches from the single roots see. -/
theorem reachable_eq_foldr {edges : List (String × String)} (roots : List String) :
    reachable edges roots = roots.foldr (fun root seen => reachable edges [root] ∪ seen) ∅ := by
  apply SortedSet.ext
  intro id
  induction roots with
  | nil =>
    rw [mem_reachable]
    simp
  | cons root rest ih =>
    rw [List.foldr_cons, SortedSet.mem_union, ← ih, mem_reachable_singleton, mem_reachable,
      mem_reachable]
    simp only [List.mem_cons, or_and_right, exists_or, exists_eq_left]

/-- **Walks and searches agree on what a flow visits.** The chain of a node holds exactly the nodes
that a search from it sees. Either way this is the least set that holds the node and is closed under
the relationships of known kinds, and from several roots a search sees the union of these sets. -/
theorem trace_reachable_agree (store : Store) :
    (∀ start, SortedSet.ofList (store.trace start).nodeIds = reachable store.edges [start] ∧
      IsLeast (store.flowClosed start) {id | id ∈ (store.trace start).nodeIds} ∧
      IsLeast (store.flowClosed start) {id | id ∈ reachable store.edges [start]}) ∧
    ∀ roots, reachable store.edges roots =
      roots.foldr (fun root seen => reachable store.edges [root] ∪ seen) ∅ := by
  refine ⟨fun start => ⟨?_, ?_, ?_⟩, reachable_eq_foldr⟩
  · apply SortedSet.ext
    intro id
    rw [SortedSet.mem_ofList, mem_nodeIds_trace, mem_reachable_singleton]
  · rw [setOf_mem_nodeIds_trace]
    exact store.isLeast_reaches start
  · rw [setOf_mem_reachable]
    exact store.isLeast_reaches start

end Store

end DomainFlow
