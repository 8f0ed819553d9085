import Mathlib.Data.List.Nodup
import DomainFlow.Proofs.Walk

/-!
# Depth-first exploration

A depth-first exploration follows the arrows that leave a node one after another. Behind an arrow to
a new node it explores that node completely before it goes on with the next arrow. A walk with its
list of arrows to be taken is such an exploration: what it puts in front of the list is explored
before it comes back to the rest.

## Main definitions

* `Explores`: the depth-first exploration, as a relation
* `Store.TakenBefore`: the order of the arrows that leave a node

## Main results

* `exists_explores_walkFrom`: a walk is an exploration, and it visits the expanded nodes in order
* `Explores.perm`: an exploration takes the arrows that leave each expanded node once
* `exists_first_arrow`: the first arrow to a node leaves a node visited before
* `Store.pairwise_flow`: arrows are taken by label, then by their first relationship
-/

namespace DomainFlow

/-! ## First occurrences -/

section EraseDups

variable {α β : Type} [DecidableEq α]

theorem nodup_eraseDups (l : List α) : l.eraseDups.Nodup := by
  induction hlen : l.length using Nat.strongRecOn generalizing l with
  | _ n ih =>
    cases l with
    | nil => exact List.nodup_nil
    | cons a rest =>
      rw [List.eraseDups_cons, List.nodup_cons, List.mem_eraseDups]
      refine ⟨by simp, ih _ ?_ _ rfl⟩
      have := List.length_filter_le (fun b => !b == a) rest
      rw [List.length_cons] at hlen
      omega

theorem eraseDups_of_nodup {l : List α} (h : l.Nodup) : l.eraseDups = l := by
  induction l with
  | nil => rfl
  | cons a rest ih =>
    obtain ⟨ha, hrest⟩ := List.nodup_cons.1 h
    have hkeep : rest.filter (fun b => !b == a) = rest := by
      refine List.filter_eq_self.2 fun b hb => ?_
      have hne : b ≠ a := fun heq => ha (heq ▸ hb)
      simpa using hne
    rw [List.eraseDups_cons, hkeep, ih hrest]

theorem eraseDups_append_left (l l' : List α) :
    (l.eraseDups ++ l').eraseDups = (l ++ l').eraseDups := by
  have hremove : l'.removeAll l.eraseDups = l'.removeAll l := by
    refine List.filter_congr fun a _ => ?_
    rw [List.elem_eq_contains, List.elem_eq_contains, Bool.eq_iff_iff]
    simp
  rw [List.eraseDups_append, List.eraseDups_append, hremove,
    eraseDups_of_nodup (nodup_eraseDups l)]

theorem removeAll_eq_self {l removed : List α} (h : ∀ a ∈ l, a ∉ removed) :
    l.removeAll removed = l := by
  refine List.filter_eq_self.2 fun a ha => ?_
  simpa using h a ha

theorem eraseDups_flatMap {f : β → List α} {l : List β}
    (h : l.Pairwise fun x y => ∀ a ∈ f y, a ∉ f x) :
    (l.flatMap f).eraseDups = l.flatMap fun x => (f x).eraseDups := by
  induction l with
  | nil => rfl
  | cons x rest ih =>
    obtain ⟨hx, hrest⟩ := List.pairwise_cons.1 h
    have hdisjoint : ∀ a ∈ rest.flatMap f, a ∉ f x := by
      intro a ha
      obtain ⟨y, hy, ha⟩ := List.mem_flatMap.1 ha
      exact hx y hy a ha
    rw [List.flatMap_cons, List.eraseDups_append, removeAll_eq_self hdisjoint, ih hrest,
      List.flatMap_cons]

/-- Whether an item with the image `a` precedes all items with the image `b`. -/
def ImageBefore (R : β → β → Prop) (f : β → Option α) (items : List β) (a b : α) : Prop :=
  ∃ x ∈ items, f x = some a ∧ ∀ y ∈ items, f y = some b → R x y

section ImageBefore

variable {R : β → β → Prop} {f : β → Option α} {items : List β} {a b : α}

omit [DecidableEq α] in
theorem ImageBefore.cons {x : β} (hx : f x ≠ some b) (h : ImageBefore R f items a b) :
    ImageBefore R f (x :: items) a b := by
  obtain ⟨first, hfirst, ha, hbefore⟩ := h
  refine ⟨first, List.mem_cons_of_mem _ hfirst, ha, fun y hy hb => ?_⟩
  rcases List.mem_cons.1 hy with rfl | hy
  · exact absurd hb hx
  · exact hbefore y hy hb

theorem ImageBefore.of_filter_ne {image : α} (hne : b ≠ image)
    (h : ImageBefore R f (items.filter fun y => f y ≠ some image) a b) : ImageBefore R f items a b := by
  obtain ⟨first, hfirst, ha, hbefore⟩ := h
  refine ⟨first, (List.mem_filter.1 hfirst).1, ha, fun y hy hb => ?_⟩
  exact hbefore y (List.mem_filter.2 ⟨hy, by simpa [hb] using hne⟩) hb

/-- The other images are those of the items with other images. -/
theorem filter_filterMap_ne (f : β → Option α) (items : List β) (image : α) :
    (items.filterMap f).filter (fun b => !b == image) =
      (items.filter fun y => f y ≠ some image).filterMap f := by
  rw [List.filter_filterMap, List.filterMap_filter]
  refine List.filterMap_congr fun y _ => ?_
  cases hy : f y with
  | none => simp
  | some b => by_cases hb : b = image <;> simp [Option.filter, hb]

/-- **Images in the order of their first sources.** Of two images of an increasing list, the one that
is kept first has a source that precedes all sources of the other. -/
theorem pairwise_eraseDups_filterMap (h : items.Pairwise R) :
    (items.filterMap f).eraseDups.Pairwise (ImageBefore R f items) := by
  induction hlen : items.length using Nat.strongRecOn generalizing items with
  | _ n ih =>
    cases items with
    | nil => exact .nil
    | cons x rest =>
      rw [List.length_cons] at hlen
      obtain ⟨hx, hrest⟩ := List.pairwise_cons.1 h
      cases hf : f x with
      | none =>
        rw [List.filterMap_cons_none hf]
        exact (ih rest.length (by omega) hrest rfl).imp fun h => h.cons (by simp [hf])
      | some image =>
        have hlen' := List.length_filter_le (fun y => f y ≠ some image) rest
        have hne : ∀ b ∈ ((rest.filterMap f).filter fun b => !b == image).eraseDups, b ≠ image := by
          intro b hb
          simpa using (List.mem_filter.1 (List.mem_eraseDups.1 hb)).2
        rw [List.filterMap_cons_some hf, List.eraseDups_cons, List.pairwise_cons]
        constructor
        · intro b hb
          refine ⟨x, List.mem_cons_self, hf, fun y hy hyb => ?_⟩
          rcases List.mem_cons.1 hy with rfl | hy
          · exact absurd (Option.some.inj (hyb.symm.trans hf)) (hne b hb)
          · exact hx y hy
        · rw [filter_filterMap_ne] at hne ⊢
          refine (ih _ (by omega) (hrest.filter _) rfl).imp_of_mem fun _ hb h => ?_
          refine (h.of_filter_ne (hne _ hb)).cons fun heq => hne _ hb ?_
          exact Option.some.inj (heq.symm.trans hf)

end ImageBefore

end EraseDups

/-! ## Explorations -/

/-- **Depth-first exploration.** With the nodes `known`, following the arrows `pending` in order takes
the arrows `taken` and expands the nodes `expanded`, both in order. `out` are the arrows that leave a
node. -/
inductive Explores (out : String → List Arrow) :
    List String → List Arrow → List Arrow → List String → Prop
  /-- Nothing is left to follow. -/
  | done (known : List String) : Explores out known [] [] []
  /-- An arrow to a known node is taken, but leads no further. -/
  | known {known : List String} {arrow : Arrow} {pending taken : List Arrow}
      {expanded : List String} :
      arrow.target ∈ known → Explores out known pending taken expanded →
      Explores out known (arrow :: pending) (arrow :: taken) expanded
  /-- Behind an arrow to a new node, that node is expanded before the next arrow is followed. -/
  | new {known : List String} {arrow : Arrow} {pending inner taken : List Arrow}
      {within expanded : List String} :
      arrow.target ∉ known →
      Explores out (known ++ [arrow.target]) (out arrow.target) inner within →
      Explores out (known ++ arrow.target :: within) pending taken expanded →
      Explores out known (arrow :: pending) (arrow :: (inner ++ taken))
        (arrow.target :: (within ++ expanded))

namespace Explores

variable {out : String → List Arrow} {known expanded : List String} {pending rest taken : List Arrow}

/-- Arrows are followed one list after the other. -/
theorem of_append (h : Explores out known (pending ++ rest) taken expanded) :
    ∃ taken₁ expanded₁ taken₂ expanded₂, Explores out known pending taken₁ expanded₁ ∧
      Explores out (known ++ expanded₁) rest taken₂ expanded₂ ∧
      taken = taken₁ ++ taken₂ ∧ expanded = expanded₁ ++ expanded₂ := by
  induction pending generalizing known taken expanded with
  | nil => exact ⟨[], [], taken, expanded, .done known, by simpa using h, rfl, rfl⟩
  | cons arrow pending ih =>
    cases h with
    | known hknown h =>
      obtain ⟨taken₁, expanded₁, taken₂, expanded₂, h₁, h₂, rfl, rfl⟩ := ih h
      exact ⟨_, _, _, _, .known hknown h₁, h₂, rfl, rfl⟩
    | @new _ _ _ inner _ within _ hnew hinner h =>
      obtain ⟨taken₁, expanded₁, taken₂, expanded₂, h₁, h₂, rfl, rfl⟩ := ih h
      refine ⟨_, _, taken₂, expanded₂, .new hnew hinner h₁, ?_, ?_, ?_⟩
      · simpa using h₂
      · simp
      · simp

/-- **Every expansion takes the arrows that leave its node, once.** -/
theorem perm (h : Explores out known pending taken expanded) :
    taken.Perm (pending ++ expanded.flatMap out) := by
  induction h with
  | done => exact .refl _
  | known _ _ ih => exact ih.cons _
  | @new known arrow pending inner taken within expanded _ _ _ ihInner ih =>
    refine .cons arrow ?_
    have hrest : (out arrow.target ++ within.flatMap out ++ (pending ++ expanded.flatMap out)).Perm
        (pending ++ (out arrow.target ++ within.flatMap out ++ expanded.flatMap out)) :=
      List.perm_append_comm_assoc _ _ _
    rw [List.flatMap_cons, List.flatMap_append, ← List.append_assoc (out arrow.target)]
    exact (ihInner.append ih).trans hrest

/-- **The expanded nodes are the new targets, in the order in which they are first met.** -/
theorem eraseDups_targets (h : Explores out known pending taken expanded) (hknown : known.Nodup) :
    (known ++ taken.map (·.target)).eraseDups = known ++ expanded := by
  induction h with
  | done known => simpa using eraseDups_of_nodup hknown
  | @known known arrow _ taken expanded hmem _ ih =>
    have hremove : (arrow.target :: taken.map (·.target)).removeAll known =
        (taken.map (·.target)).removeAll known := by
      rw [List.cons_removeAll, if_neg (by simpa using hmem)]
    rw [List.map_cons, List.eraseDups_append, hremove, ← List.eraseDups_append]
    exact ih hknown
  | @new known arrow _ inner taken within expanded hnew _ _ ihInner ih =>
    have hinner := ihInner (List.nodup_append.2
      ⟨hknown, List.nodup_singleton _, fun a ha b hb heq => hnew (by simp_all)⟩)
    have hwithin : (known ++ arrow.target :: within).Nodup := by
      rw [← List.singleton_append, ← List.append_assoc, ← hinner]
      exact nodup_eraseDups _
    calc (known ++ (arrow :: (inner ++ taken)).map (·.target)).eraseDups
        = (known ++ [arrow.target] ++ inner.map (·.target) ++ taken.map (·.target)).eraseDups := by
          simp
      _ = (known ++ [arrow.target] ++ within ++ taken.map (·.target)).eraseDups := by
          rw [← eraseDups_append_left, hinner]
      _ = (known ++ arrow.target :: within ++ taken.map (·.target)).eraseDups := by simp
      _ = known ++ arrow.target :: (within ++ expanded) := by rw [ih hwithin]; simp

end Explores

/-! ## Walks -/

section Walk

variable {flow : List Arrow} {start : String}

/-- **A walk is a depth-first exploration.** -/
theorem exists_explores_walk (flow pending : List Arrow) (visited : SortedSet String)
    {known : List String} (hknown : ∀ id, id ∈ known ↔ id ∈ visited) :
    ∃ expanded, Explores (leaving flow) known pending (walk flow pending visited) expanded := by
  fun_induction walk flow pending visited generalizing known with
  | case1 => exact ⟨[], .done known⟩
  | case2 next pending visited ih ihNew =>
    by_cases hvisited : next.target ∈ visited
    · rw [if_pos hvisited]
      obtain ⟨expanded, h⟩ := ih hknown
      exact ⟨expanded, .known ((hknown _).2 hvisited) h⟩
    · rw [if_neg hvisited]
      have hknown' : ∀ id, id ∈ known ++ [next.target] ↔ id ∈ visited.insert next.target := by
        intro id
        rw [List.mem_append, List.mem_singleton, SortedSet.mem_insert, hknown, or_comm]
      obtain ⟨expanded, h⟩ := ihNew hvisited hknown'
      -- the arrows that leave the new node come first, and the rest is followed after them
      obtain ⟨inner, within, taken, expanded, hinner, hrest, htaken, -⟩ := h.of_append
      rw [htaken]
      have hrest' : Explores (leaving flow) (known ++ next.target :: within) pending taken expanded := by
        rwa [List.append_assoc, List.singleton_append] at hrest
      exact ⟨_, .new (mt (hknown _).1 hvisited) hinner hrest'⟩

/-- **A walk from a node explores all that leaves the node**, and it visits the node and the nodes
that the exploration expands, in their order. -/
theorem exists_explores_walkFrom (flow : List Arrow) (start : String) :
    ∃ expanded, Explores (leaving flow) [start] (leaving flow start) (walkFrom flow start) expanded ∧
      visits start (walkFrom flow start) = start :: expanded := by
  have hknown : ∀ id, id ∈ [start] ↔ id ∈ SortedSet.ofList [start] :=
    fun _ => SortedSet.mem_ofList.symm
  obtain ⟨expanded, h⟩ := exists_explores_walk flow (leaving flow start) (.ofList [start]) hknown
  exact ⟨expanded, h, h.eraseDups_targets (List.nodup_singleton start)⟩

theorem nodup_visits (start : String) (arrows : List Arrow) : (visits start arrows).Nodup :=
  nodup_eraseDups _

/-- A walk takes the arrows that leave each visited node once. -/
theorem walkFrom_perm (flow : List Arrow) (start : String) :
    (walkFrom flow start).Perm ((visits start (walkFrom flow start)).flatMap (leaving flow)) := by
  obtain ⟨expanded, h, hvisits⟩ := exists_explores_walkFrom flow start
  rw [hvisits, List.flatMap_cons]
  exact h.perm

theorem nodup_walkFrom (hflow : flow.Nodup) (start : String) : (walkFrom flow start).Nodup := by
  rw [(walkFrom_perm flow start).nodup_iff, List.nodup_flatMap]
  refine ⟨fun id _ => hflow.filter _, (nodup_visits start _).imp fun hne arrow ha hb => hne ?_⟩
  exact (mem_leaving.1 ha).2.symm.trans (mem_leaving.1 hb).2

/-- An arrow is taken after its source has been visited. -/
theorem seen_source_of_walk {pending before after : List Arrow} {visited : SortedSet String}
    {arrow : Arrow} (hpending : ∀ a ∈ pending, a.source ∈ visited)
    (h : walk flow pending visited = before ++ arrow :: after) : Seen visited before arrow.source := by
  fun_induction walk flow pending visited generalizing before with
  | case1 => simp at h
  | case2 next pending visited ih ihNew =>
    cases before with
    | nil =>
      obtain rfl : next = arrow := (List.cons.inj h).1
      exact .inl (hpending _ List.mem_cons_self)
    | cons first before =>
      obtain ⟨hfirst, hrest⟩ := List.cons.inj h
      subst hfirst
      rw [seen_cons]
      by_cases hvisited : next.target ∈ visited
      · rw [if_pos hvisited] at hrest
        exact .inr (ih (fun a ha => hpending a (List.mem_cons_of_mem _ ha)) hrest)
      · rw [if_neg hvisited] at hrest
        rw [← seen_insert]
        refine ihNew hvisited (fun a ha => ?_) hrest
        rcases List.mem_append.1 ha with ha | ha
        · rw [(mem_leaving.1 ha).2]
          exact SortedSet.mem_insert.2 (.inl rfl)
        · exact SortedSet.mem_insert.2 (.inr (hpending a (List.mem_cons_of_mem _ ha)))

/-- **The first arrow to a node leaves a node visited before.** -/
theorem exists_first_arrow {id : String} (hid : id ∈ visits start (walkFrom flow start))
    (hne : id ≠ start) :
    ∃ arrow, (walkFrom flow start).find? (·.target = id) = some arrow ∧ arrow.target = id ∧
      (visits start (walkFrom flow start)).idxOf arrow.source <
        (visits start (walkFrom flow start)).idxOf id := by
  obtain ⟨arrow, hfind⟩ : ∃ arrow, (walkFrom flow start).find? (·.target = id) = some arrow := by
    rw [← Option.isSome_iff_exists, List.find?_isSome]
    rw [visits, List.mem_eraseDups, List.mem_cons] at hid
    obtain ⟨arrow, harrow, htarget⟩ := List.mem_map.1 (hid.resolve_left hne)
    exact ⟨arrow, harrow, by simpa using htarget⟩
  obtain ⟨htarget, before, after, hsplit, hbefore⟩ := List.find?_eq_some_iff_append.1 hfind
  refine ⟨arrow, hfind, of_decide_eq_true htarget, ?_⟩
  have hsource : arrow.source ∈ (start :: before.map (·.target)).eraseDups := by
    rcases seen_source_of_walk (fun a ha => by simp [(mem_leaving.1 ha).2]) hsplit with h | h
    · rw [List.mem_eraseDups, show arrow.source = start by simpa using h]
      exact List.mem_cons_self
    · obtain ⟨a, ha, heq⟩ := h
      exact List.mem_eraseDups.2 (List.mem_cons_of_mem _ (List.mem_map.2 ⟨a, ha, heq⟩))
  have hnew : id ∉ (start :: before.map (·.target)).eraseDups := by
    rw [List.mem_eraseDups, List.mem_cons, List.mem_map]
    rintro (h | ⟨a, ha, h⟩)
    · exact hne h
    · exact absurd h (by simpa using hbefore a ha)
  rw [visits, hsplit, List.map_append, ← List.cons_append, List.eraseDups_append,
    List.idxOf_append_of_mem hsource, List.idxOf_append_of_notMem hnew]
  have := List.idxOf_lt_length_iff.2 hsource
  omega

end Walk

/-! ## The order of arrows -/

/-- The place of a label in the order of the labels. -/
def Label.rank (label : Label) : Nat := label.ctorIdx

namespace Store

variable {store : Store}

/-- **The order in which arrows are taken**: by label, and among arrows of one label by the first
relationships that they stand for. -/
def TakenBefore (store : Store) (a b : Arrow) : Prop :=
  a.label.rank < b.label.rank ∨ a.label = b.label ∧
    ∃ r ∈ store.relationships, store.arrow? r = some a ∧
      ∀ r' ∈ store.relationships, store.arrow? r' = some b → compare r r' = .lt

/-- The arrows of each label are in order, and the labels follow one another. -/
theorem pairwise_flow (store : Store) : store.flow.Pairwise store.TakenBefore := by
  have hlabel : ∀ {label : Label} {a : Arrow},
      a ∈ (store.arrows.filter (·.label = label)).eraseDups → a.label = label := by
    intro label a ha
    exact of_decide_eq_true (List.mem_filter.1 (List.mem_eraseDups.1 ha)).2
  have hflow : store.flow =
      Label.all.flatMap fun label => (store.arrows.filter (·.label = label)).eraseDups := by
    refine eraseDups_flatMap ((show Label.all.Nodup by decide).imp fun hne a hb ha => hne ?_)
    rw [← hlabel (List.mem_eraseDups.2 ha), ← hlabel (List.mem_eraseDups.2 hb)]
  rw [hflow, List.pairwise_flatMap]
  constructor
  · intro label _
    have hfilter : store.arrows.filter (·.label = label) = store.relationships.toList.filterMap
        fun r => (store.arrow? r).filter (·.label = label) := List.filter_filterMap
    rw [hfilter]
    refine (pairwise_eraseDups_filterMap store.relationships.pairwise_toList).imp_of_mem ?_
    rintro a b ha hb ⟨r, hr, hra, hfirst⟩
    rw [← hfilter] at ha hb
    refine .inr ⟨(hlabel ha).trans (hlabel hb).symm, r, SortedSet.mem_toList.1 hr,
      (Option.filter_eq_some_iff.1 hra).1, fun r' hr' hrb => ?_⟩
    exact hfirst r' (SortedSet.mem_toList.2 hr') (by simp [hrb, Option.filter, hlabel hb])
  · have hranks : Label.all.Pairwise fun a b => a.rank < b.rank := by decide
    refine hranks.imp fun hlt a ha b hb => .inl ?_
    rwa [hlabel ha, hlabel hb]

theorem nodup_flow (store : Store) : store.flow.Nodup := nodup_eraseDups _

end Store

end DomainFlow
