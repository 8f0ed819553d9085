import DomainFlow.Ordered.Set

/-!
# Reachability

Which elements a list of directed edges leads to from given roots. The search keeps a stack of
elements still to visit and the set of those seen; every element is expanded once, so the edges
that leave unseen elements, together with the stack, bound what is left to do.

## Main definitions

* `successors`: the targets of the edges that leave an element
* `reachable edges roots`: the elements that a search from `roots` sees
-/

namespace DomainFlow

variable {α : Type} [DecidableEq α]

/-- The targets of the edges that leave `a`, in the order of the edges. -/
def successors (edges : List (α × α)) (a : α) : List α :=
  (edges.filter fun e => e.1 = a).map (·.2)

@[simp] theorem mem_successors {edges : List (α × α)} {a b : α} :
    b ∈ successors edges a ↔ (a, b) ∈ edges := by
  simp only [successors, List.mem_map, List.mem_filter, decide_eq_true_eq]
  exact ⟨fun ⟨⟨_, _⟩, ⟨h, rfl⟩, rfl⟩ => h, fun h => ⟨_, ⟨h, rfl⟩, rfl⟩⟩

variable [Ord α] [Std.TransOrd α]

/-- Seeing an element takes exactly the items that belong to it off the items that belong to
unseen elements. -/
theorem length_filter_insert [Std.LawfulEqOrd α] {ε : Type} (f : ε → α) (items : List ε)
    {seen : SortedSet α} {a : α} (h : a ∉ seen) :
    (items.filter fun e => f e = a).length +
        (items.filter fun e => !(seen.insert a).contains (f e)).length =
      (items.filter fun e => !seen.contains (f e)).length := by
  have ha : seen.contains a = false := by
    rw [← Bool.not_eq_true]
    exact h
  induction items with
  | nil => rfl
  | cons e rest ih =>
    have hins : (seen.insert a).contains (f e) = (decide (f e = a) || seen.contains (f e)) := by
      rw [Bool.eq_iff_iff]
      simp
    rw [List.filter_cons, List.filter_cons, List.filter_cons, hins]
    by_cases he : f e = a
    · simp only [he, ha, decide_true, Bool.true_or, Bool.not_true, Bool.not_false, if_true,
        Bool.false_eq_true, if_false, List.length_cons]
      omega
    · by_cases hs : seen.contains (f e)
      · simpa [he, hs] using ih
      · simp only [he, hs, decide_false, Bool.false_or, Bool.not_false, if_true,
          Bool.false_eq_true, if_false, List.length_cons]
        omega

/-- The elements seen once the stack is empty: an unseen element at the top is seen, and its
successors take its place. -/
def search [Std.LawfulEqOrd α] (edges : List (α × α)) : List α → SortedSet α → SortedSet α
  | [], seen => seen
  | a :: stack, seen =>
    if a ∈ seen then search edges stack seen
    else search edges (successors edges a ++ stack) (seen.insert a)
termination_by stack seen =>
  (edges.filter fun e => !seen.contains e.1).length + stack.length
decreasing_by
  · simp
  · next h =>
    -- the successors added to the stack are edges that no longer count as leaving unseen elements
    have := length_filter_insert Prod.fst edges h
    simp only [List.length_append, List.length_cons, successors, List.length_map]
    omega

variable [Std.LawfulEqOrd α]

/-- **The elements that a search from `roots` sees.** -/
def reachable (edges : List (α × α)) (roots : List α) : SortedSet α := search edges roots ∅

end DomainFlow
