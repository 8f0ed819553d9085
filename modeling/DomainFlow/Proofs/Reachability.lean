import Mathlib.Logic.Relation
import DomainFlow.Reach

/-!
# What a search finds

One element reaches another if zero or more edges lead there. A search sees the roots and, with an
element, the targets of the edges that leave it, and nothing else; so it sees exactly what the roots
reach.

## Main definitions

* `Reaches edges a b`: zero or more edges lead from `a` to `b`

## Main results

* `Reaches.mem_of_closed`: what is closed under the edges holds all that its elements reach
* `mem_reachable`: the search sees exactly the elements that some root reaches
-/

namespace DomainFlow

variable {α : Type} {edges : List (α × α)}

/-- **Reachability**: zero or more edges lead from the first element to the second. -/
abbrev Reaches (edges : List (α × α)) : α → α → Prop :=
  Relation.ReflTransGen fun a b => (a, b) ∈ edges

/-- A set that holds the start and is closed under the edges holds all that the start reaches. -/
theorem Reaches.mem_of_closed {P : α → Prop} {a b : α} (hclosed : ∀ e ∈ edges, P e.1 → P e.2)
    (ha : P a) (h : Reaches edges a b) : P b := by
  induction h with
  | refl => exact ha
  | tail _ he ih => exact hclosed _ he ih

/-! ## The search -/

section Search

variable [DecidableEq α] [Ord α] [Std.TransOrd α] [Std.LawfulEqOrd α]

theorem mem_search_of_mem_seen {stack : List α} {seen : SortedSet α} {x : α} (h : x ∈ seen) :
    x ∈ search edges stack seen := by
  fun_induction search edges stack seen with
  | case1 => exact h
  | case2 _ _ _ _ ih => exact ih h
  | case3 _ _ _ _ ih => exact ih (by simp [h])

theorem mem_search_of_mem_stack {stack : List α} {seen : SortedSet α} {x : α} (h : x ∈ stack) :
    x ∈ search edges stack seen := by
  fun_induction search edges stack seen with
  | case1 => cases h
  | case2 seen a stack ha ih =>
    rcases List.mem_cons.1 h with rfl | h
    · exact mem_search_of_mem_seen ha
    · exact ih h
  | case3 seen a stack ha ih =>
    rcases List.mem_cons.1 h with rfl | h
    · exact mem_search_of_mem_seen (by simp)
    · exact ih (by simp [h])

/-- What was seen and is not on the stack has all its successors seen or on the stack; the result
then is closed under the edges. -/
theorem search_closed {stack : List α} {seen : SortedSet α}
    (h : ∀ e ∈ edges, e.1 ∈ seen → e.2 ∈ seen ∨ e.2 ∈ stack) :
    ∀ e ∈ edges, e.1 ∈ search edges stack seen → e.2 ∈ search edges stack seen := by
  fun_induction search edges stack seen with
  | case1 => simpa using h
  | case2 seen a stack ha ih =>
    refine ih fun e he hs => ?_
    rcases h e he hs with h | h
    · exact .inl h
    · rcases List.mem_cons.1 h with h | h
      · exact .inl (h ▸ ha)
      · exact .inr h
  | case3 seen a stack ha ih =>
    refine ih fun e he hs => ?_
    rcases SortedSet.mem_insert.1 hs with hs | hs
    · exact .inr (List.mem_append.2 (.inl (mem_successors.2 (hs ▸ he))))
    · rcases h e he hs with h | h
      · exact .inl (by simp [h])
      · rcases List.mem_cons.1 h with h | h
        · exact .inl (by simp [h])
        · exact .inr (by simp [h])

theorem reaches_of_mem_search {stack : List α} {seen : SortedSet α} {x : α}
    (h : x ∈ search edges stack seen) : x ∈ seen ∨ ∃ r ∈ stack, Reaches edges r x := by
  fun_induction search edges stack seen with
  | case1 => exact .inl h
  | case2 seen a stack ha ih =>
    rcases ih h with h | ⟨r, hr, h⟩
    · exact .inl h
    · exact .inr ⟨r, by simp [hr], h⟩
  | case3 seen a stack ha ih =>
    rcases ih h with h | ⟨r, hr, h⟩
    · rcases SortedSet.mem_insert.1 h with rfl | h
      · exact .inr ⟨_, by simp, .refl⟩
      · exact .inl h
    · rcases List.mem_append.1 hr with hr | hr
      · exact .inr ⟨_, by simp, .head (mem_successors.1 hr) h⟩
      · exact .inr ⟨r, by simp [hr], h⟩

/-- **The search sees exactly what the roots reach.** -/
theorem mem_reachable {roots : List α} {x : α} :
    x ∈ reachable edges roots ↔ ∃ r ∈ roots, Reaches edges r x := by
  constructor
  · intro h
    rcases reaches_of_mem_search h with h | h
    · simp at h
    · exact h
  · rintro ⟨r, hr, h⟩
    exact h.mem_of_closed (search_closed (by simp)) (mem_search_of_mem_stack hr)

end Search

end DomainFlow
