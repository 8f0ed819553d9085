import DomainFlow.Ordered.Map

/-!
# Sets in increasing order

A `SortedSet` is a finite set whose elements are read in increasing order, each once.

## Main definitions

* `SortedSet.insert`, `SortedSet.erase`, `SortedSet.union`, `SortedSet.filter`
* `SortedSet.ofList`: the set of the elements of a list

## Main results

* `SortedSet.ext`: sets with the same elements are equal
* `SortedSet.mem_insert`, `SortedSet.mem_ofList`, `SortedSet.mem_union`: what an operation does to
  membership
-/

namespace DomainFlow

/-- **A finite set in increasing order.** -/
structure SortedSet (α : Type) [Ord α] where
  /-- The set as a map without values. -/
  toMap : SortedMap α Unit

namespace SortedSet

variable {α : Type} [Ord α]

instance [DecidableEq α] : DecidableEq (SortedSet α) := fun s t =>
  decidable_of_iff (s.toMap = t.toMap) <| by
    cases s; cases t; simp

/-- The set without elements. -/
def empty : SortedSet α := ⟨∅⟩

instance : EmptyCollection (SortedSet α) := ⟨empty⟩

instance : Inhabited (SortedSet α) := ⟨empty⟩

/-- Whether `a` is an element. -/
def contains (s : SortedSet α) (a : α) : Bool := s.toMap.contains a

instance : Membership α (SortedSet α) := ⟨fun s a => s.contains a = true⟩

instance (a : α) (s : SortedSet α) : Decidable (a ∈ s) := inferInstanceAs (Decidable (_ = true))

/-- The elements, increasing. -/
def toList (s : SortedSet α) : List α := s.toMap.keys

/-- The number of elements. -/
def size (s : SortedSet α) : Nat := s.toMap.size

/-- Whether the set has no element. -/
def isEmpty (s : SortedSet α) : Bool := s.toList.isEmpty

/-- The elements that satisfy `p`. -/
def filter (p : α → Bool) (s : SortedSet α) : SortedSet α := ⟨s.toMap.filter fun a _ => p a⟩

variable [Std.TransOrd α] [Std.LawfulEqOrd α]

/-- Adds `a`. -/
def insert (s : SortedSet α) (a : α) : SortedSet α := ⟨s.toMap.insert a ()⟩

/-- Removes `a`. -/
def erase (s : SortedSet α) (a : α) : SortedSet α := ⟨s.toMap.erase a⟩

/-- Adds every element of a list. -/
def insertAll (s : SortedSet α) (l : List α) : SortedSet α := l.foldl insert s

/-- The set of the elements of a list. -/
def ofList (l : List α) : SortedSet α := insertAll ∅ l

/-- The elements of either set. -/
def union (s t : SortedSet α) : SortedSet α := s.insertAll t.toList

instance : Union (SortedSet α) := ⟨union⟩

/-! ## Membership -/

omit [Std.TransOrd α] [Std.LawfulEqOrd α] in
theorem mem_iff_get? {s : SortedSet α} {a : α} : a ∈ s ↔ s.toMap.get? a = some () := by
  rw [show a ∈ s ↔ (s.toMap.get? a).isSome = true from Iff.rfl]
  cases s.toMap.get? a <;> simp

omit [Std.TransOrd α] [Std.LawfulEqOrd α] in
@[simp] theorem contains_iff_mem {s : SortedSet α} {a : α} : s.contains a = true ↔ a ∈ s := Iff.rfl

omit [Std.TransOrd α] [Std.LawfulEqOrd α] in
@[simp] theorem not_mem_empty (a : α) : ¬a ∈ (∅ : SortedSet α) := by
  rw [mem_iff_get?]
  nofun

/-- **Sets with the same elements are equal.** -/
theorem ext {s t : SortedSet α} (h : ∀ a, a ∈ s ↔ a ∈ t) : s = t := by
  have : s.toMap = t.toMap := SortedMap.ext_get? fun k => by
    have := h k
    rw [mem_iff_get?, mem_iff_get?] at this
    cases hs : s.toMap.get? k <;> cases ht : t.toMap.get? k <;> simp_all
  cases s; cases t; simpa using this

@[simp] theorem mem_insert {s : SortedSet α} {a b : α} : b ∈ s.insert a ↔ b = a ∨ b ∈ s := by
  classical
  rw [mem_iff_get?, mem_iff_get?, insert, SortedMap.get?_insert]
  split <;> simp_all

@[simp] theorem mem_erase {s : SortedSet α} {a b : α} : b ∈ s.erase a ↔ b ≠ a ∧ b ∈ s := by
  classical
  rw [mem_iff_get?, mem_iff_get?, erase, SortedMap.get?_erase]
  split <;> simp_all

omit [Std.TransOrd α] in
@[simp] theorem mem_filter {s : SortedSet α} {p : α → Bool} {a : α} :
    a ∈ s.filter p ↔ a ∈ s ∧ p a = true := by
  rw [mem_iff_get?, mem_iff_get?, filter, SortedMap.get?_filter]
  cases s.toMap.get? a <;> simp [Option.filter]

omit [Std.TransOrd α] in
@[simp] theorem mem_toList {s : SortedSet α} {a : α} : a ∈ s.toList ↔ a ∈ s := by
  rw [mem_iff_get?, ← SortedMap.mem_entries_iff, toList, SortedMap.keys, List.mem_map]
  exact ⟨fun ⟨⟨_, ()⟩, h, rfl⟩ => h, fun h => ⟨_, h, rfl⟩⟩

@[simp] theorem mem_insertAll {s : SortedSet α} {l : List α} {a : α} :
    a ∈ s.insertAll l ↔ a ∈ s ∨ a ∈ l := by
  induction l generalizing s with
  | nil => simp [insertAll]
  | cons x rest ih =>
    rw [insertAll, List.foldl_cons]
    rw [show List.foldl insert (s.insert x) rest = (s.insert x).insertAll rest from rfl, ih]
    simp only [mem_insert, List.mem_cons]
    exact ⟨fun h => by rcases h with (h | h) | h <;> simp [h],
      fun h => by rcases h with h | h | h <;> simp [h]⟩

@[simp] theorem mem_ofList {l : List α} {a : α} : a ∈ ofList l ↔ a ∈ l := by
  simp [ofList]

@[simp] theorem mem_union {s t : SortedSet α} {a : α} : a ∈ s ∪ t ↔ a ∈ s ∨ a ∈ t := by
  rw [show s ∪ t = s.insertAll t.toList from rfl]
  simp

omit [Std.TransOrd α] [Std.LawfulEqOrd α] in
/-- The elements increase. -/
theorem pairwise_toList (s : SortedSet α) : s.toList.Pairwise fun a b => compare a b = .lt := by
  rw [toList, SortedMap.keys, List.pairwise_map]
  exact s.toMap.increasing

omit [Std.TransOrd α] in
theorem nodup_toList (s : SortedSet α) : s.toList.Nodup :=
  s.pairwise_toList.imp SortedMap.ne_of_compare_lt

end SortedSet

end DomainFlow
