/-!
# Maps in key order

A `SortedMap` is a finite map kept as the list of its entries, keys strictly increasing. Since
the list is determined by the entries, maps that answer every look-up alike are equal, and the
order in which the entries are read never depends on the order in which they were written.

## Main definitions

* `SortedMap.get?`: the value at a key
* `SortedMap.alter`: the one operation that writes; `insert`, `insertNew` and `erase` are its cases
* `SortedMap.ofFirst`: the map of an entry list in which the first entry of a key counts

## Main results

* `SortedMap.ext_get?`: maps that agree on every key are equal
* `SortedMap.get?_alter`: writing at a key changes that key only
* `SortedMap.get?_ofFirst`: the first entry of a key counts
-/

namespace DomainFlow

/-- **A finite map in key order.** -/
structure SortedMap (κ β : Type) [Ord κ] where
  /-- The entries, in key order. -/
  entries : List (κ × β)
  /-- No key occurs twice, and the keys increase. -/
  increasing : entries.Pairwise fun a b => compare a.1 b.1 = .lt

namespace SortedMap

variable {κ β γ : Type} [Ord κ]

instance [DecidableEq κ] [DecidableEq β] : DecidableEq (SortedMap κ β) := fun m n =>
  decidable_of_iff (m.entries = n.entries) <| by
    cases m; cases n; simp

/-- The map without entries. -/
def empty : SortedMap κ β := ⟨[], .nil⟩

instance : EmptyCollection (SortedMap κ β) := ⟨empty⟩

instance : Inhabited (SortedMap κ β) := ⟨empty⟩

/-- The value of the first entry at `k`. -/
def lookup (k : κ) : List (κ × β) → Option β
  | [] => none
  | (k', v) :: rest => if compare k k' = .eq then some v else lookup k rest

/-- The value at `k`, if the map has one. -/
def get? (m : SortedMap κ β) (k : κ) : Option β := lookup k m.entries

/-- Whether the map has a value at `k`. -/
def contains (m : SortedMap κ β) (k : κ) : Bool := (m.get? k).isSome

/-- The keys, increasing. -/
def keys (m : SortedMap κ β) : List κ := m.entries.map (·.1)

/-- The values, in the order of their keys. -/
def values (m : SortedMap κ β) : List β := m.entries.map (·.2)

/-- The number of entries. -/
def size (m : SortedMap κ β) : Nat := m.entries.length

/-- The entry list in which the value at `k` is what `f` makes of the present one. -/
def alterEntries (k : κ) (f : Option β → Option β) : List (κ × β) → List (κ × β)
  | [] => ((f none).map (k, ·)).toList
  | (k', v') :: rest =>
    match compare k k' with
    | .lt => ((f none).map (k, ·)).toList ++ (k', v') :: rest
    | .eq => ((f (some v')).map (k', ·)).toList ++ rest
    | .gt => (k', v') :: alterEntries k f rest

/-- The entries with every value replaced by its image. -/
def map (f : β → γ) (m : SortedMap κ β) : SortedMap κ γ where
  entries := m.entries.map fun e => (e.1, f e.2)
  increasing := m.increasing.map _ fun _ _ h => h

/-- The entries that satisfy `p`. -/
def filter (p : κ → β → Bool) (m : SortedMap κ β) : SortedMap κ β where
  entries := m.entries.filter fun e => p e.1 e.2
  increasing := m.increasing.filter _

section Ordered

variable [Std.TransOrd κ] [Std.LawfulEqOrd κ]

omit [Std.TransOrd κ] in
theorem ne_of_compare_lt {a b : κ} (h : compare a b = .lt) : a ≠ b := by
  rintro rfl
  rw [Std.compare_self] at h
  cases h

omit [Std.TransOrd κ] [Std.LawfulEqOrd κ] in
theorem forall_mem_alterEntries {k : κ} {f : Option β → Option β} {l : List (κ × β)} {P : κ → Prop}
    (hk : P k) (hl : ∀ e ∈ l, P e.1) : ∀ e ∈ alterEntries k f l, P e.1 := by
  induction l with
  | nil =>
    intro e he
    simp only [alterEntries, Option.mem_toList, Option.map_eq_some_iff] at he
    obtain ⟨_, _, rfl⟩ := he
    exact hk
  | cons x rest ih =>
    intro e he
    obtain ⟨k', v'⟩ := x
    have hx : P k' := hl (k', v') (by simp)
    have hrest : ∀ e ∈ rest, P e.1 := fun e h => hl e (by simp [h])
    rw [alterEntries] at he
    -- the entry comes in front, in place of the head, or somewhere in the rest
    split at he
    · rcases List.mem_append.1 he with he | he
      · simp only [Option.mem_toList, Option.map_eq_some_iff] at he
        obtain ⟨_, _, rfl⟩ := he
        exact hk
      · exact hl e he
    · rcases List.mem_append.1 he with he | he
      · simp only [Option.mem_toList, Option.map_eq_some_iff] at he
        obtain ⟨_, _, rfl⟩ := he
        exact hx
      · exact hrest e he
    · rcases List.mem_cons.1 he with rfl | he
      · exact hx
      · exact ih hrest e he

omit [Std.LawfulEqOrd κ] in
theorem pairwise_alterEntries (k : κ) (f : Option β → Option β) {l : List (κ × β)}
    (h : l.Pairwise fun a b => compare a.1 b.1 = .lt) :
    (alterEntries k f l).Pairwise fun a b => compare a.1 b.1 = .lt := by
  induction l with
  | nil => cases hf : f none <;> simp [alterEntries, hf]
  | cons x rest ih =>
    obtain ⟨k', v'⟩ := x
    have hhead : ∀ e ∈ rest, compare k' e.1 = .lt := fun e he => List.rel_of_pairwise_cons h he
    have htail := h.of_cons
    rw [alterEntries]
    split
    · next hlt =>
      cases hf : f none with
      | none => simpa using h
      | some v =>
        refine List.Pairwise.cons (fun e he => ?_) h
        rcases List.mem_cons.1 he with rfl | he
        · exact hlt
        · exact Std.TransCmp.lt_trans hlt (hhead e he)
    · cases hf : f (some v') with
      | none => simpa using htail
      | some v => exact List.Pairwise.cons (hhead) htail
    · next hgt =>
      refine List.Pairwise.cons ?_ (ih htail)
      exact forall_mem_alterEntries (P := fun x => compare k' x = .lt)
        (Std.OrientedCmp.lt_of_gt hgt) hhead

/-- **Writing**: the value at `k` becomes what `f` makes of the present one. -/
def alter (m : SortedMap κ β) (k : κ) (f : Option β → Option β) : SortedMap κ β where
  entries := alterEntries k f m.entries
  increasing := pairwise_alterEntries k f m.increasing

/-- Puts `v` at `k`. -/
def insert (m : SortedMap κ β) (k : κ) (v : β) : SortedMap κ β := m.alter k fun _ => some v

/-- Puts `v` at `k` unless the map has a value there. -/
def insertNew (m : SortedMap κ β) (k : κ) (v : β) : SortedMap κ β :=
  m.alter k fun o => some (o.getD v)

/-- Removes the entry at `k`. -/
def erase (m : SortedMap κ β) (k : κ) : SortedMap κ β := m.alter k fun _ => none

/-- The map of an entry list; the first entry of a key counts. -/
def ofFirst (l : List (κ × β)) : SortedMap κ β := l.foldl (fun m e => m.insertNew e.1 e.2) ∅

/-- The entries of `m`, and those of `n` whose keys `m` lacks. -/
def orElse (m n : SortedMap κ β) : SortedMap κ β :=
  n.entries.foldl (fun m e => m.insertNew e.1 e.2) m

/-- The values of every key of an entry list, in the order of the list. -/
def ofGroups (l : List (κ × β)) : SortedMap κ (List β) :=
  l.foldl (fun m e => m.alter e.1 fun group => some (group.getD [] ++ [e.2])) ∅

/-- The map of an entry list; the last entry of a key counts. -/
def ofLast (l : List (κ × β)) : SortedMap κ β := l.foldl (fun m e => m.insert e.1 e.2) ∅

/-! ## Look-up -/

omit [Std.TransOrd κ] in
theorem lookup_cons_self (k : κ) (v : β) (l : List (κ × β)) : lookup k ((k, v) :: l) = some v := by
  simp [lookup, Std.ReflCmp.compare_self]

omit [Std.TransOrd κ] in
theorem lookup_cons_ne {k k' : κ} (h : k ≠ k') (v : β) (l : List (κ × β)) :
    lookup k ((k', v) :: l) = lookup k l := by
  simp [lookup, h]

omit [Std.TransOrd κ] in
theorem lookup_eq_none {k : κ} {l : List (κ × β)} (h : ∀ e ∈ l, e.1 ≠ k) : lookup k l = none := by
  induction l with
  | nil => rfl
  | cons x rest ih =>
    rw [lookup_cons_ne (h x (by simp)).symm]
    exact ih fun e he => h e (by simp [he])

omit [Std.TransOrd κ] in
theorem lookup_of_forall_lt {k : κ} {l : List (κ × β)} (h : ∀ e ∈ l, compare k e.1 = .lt) :
    lookup k l = none :=
  lookup_eq_none fun e he => (ne_of_compare_lt (h e he)).symm

theorem lookup_alterEntries (k : κ) (f : Option β → Option β) {l : List (κ × β)}
    (h : l.Pairwise fun a b => compare a.1 b.1 = .lt) (x : κ) [DecidableEq κ] :
    lookup x (alterEntries k f l) = if x = k then f (lookup k l) else lookup x l := by
  induction l with
  | nil =>
    cases hf : f none with
    | none => simp [alterEntries, hf, lookup]
    | some v => by_cases hx : x = k <;> simp [alterEntries, hf, lookup, hx]
  | cons e rest ih =>
    obtain ⟨k', v'⟩ := e
    have hhead : ∀ e ∈ rest, compare k' e.1 = .lt := fun e he => List.rel_of_pairwise_cons h he
    have ih := ih h.of_cons
    rw [alterEntries]
    split
    · next hlt =>
      have hne : k ≠ k' := ne_of_compare_lt hlt
      have hk : lookup k ((k', v') :: rest) = none := by
        rw [lookup_cons_ne hne]
        exact lookup_of_forall_lt fun e he => Std.TransCmp.lt_trans hlt (hhead e he)
      rw [hk]
      cases hf : f none with
      | none =>
        by_cases hx : x = k
        · subst hx; simp [hk]
        · simp [hx]
      | some v =>
        by_cases hx : x = k
        · subst hx; simp [lookup_cons_self]
        · simp [hx, lookup_cons_ne]
    · next heq =>
      obtain rfl : k = k' := Std.LawfulEqOrd.eq_of_compare heq
      have hrest : lookup k rest = none := lookup_of_forall_lt hhead
      rw [lookup_cons_self]
      cases hf : f (some v') with
      | none =>
        by_cases hx : x = k
        · subst hx; simp [hrest]
        · simp [hx, lookup_cons_ne]
      | some v =>
        by_cases hx : x = k
        · subst hx; simp [lookup_cons_self]
        · simp [hx, lookup_cons_ne]
    · next hgt =>
      have hne : k ≠ k' := (ne_of_compare_lt (Std.OrientedCmp.lt_of_gt hgt)).symm
      by_cases hx' : x = k'
      · subst hx'
        rw [lookup_cons_self, lookup_cons_self, if_neg hne.symm]
      · rw [lookup_cons_ne hx', lookup_cons_ne hx', lookup_cons_ne hne, ih]

variable [DecidableEq κ]

omit [Std.TransOrd κ] [Std.LawfulEqOrd κ] [DecidableEq κ] in
@[simp] theorem get?_empty (k : κ) : (∅ : SortedMap κ β).get? k = none := rfl

/-- **Writing at a key changes that key only.** -/
theorem get?_alter (m : SortedMap κ β) (k : κ) (f : Option β → Option β) (x : κ) :
    (m.alter k f).get? x = if x = k then f (m.get? k) else m.get? x :=
  lookup_alterEntries k f m.increasing x

@[simp] theorem get?_insert (m : SortedMap κ β) (k : κ) (v : β) (x : κ) :
    (m.insert k v).get? x = if x = k then some v else m.get? x :=
  get?_alter m k _ x

@[simp] theorem get?_insertNew (m : SortedMap κ β) (k : κ) (v : β) (x : κ) :
    (m.insertNew k v).get? x = if x = k then some ((m.get? k).getD v) else m.get? x :=
  get?_alter m k _ x

@[simp] theorem get?_erase (m : SortedMap κ β) (k x : κ) :
    (m.erase k).get? x = if x = k then none else m.get? x :=
  get?_alter m k _ x

omit [Std.TransOrd κ] [DecidableEq κ] in
theorem mem_of_lookup {k : κ} {v : β} {l : List (κ × β)} (h : lookup k l = some v) :
    (k, v) ∈ l := by
  induction l with
  | nil => cases h
  | cons e rest ih =>
    obtain ⟨k', v'⟩ := e
    by_cases hk : k = k'
    · subst hk
      rw [lookup_cons_self] at h
      cases h
      simp
    · rw [lookup_cons_ne hk] at h
      simp [ih h]

omit [Std.TransOrd κ] [DecidableEq κ] in
theorem lookup_of_mem {k : κ} {v : β} {l : List (κ × β)}
    (hl : l.Pairwise fun a b => compare a.1 b.1 = .lt) (h : (k, v) ∈ l) : lookup k l = some v := by
  induction l with
  | nil => cases h
  | cons e rest ih =>
    obtain ⟨k', v'⟩ := e
    rcases List.mem_cons.1 h with h | h
    · cases h
      exact lookup_cons_self ..
    · have hlt := List.rel_of_pairwise_cons hl h
      rw [lookup_cons_ne (ne_of_compare_lt hlt).symm]
      exact ih hl.of_cons h

omit [Std.TransOrd κ] [DecidableEq κ] in
/-- The entries are the look-ups that succeed. -/
theorem mem_entries_iff {m : SortedMap κ β} {k : κ} {v : β} :
    (k, v) ∈ m.entries ↔ m.get? k = some v :=
  ⟨lookup_of_mem m.increasing, mem_of_lookup⟩

omit [DecidableEq κ] in
theorem entries_eq_of_lookup_eq {l l' : List (κ × β)}
    (hl : l.Pairwise fun a b => compare a.1 b.1 = .lt)
    (hl' : l'.Pairwise fun a b => compare a.1 b.1 = .lt)
    (h : ∀ k, lookup k l = lookup k l') : l = l' := by
  induction l generalizing l' with
  | nil =>
    cases l' with
    | nil => rfl
    | cons e rest =>
      have := h e.1
      rw [show e = (e.1, e.2) from rfl, lookup_cons_self] at this
      cases this
  | cons e rest ih =>
    obtain ⟨k, v⟩ := e
    cases l' with
    | nil =>
      have := h k
      rw [lookup_cons_self] at this
      cases this
    | cons e' rest' =>
      obtain ⟨k', v'⟩ := e'
      -- the lesser of two different heads would be a key of one list only
      have hk : k = k' := by
        cases hc : compare k k' with
        | eq => exact Std.LawfulEqOrd.eq_of_compare hc
        | lt =>
          have h1 := h k
          rw [lookup_cons_self, lookup_cons_ne (ne_of_compare_lt hc), lookup_of_forall_lt] at h1
          · cases h1
          · exact fun e he => Std.TransCmp.lt_trans hc (List.rel_of_pairwise_cons hl' he)
        | gt =>
          have h1 := h k'
          have hlt : compare k' k = .lt := Std.OrientedCmp.lt_of_gt hc
          rw [lookup_cons_self, lookup_cons_ne (ne_of_compare_lt hlt), lookup_of_forall_lt] at h1
          · cases h1
          · exact fun e he => Std.TransCmp.lt_trans hlt (List.rel_of_pairwise_cons hl he)
      subst hk
      have hv := h k
      rw [lookup_cons_self, lookup_cons_self] at hv
      cases hv
      congr 1
      refine ih hl.of_cons hl'.of_cons fun x => ?_
      by_cases hx : x = k
      · subst hx
        rw [lookup_of_forall_lt fun e he => List.rel_of_pairwise_cons hl he,
          lookup_of_forall_lt fun e he => List.rel_of_pairwise_cons hl' he]
      · have := h x
        rwa [lookup_cons_ne hx, lookup_cons_ne hx] at this

omit [DecidableEq κ] in
/-- **Maps that agree on every key are equal.** -/
theorem ext_get? {m n : SortedMap κ β} (h : ∀ k, m.get? k = n.get? k) : m = n := by
  have : m.entries = n.entries := entries_eq_of_lookup_eq m.increasing n.increasing h
  cases m; cases n; simpa using this

omit [Std.TransOrd κ] [Std.LawfulEqOrd κ] [DecidableEq κ] in
theorem lookup_append (k : κ) (l l' : List (κ × β)) :
    lookup k (l ++ l') = (lookup k l).or (lookup k l') := by
  induction l with
  | nil => simp [lookup]
  | cons e rest ih =>
    simp only [List.cons_append, lookup, ih]
    split <;> simp

theorem get?_foldl_insertNew (l : List (κ × β)) (m : SortedMap κ β) (k : κ) :
    (l.foldl (fun m e => m.insertNew e.1 e.2) m).get? k = (m.get? k).or (lookup k l) := by
  induction l generalizing m with
  | nil => simp [lookup]
  | cons e rest ih =>
    rw [List.foldl_cons, ih, get?_insertNew]
    by_cases hk : k = e.1
    · subst hk
      cases hm : m.get? e.1 <;> simp [lookup]
    · simp [hk, lookup]

/-- **The first entry of a key counts.** -/
@[simp] theorem get?_ofFirst (l : List (κ × β)) (k : κ) : (ofFirst l).get? k = lookup k l := by
  simp [ofFirst, get?_foldl_insertNew]

@[simp] theorem get?_orElse (m n : SortedMap κ β) (k : κ) :
    (m.orElse n).get? k = (m.get? k).or (n.get? k) := get?_foldl_insertNew ..

omit [Std.TransOrd κ] [Std.LawfulEqOrd κ] [DecidableEq κ] in
@[simp] theorem get?_map (f : β → γ) (m : SortedMap κ β) (k : κ) :
    (m.map f).get? k = (m.get? k).map f := by
  obtain ⟨l, h⟩ := m
  simp only [map, get?]
  clear h
  induction l with
  | nil => rfl
  | cons e rest ih =>
    simp only [List.map_cons, lookup, ih]
    split <;> simp

omit [Std.TransOrd κ] [DecidableEq κ] in
@[simp] theorem get?_filter (p : κ → β → Bool) (m : SortedMap κ β) (k : κ) :
    (m.filter p).get? k = (m.get? k).filter (p k) := by
  obtain ⟨l, h⟩ := m
  simp only [filter, get?]
  induction l with
  | nil => rfl
  | cons e rest ih =>
    obtain ⟨k', v'⟩ := e
    have ih := ih h.of_cons
    by_cases hk : k = k'
    · subst hk
      have hrest : lookup k rest = none :=
        lookup_of_forall_lt fun e he => List.rel_of_pairwise_cons h he
      by_cases hp : p k v'
      · simp [hp, lookup_cons_self, Option.filter]
      · simp [hp, lookup_cons_self, ih, hrest, Option.filter]
    · by_cases hp : p k' v' <;> simp [hp, lookup_cons_ne hk, ih]

end Ordered

end SortedMap

end DomainFlow
