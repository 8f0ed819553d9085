import DomainFlow.Ordered.Set

/-!
# Folds and groups

A fold whose steps may be swapped, and whose repeated steps change nothing, depends on the elements
of its list alone. This is what makes it irrelevant in which order and how often facts arrive.

## Main results

* `foldl_eq_of_mem_iff`: such folds agree on lists with the same elements
* `least_right_comm`, `least_idem`: keeping the least of several values is a fold of this kind
* `leastOf_eq_some_iff`: such a fold finds the least value
* `eq_of_increasing`: strictly increasing lists are determined by their elements
* `SortedMap.get?_ofFirst_keyed`: the map of values that bear their keys
* `SortedMap.mem_entries_ofGroups`: the groups of an entry list
-/

namespace DomainFlow

/-! ## Folds over the elements of a list -/

section Fold

variable {α β : Type} {f : β → α → β}

/-- A step of an element that has been folded already changes nothing. -/
theorem foldl_absorb (hcomm : ∀ b x y, f (f b x) y = f (f b y) x)
    (hidem : ∀ b x, f (f b x) x = f b x) {l : List α} {a : α} (ha : a ∈ l) (b : β) :
    f (l.foldl f b) a = l.foldl f b := by
  -- move the folded `a` to the front and the new one to the end, where the two steps meet
  obtain ⟨s, t, rfl⟩ := List.append_of_mem ha
  have front : (s ++ a :: t).foldl f b = (s ++ t).foldl f (f b a) :=
    List.perm_middle.foldl_eq' (fun x _ y _ z => hcomm z x y) b
  have again : (s ++ t ++ [a]).foldl f (f b a) = (s ++ t).foldl f (f (f b a) a) :=
    (List.perm_append_singleton a (s ++ t)).foldl_eq' (fun x _ y _ z => hcomm z x y) (f b a)
  rw [front]
  rw [List.foldl_append, hidem] at again
  exact again

theorem foldl_append_of_subset (hcomm : ∀ b x y, f (f b x) y = f (f b y) x)
    (hidem : ∀ b x, f (f b x) x = f b x) {l l' : List α} (h : ∀ a ∈ l', a ∈ l) (b : β) :
    (l ++ l').foldl f b = l.foldl f b := by
  rw [List.foldl_append]
  induction l' with
  | nil => rfl
  | cons a rest ih =>
    rw [List.foldl_cons, foldl_absorb hcomm hidem (h a (by simp))]
    exact ih fun x hx => h x (by simp [hx])

/-- **Folds over the same elements agree**, whatever the order and the repetitions. -/
theorem foldl_eq_of_mem_iff (hcomm : ∀ b x y, f (f b x) y = f (f b y) x)
    (hidem : ∀ b x, f (f b x) x = f b x) {l l' : List α} (h : ∀ a, a ∈ l ↔ a ∈ l') (b : β) :
    l.foldl f b = l'.foldl f b :=
  calc l.foldl f b
      = (l ++ l').foldl f b := (foldl_append_of_subset hcomm hidem (fun a => (h a).2) b).symm
    _ = (l' ++ l).foldl f b :=
        List.perm_append_comm.foldl_eq' (fun x _ y _ z => hcomm z x y) b
    _ = l'.foldl f b := foldl_append_of_subset hcomm hidem (fun a => (h a).1) b

end Fold

/-! ## The least of several values -/

section Least

variable {α : Type} {precedes : α → α → Bool}

/-- Of the value present, if any, and a new one, the new one only if it precedes the other. -/
def least (precedes : α → α → Bool) (present : Option α) (a : α) : α :=
  match present with
  | some old => if precedes a old then a else old
  | none => a

/-- Two values are taken into account in any order, provided that neither preceding the other means
that they are equal. -/
theorem least_right_comm
    (htrans : ∀ a b c, precedes a b = true → precedes b c = true → precedes a c = true)
    (hasymm : ∀ a b, precedes a b = true → precedes b a = false) {x y : α}
    (hconn : precedes x y = false → precedes y x = false → x = y) (present : Option α) :
    least precedes (some (least precedes present x)) y =
      least precedes (some (least precedes present y)) x := by
  have pair : (if precedes y x then y else x) = if precedes x y then x else y := by
    cases hxy : precedes x y with
    | true => simp [hasymm x y hxy]
    | false =>
      cases hyx : precedes y x with
      | true => simp
      | false => simp [hconn hxy hyx]
  cases present with
  | none => exact pair
  | some old =>
    by_cases hx : precedes x old = true <;> by_cases hy : precedes y old = true
    · simpa [least, hx, hy] using pair
    · have hyx : ¬precedes y x = true := fun h => hy (htrans y x old h hx)
      simp [least, hx, hy, hyx]
    · have hxy : ¬precedes x y = true := fun h => hx (htrans x y old h hy)
      simp [least, hx, hy, hxy]
    · simp [least, hx, hy]

/-- Taking a value into account twice is taking it into account once. -/
theorem least_idem (hasymm : ∀ a b, precedes a b = true → precedes b a = false)
    (present : Option α) (x : α) :
    least precedes (some (least precedes present x)) x = least precedes present x := by
  have hirrefl : precedes x x = false := Bool.eq_false_iff.2 fun h => by simp [hasymm x x h] at h
  cases present with
  | none => simp [least, hirrefl]
  | some old => cases h : precedes x old <;> simp [least, h, hirrefl]

/-- **Whether a value is the least of those with a property**: it has the property, and none of the
others precedes it. -/
structure IsLeastOf (precedes : α → α → Bool) (p : α → Prop) (a : α) : Prop where
  holds : p a
  not_precedes : ∀ b, p b → precedes b a = false

/-- The least of the value present, if any, and of the values of a list, taken into account one after
the other. -/
def leastOf (precedes : α → α → Bool) (present : Option α) (l : List α) : Option α :=
  l.foldl (fun present a => some (least precedes present a)) present

variable {present : Option α} {l : List α} {v : α}

theorem exists_leastOf_some (a : α) (l : List α) : ∃ b, leastOf precedes (some a) l = some b := by
  induction l generalizing a with
  | nil => exact ⟨a, rfl⟩
  | cons x rest ih => exact ih (least precedes (some a) x)

/-- There is a least value as soon as there is any. -/
theorem leastOf_eq_none_iff : leastOf precedes present l = none ↔ present = none ∧ l = [] := by
  constructor
  · intro hnone
    cases l with
    | nil => exact ⟨hnone, rfl⟩
    | cons x rest =>
      have hsome : ∃ b, leastOf precedes present (x :: rest) = some b :=
        exists_leastOf_some (least precedes present x) rest
      rw [hnone] at hsome
      exact absurd hsome nofun
  · rintro ⟨rfl, rfl⟩
    rfl

theorem least_eq_or (present : Option α) (x : α) :
    present = some (least precedes present x) ∨ least precedes present x = x := by
  cases present with
  | none => exact .inr rfl
  | some old => cases h : precedes x old <;> simp [least, h]

section StrictOrder

variable (hasymm : ∀ a b, precedes a b = true → precedes b a = false)

include hasymm

theorem not_precedes_least (x b : α) (hb : present = some b ∨ b = x) :
    precedes b (least precedes present x) = false := by
  have hirrefl : ∀ a, precedes a a = false := fun a =>
    Bool.eq_false_iff.2 fun h => by simp [hasymm a a h] at h
  cases present with
  | none =>
    obtain rfl : b = x := hb.resolve_left nofun
    exact hirrefl b
  | some old =>
    cases h : precedes x old with
    | true =>
      rcases hb with hb | rfl
      · cases hb
        simp [least, h, hasymm x b h]
      · simp [least, h, hirrefl]
    | false =>
      rcases hb with hb | rfl
      · cases hb
        simp [least, h, hirrefl]
      · simp [least, h]

variable (hnot : ∀ a b c, precedes a b = false → precedes b c = false → precedes a c = false)

include hnot

/-- **What is kept is least** among all that was taken into account. -/
theorem isLeastOf_of_leastOf (h : leastOf precedes present l = some v) :
    IsLeastOf precedes (fun a => present = some a ∨ a ∈ l) v := by
  induction l generalizing present with
  | nil =>
    obtain rfl : present = some v := h
    refine ⟨.inl rfl, ?_⟩
    rintro b (hb | hb)
    · cases hb
      exact Bool.eq_false_iff.2 fun h => by simp [hasymm v v h] at h
    · cases hb
  | cons x rest ih =>
    have hrest : leastOf precedes (some (least precedes present x)) rest = some v := h
    obtain ⟨hmem, hle⟩ := ih hrest
    have hkept : precedes (least precedes present x) v = false := hle _ (.inl rfl)
    constructor
    · rcases hmem with heq | hmem
      · cases heq
        refine (least_eq_or present x).imp_right fun hx => ?_
        rw [hx]
        exact List.mem_cons_self
      · exact .inr (List.mem_cons_of_mem x hmem)
    · rintro b (hb | hb)
      · exact hnot b _ v (not_precedes_least hasymm x b (.inl hb)) hkept
      · rcases List.mem_cons.1 hb with rfl | hb
        · exact hnot b _ v (not_precedes_least hasymm b b (.inr rfl)) hkept
        · exact hle b (.inr hb)

/-- **The least value is found**, provided that of two different values one precedes the other. -/
theorem leastOf_eq_some_iff
    (hconn : ∀ a b, (present = some a ∨ a ∈ l) → (present = some b ∨ b ∈ l) →
      precedes a b = false → precedes b a = false → a = b) :
    leastOf precedes present l = some v ↔
      IsLeastOf precedes (fun a => present = some a ∨ a ∈ l) v := by
  constructor
  · exact isLeastOf_of_leastOf hasymm hnot
  · intro hv
    cases hfound : leastOf precedes present l with
    | none =>
      obtain ⟨rfl, rfl⟩ := leastOf_eq_none_iff.1 hfound
      rcases hv.holds with h | h <;> cases h
    | some w =>
      have hw := isLeastOf_of_leastOf hasymm hnot hfound
      rw [hconn w v hw.holds hv.holds (hv.not_precedes w hw.holds) (hw.not_precedes v hv.holds)]

end StrictOrder

end Least

/-! ## Strictly increasing lists -/

section Increasing

variable {α : Type} [Ord α] [Std.TransOrd α] [Std.LawfulEqOrd α]

/-- Strictly increasing lists with the same elements are equal. -/
theorem eq_of_increasing {l l' : List α} (h : l.Pairwise fun a b => compare a b = .lt)
    (h' : l'.Pairwise fun a b => compare a b = .lt) (hmem : ∀ a, a ∈ l ↔ a ∈ l') : l = l' := by
  have hperm : l.Perm l' := (List.perm_ext_iff_of_nodup (h.imp SortedMap.ne_of_compare_lt)
    (h'.imp SortedMap.ne_of_compare_lt)).2 hmem
  refine hperm.eq_of_pairwise (fun a b _ _ hab hba => ?_) h h'
  exact absurd (Std.TransCmp.lt_trans hab hba) (by simp)

/-- Sorting elements that differ puts them in strictly increasing order. -/
theorem pairwise_mergeSort {l : List α} (h : l.Nodup) :
    (l.mergeSort fun a b => (compare a b).isLE).Pairwise fun a b => compare a b = .lt := by
  have htotal (a b : α) : ((compare a b).isLE || (compare b a).isLE) = true := by
    have hswap : compare b a = (compare a b).swap := Std.OrientedOrd.eq_swap
    rw [hswap]
    cases compare a b <;> rfl
  have hsorted : (l.mergeSort fun a b => (compare a b).isLE).Pairwise fun a b =>
      (compare a b).isLE = true :=
    List.pairwise_mergeSort (fun _ _ _ => Std.TransCmp.isLE_trans) htotal l
  have hnodup := (List.mergeSort_perm l fun a b => (compare a b).isLE).nodup_iff.2 h
  refine (hsorted.and hnodup).imp fun ⟨hle, hne⟩ => ?_
  exact (Ordering.isLE_iff_eq_lt_or_eq_eq.1 hle).resolve_right fun heq =>
    hne (Std.LawfulEqOrd.eq_of_compare heq)

end Increasing

namespace SortedMap

variable {κ β : Type} [Ord κ]

theorem contains_iff {m : SortedMap κ β} {k : κ} :
    m.contains k = true ↔ ∃ v, m.get? k = some v := by
  rw [contains, Option.isSome_iff_exists]

variable [Std.LawfulEqOrd κ]

theorem mem_keys_iff {m : SortedMap κ β} {k : κ} : k ∈ m.keys ↔ m.contains k = true := by
  rw [contains_iff, keys, List.mem_map]
  constructor
  · rintro ⟨⟨_, v⟩, h, rfl⟩
    exact ⟨v, mem_entries_iff.1 h⟩
  · rintro ⟨v, h⟩
    exact ⟨(k, v), mem_entries_iff.2 h, rfl⟩

variable [Std.TransOrd κ] [DecidableEq κ]

/-! ## Writing in any order -/

/-- Writes at two keys may be swapped if writes at the same key may. -/
theorem alter_comm {k k' : κ} {f f' : Option β → Option β}
    (h : k = k' → ∀ present, f' (f present) = f (f' present)) (m : SortedMap κ β) :
    (m.alter k f).alter k' f' = (m.alter k' f').alter k f := by
  apply ext_get?
  intro x
  by_cases hk : k = k'
  · subst hk
    simp only [get?_alter, if_true, h rfl]
    split <;> rfl
  · by_cases hx : x = k
    · simp [get?_alter, hx, hk]
    · simp [get?_alter, hx, Ne.symm hk]

theorem alter_idem {f : Option β → Option β} (h : ∀ present, f (f present) = f present) (k : κ)
    (m : SortedMap κ β) : (m.alter k f).alter k f = m.alter k f := by
  apply ext_get?
  intro x
  simp only [get?_alter, if_true, h]
  split <;> rfl

theorem mem_keys_ofFirst {l : List (κ × β)} {k : κ} :
    k ∈ (ofFirst l).keys ↔ ∃ v, (k, v) ∈ l := by
  rw [mem_keys_iff, contains_iff, get?_ofFirst]
  constructor
  · rintro ⟨v, h⟩
    exact ⟨v, mem_of_lookup h⟩
  · rintro ⟨v, h⟩
    induction l with
    | nil => cases h
    | cons e rest ih =>
      obtain ⟨k', v'⟩ := e
      by_cases hk : k = k'
      · exact ⟨v', hk ▸ lookup_cons_self ..⟩
      · rw [lookup_cons_ne hk]
        refine ih ((List.mem_cons.1 h).resolve_left fun he => hk ?_)
        cases he
        rfl

/-! ## Writing entries anew -/

theorem get?_foldl_insert {l : List (κ × β)} (hl : l.Pairwise fun a b => compare a.1 b.1 = .lt)
    (m : SortedMap κ β) (k : κ) :
    (l.foldl (fun m e => m.insert e.1 e.2) m).get? k = (lookup k l).or (m.get? k) := by
  induction l generalizing m with
  | nil => rfl
  | cons e rest ih =>
    rw [List.foldl_cons, ih hl.of_cons, get?_insert]
    by_cases hk : k = e.1
    · subst hk
      rw [lookup_of_forall_lt fun e he => List.rel_of_pairwise_cons hl he, lookup_cons_self]
      simp
    · rw [lookup_cons_ne hk, if_neg hk]

/-- The map of the entries of a map is the map. -/
theorem ofLast_entries (m : SortedMap κ β) : ofLast m.entries = m :=
  ext_get? fun k => by
    rw [ofLast, get?_foldl_insert m.increasing, get?_empty, Option.or_none]
    rfl

/-! ## Keyed values -/

omit [Std.TransOrd κ] in
theorem lookup_eq_find? (k : κ) (l : List (κ × β)) : lookup k l = (l.find? (·.1 = k)).map (·.2) := by
  induction l with
  | nil => rfl
  | cons e rest ih =>
    obtain ⟨k', v⟩ := e
    by_cases hk : k = k'
    · subst hk
      simp [lookup_cons_self]
    · rw [lookup_cons_ne hk, ih, List.find?_cons_of_neg (by simpa using Ne.symm hk)]

/-- In a map of values under keys of their own, the first value with a key is found there. -/
theorem get?_ofFirst_keyed (key : β → κ) (l : List β) (k : κ) :
    (ofFirst (l.map fun v => (key v, v))).get? k = l.find? (key · = k) := by
  rw [get?_ofFirst, lookup_eq_find?, List.find?_map, Option.map_map]
  exact Option.map_id' ..

/-! ## Groups -/

theorem get?_foldl_group (l : List (κ × β)) (m : SortedMap κ (List β)) (k : κ) :
    (l.foldl (fun m e => m.alter e.1 fun group => some (group.getD [] ++ [e.2])) m).get? k =
      if l.filter (·.1 = k) = [] then m.get? k
      else some ((m.get? k).getD [] ++ (l.filter (·.1 = k)).map (·.2)) := by
  induction l generalizing m with
  | nil => simp
  | cons e rest ih =>
    rw [List.foldl_cons, ih, get?_alter]
    by_cases hk : k = e.1
    · subst hk
      by_cases hrest : rest.filter (·.1 = e.1) = [] <;> simp [hrest]
    · rw [if_neg hk, List.filter_cons_of_neg (by simpa using Ne.symm hk)]

/-- **The groups of an entry list**: one for each key that occurs, with the values of the key in the
order of the list. -/
theorem mem_entries_ofGroups {l : List (κ × β)} {k : κ} {group : List β} :
    (k, group) ∈ (ofGroups l).entries ↔
      (∃ v, (k, v) ∈ l) ∧ group = (l.filter (·.1 = k)).map (·.2) := by
  have hoccurs : (∃ v, (k, v) ∈ l) ↔ l.filter (·.1 = k) ≠ [] := by
    constructor
    · rintro ⟨v, h⟩
      exact List.ne_nil_of_mem (List.mem_filter.2 ⟨h, by simp⟩)
    · intro h
      obtain ⟨⟨k', v⟩, hmem⟩ := List.exists_mem_of_ne_nil _ h
      obtain ⟨hl, hk⟩ := List.mem_filter.1 hmem
      obtain rfl : k' = k := of_decide_eq_true hk
      exact ⟨v, hl⟩
  rw [mem_entries_iff, ofGroups, get?_foldl_group, hoccurs]
  by_cases h : l.filter (·.1 = k) = []
  · simp [h]
  · rw [if_neg h]
    simp only [get?_empty, Option.getD_none, List.nil_append, Option.some.injEq, ne_eq, h,
      not_false_eq_true, true_and]
    exact eq_comm

end SortedMap

namespace SortedSet

variable {α : Type} [Ord α] [Std.TransOrd α] [Std.LawfulEqOrd α]

theorem insert_comm (s : SortedSet α) (a b : α) : (s.insert a).insert b = (s.insert b).insert a := by
  apply ext
  intro x
  simp only [mem_insert]
  exact or_left_comm

theorem insert_idem (s : SortedSet α) (a : α) : (s.insert a).insert a = s.insert a := by
  apply ext
  intro x
  simp only [mem_insert]
  exact ⟨fun h => h.elim .inl id, .inr⟩

end SortedSet

end DomainFlow
