import DomainFlow.Ownership
import DomainFlow.Proofs.Ordered
import Mathlib.Data.List.Basic

/-!
# Which aggregate owns an entity

The owner of an entity is settled by the first claim on it, and claims are listed ground by ground:
aggregate by aggregate where members hold entities, entity by entity where names or namespaces
decide. What this means for one entity is stated here without lists of claims: the first aggregate
with a member that holds the entity owns it; if there is none, the first declaration of the entity
that is named after an aggregate decides; if there is none, the first declaration that has exactly
one aggregate in its namespace decides.

An aggregate that bears the entity's own id is passed over on the first two grounds. On the third it
is not, so an id that is declared both as an aggregate and as an entity may come to own itself.

## Main definitions

* `IsFirst`: the first element of a list with a property
* `IsNamedAfter`: whether the name of an entity extends the name of an aggregate
* `Ownership.HeldBy`, `Ownership.NamedAfter`, `Ownership.AloneWith`: the three grounds, as relations
  between an entity and an aggregate
* `Ownership.Assigns`: which owner an entity has, and on which ground

## Main results

* `extendsName_iff`: the test of names is exact
* `Ownership.get?_owners_resolve_iff`: resolution assigns owners by the three grounds in order
* `Ownership.tier?_resolve_eq_some_iff`, `Ownership.isOwned_resolve_iff`: tiers are grounds
* `Ownership.resolve_exact`: the owners, and the entities without one
* `Ownership.owner?_resolve_self_iff`: when an entity owns itself
-/

namespace DomainFlow

/-! ## First elements -/

section First

variable {α κ β : Type} {p q : α → Prop} {l : List α} {a : α}

/-- **The first element of a list with a property.** -/
def IsFirst (p : α → Prop) (l : List α) (a : α) : Prop :=
  ∃ front back, l = front ++ a :: back ∧ p a ∧ ∀ b ∈ front, ¬p b

theorem IsFirst.mem (h : IsFirst p l a) : a ∈ l := by
  obtain ⟨front, back, rfl, -, -⟩ := h
  simp

theorem IsFirst.holds (h : IsFirst p l a) : p a := by
  obtain ⟨-, -, -, ha, -⟩ := h
  exact ha

theorem isFirst_congr (h : ∀ a, p a ↔ q a) : IsFirst p l a ↔ IsFirst q l a := by
  simp only [IsFirst, h]

/-- A condition on all elements alike may be drawn out. -/
theorem isFirst_and_left {c : Prop} : IsFirst (fun a => c ∧ p a) l a ↔ c ∧ IsFirst p l a := by
  by_cases hc : c
  · simp only [hc, true_and]
  · exact iff_of_false (fun h => hc h.holds.1) fun h => hc h.1

theorem find?_eq_some_iff_isFirst {p : α → Bool} :
    l.find? p = some a ↔ IsFirst (p · = true) l a := by
  rw [List.find?_eq_some_iff_append, IsFirst]
  simp only [Bool.not_eq_true', Bool.not_eq_true]
  exact ⟨fun ⟨ha, front, back, h⟩ => ⟨front, back, h.1, ha, h.2⟩,
    fun ⟨front, back, heq, ha, h⟩ => ⟨ha, front, back, heq, h⟩⟩

open Classical in
theorem isFirst_iff_find? : IsFirst p l a ↔ l.find? (p ·) = some a := by
  rw [find?_eq_some_iff_isFirst]
  simp only [decide_eq_true_iff]

theorem IsFirst.unique (ha : IsFirst p l a) {b : α} (hb : IsFirst p l b) : a = b := by
  rw [isFirst_iff_find?] at ha hb
  exact Option.some.inj (ha.symm.trans hb)

/-- What comes first among many comes first among those of them that it is one of. -/
theorem IsFirst.of_imp (h : IsFirst p l a) (ha : q a) (himp : ∀ b, q b → p b) : IsFirst q l a := by
  obtain ⟨front, back, heq, -, hfront⟩ := h
  exact ⟨front, back, heq, ha, fun b hb hq => hfront b hb (himp b hq)⟩

theorem exists_isFirst_iff : (∃ a, IsFirst p l a) ↔ ∃ a ∈ l, p a := by
  classical
  constructor
  · rintro ⟨a, ha⟩
    exact ⟨a, ha.mem, ha.holds⟩
  · rintro ⟨a, ha, hp⟩
    have hsome : (l.find? (p ·)).isSome = true := List.find?_isSome.2 ⟨a, ha, by simpa using hp⟩
    obtain ⟨b, hb⟩ := Option.isSome_iff_exists.1 hsome
    exact ⟨b, isFirst_iff_find?.2 hb⟩

namespace SortedMap

variable [Ord κ] {k : κ} {v : β}

/-- The first entry of a key is given by the first element that has an entry for the key. -/
theorem lookup_flatMap {f : α → List (κ × β)} (hp : ∀ a, p a ↔ ∃ w, lookup k (f a) = some w) :
    lookup k (l.flatMap f) = some v ↔ ∃ a, IsFirst p l a ∧ lookup k (f a) = some v := by
  have hfind : lookup k (l.flatMap f) = l.findSome? fun a => lookup k (f a) := by
    induction l with
    | nil => rfl
    | cons a rest ih =>
      rw [List.flatMap_cons, lookup_append, ih, List.findSome?_cons]
      cases lookup k (f a) <;> rfl
  have hnone : ∀ a, lookup k (f a) = none ↔ ¬p a := by
    intro a
    rw [hp, ← Option.isSome_iff_exists, Option.not_isSome_iff_eq_none]
  rw [hfind, List.findSome?_eq_some_iff]
  constructor
  · rintro ⟨front, a, back, rfl, ha, hfront⟩
    exact ⟨a, ⟨front, back, rfl, (hp a).2 ⟨v, ha⟩, fun b hb => (hnone b).1 (hfront b hb)⟩, ha⟩
  · rintro ⟨a, ⟨front, back, rfl, -, hfront⟩, ha⟩
    exact ⟨front, a, back, rfl, ha, fun b hb => (hnone b).2 (hfront b hb)⟩

variable [Std.LawfulEqOrd κ]

/-- The same, where an element gives one entry at most. -/
theorem lookup_filterMap {f : α → Option (κ × β)} (hp : ∀ a, p a ↔ ∃ w, f a = some (k, w)) :
    lookup k (l.filterMap f) = some v ↔ ∃ a, IsFirst p l a ∧ f a = some (k, v) := by
  have hentry : ∀ a w, lookup k (f a).toList = some w ↔ f a = some (k, w) := by
    intro a w
    cases hfa : f a with
    | none => simp [lookup]
    | some e =>
      obtain ⟨k', w'⟩ := e
      by_cases hk : k = k'
      · subst hk
        simp [lookup_cons_self]
      · simp [lookup, hk, Ne.symm hk]
  have hp' : ∀ a, p a ↔ ∃ w, lookup k (f a).toList = some w := by simpa only [hentry] using hp
  rw [List.filterMap_eq_flatMap_toList, lookup_flatMap hp']
  simp only [hentry]

/-- Where all entries of a key are alike, it does not matter which comes first. -/
theorem lookup_eq_some_iff_mem [DecidableEq κ] {l : List (κ × β)}
    (h : ∀ a, (k, a) ∈ l → ∀ b, (k, b) ∈ l → a = b) : lookup k l = some v ↔ (k, v) ∈ l := by
  constructor
  · exact mem_of_lookup
  · intro hmem
    cases hlookup : lookup k l with
    | none =>
      rw [lookup_eq_find?, Option.map_eq_none_iff, List.find?_eq_none] at hlookup
      exact absurd (decide_eq_true rfl) (hlookup (k, v) hmem)
    | some w => rw [h w (mem_of_lookup hlookup) v hmem]

end SortedMap

end First

/-! ## Names -/

/-- **Whether the name of an entity extends the name of an aggregate**: it is that name followed by
some text, or a text that differs from that name in the case of letters at most, followed by one of
the suffixes. -/
def IsNamedAfter (suffixes : List String) (entity aggregate : String) : Prop :=
  aggregate ≠ "" ∧
    ((∃ rest, rest ≠ "" ∧ entity = aggregate ++ rest) ∨
      ∃ suffix ∈ suffixes, ∃ base, entity = base ++ suffix ∧
        base.toList.map Char.toLower = aggregate.toList.map Char.toLower)

theorem stripEnd?_eq_some_iff {last text base : List Char} :
    stripEnd? last text = some base ↔ text = base ++ last := by
  rw [stripEnd?]
  constructor
  · intro h
    split at h
    · next hsuffix =>
      obtain ⟨front, rfl⟩ := List.isSuffixOf_iff_suffix.1 hsuffix
      simpa using h
    · cases h
  · rintro rfl
    rw [if_pos (List.isSuffixOf_iff_suffix.2 (List.suffix_append base last))]
    simp

theorem continues_iff {entity aggregate : String} :
    (aggregate.toList.isPrefixOf entity.toList && aggregate.length < entity.length) = true ↔
      ∃ rest, rest ≠ "" ∧ entity = aggregate ++ rest := by
  rw [Bool.and_eq_true, List.isPrefixOf_iff_prefix, decide_eq_true_iff]
  constructor
  · rintro ⟨⟨rest, hrest⟩, hlength⟩
    have hentity : entity = aggregate ++ String.ofList rest := by
      rw [← String.toList_inj, String.toList_append, String.toList_ofList, hrest]
    refine ⟨String.ofList rest, ?_, hentity⟩
    intro hempty
    rw [hentity, hempty, String.append_empty] at hlength
    exact absurd hlength (Nat.lt_irrefl _)
  · rintro ⟨rest, hrest, rfl⟩
    refine ⟨⟨rest.toList, String.toList_append.symm⟩, ?_⟩
    have hpos : rest.length ≠ 0 := by simpa using hrest
    rw [String.length_append]
    omega

/-- **The test of names is exact.** -/
theorem extendsName_iff {suffixes : List String} {entity aggregate : String} :
    extendsName suffixes entity aggregate = true ↔ IsNamedAfter suffixes entity aggregate := by
  rw [extendsName, Bool.and_eq_true, Bool.or_eq_true, continues_iff, List.any_eq_true, IsNamedAfter,
    decide_eq_true_iff]
  refine and_congr_right fun _ => or_congr_right ?_
  refine exists_congr fun suffix => and_congr_right fun _ => ?_
  constructor
  · intro h
    split at h
    · next base hbase =>
      refine ⟨String.ofList base, ?_, ?_⟩
      · rw [← String.toList_inj, String.toList_append, String.toList_ofList]
        exact stripEnd?_eq_some_iff.1 hbase
      · rw [String.toList_ofList]
        exact eq_of_beq h
    · cases h
  · rintro ⟨base, rfl, hbase⟩
    rw [stripEnd?_eq_some_iff.2 String.toList_append]
    exact beq_iff_eq.2 hbase

/-! ## Grounds -/

namespace Ownership

/-- **A member holds an entity**: another aggregate declares a member of the entity's type, or of a
type that is no entity and has the entity as its single argument. -/
def HeldBy (entities : List TypeFact) (containment : List Containment) (entity : String)
    (aggregate : TypeFact) : Prop :=
  aggregate.id ≠ entity ∧ ∃ fact ∈ containment, fact.aggregate = aggregate.id ∧
    (fact.memberType.id = entity ∨
      (∀ other ∈ entities, other.id ≠ fact.memberType.id) ∧ fact.memberType.arguments = [entity])

/-- **A declaration of an entity is named after another aggregate.** -/
def NamedAfter (suffixes : List String) (entity aggregate : TypeFact) : Prop :=
  aggregate.id ≠ entity.id ∧ IsNamedAfter suffixes entity.name aggregate.name

/-- **An aggregate is the only one in the namespace** of a declaration of an entity. It may bear the
entity's own id. -/
def AloneWith (aggregates : List TypeFact) (entity aggregate : TypeFact) : Prop :=
  aggregates.filter (·.namespaceName = entity.namespaceName) = [aggregate]

theorem AloneWith.mem {aggregates : List TypeFact} {entity aggregate : TypeFact}
    (h : AloneWith aggregates entity aggregate) : aggregate ∈ aggregates := by
  have hmem : aggregate ∈ aggregates.filter (·.namespaceName = entity.namespaceName) := by
    rw [h]
    exact List.mem_singleton_self _
  exact (List.mem_filter.1 hmem).1

variable {suffixes : List String} {aggregates entities : List TypeFact}
  {containment : List Containment} {entity owner : String} {tier : Tier}

/-! ### Claims on each ground -/

/-- A reference holds an entity as its own type, or else as its single argument. -/
theorem held?_eq_some_iff_isEntity {ref : TypeRef} {isEntity : String → Bool} :
    ref.held? isEntity = some entity ↔ isEntity entity = true ∧
      (ref.id = entity ∨ isEntity ref.id = false ∧ ref.arguments = [entity]) := by
  rw [TypeRef.held?]
  by_cases hid : isEntity ref.id = true
  · rw [if_pos hid, Option.some_inj]
    simp only [hid, Bool.true_eq_false, false_and, or_false]
    constructor
    · rintro rfl
      exact ⟨hid, rfl⟩
    · exact And.right
  · have hne : isEntity entity = true → ref.id ≠ entity := by
      rintro hentity rfl
      exact hid hentity
    rw [if_neg hid]
    split
    · next argument harguments =>
      rw [harguments, Option.ite_none_right_eq_some, Option.some_inj]
      constructor
      · rintro ⟨hargument, rfl⟩
        exact ⟨hargument, .inr ⟨Bool.eq_false_iff.2 hid, rfl⟩⟩
      · rintro ⟨hentity, heq | ⟨-, heq⟩⟩
        · exact absurd heq (hne hentity)
        · cases heq
          exact ⟨hentity, rfl⟩
    · next hmany =>
      refine iff_of_false nofun ?_
      rintro ⟨hentity, heq | ⟨-, heq⟩⟩
      · exact hne hentity heq
      · exact hmany _ heq

theorem held?_eq_some_iff {ref : TypeRef} :
    ref.held? (fun id => entities.any (·.id = id)) = some entity ↔
      (∃ fact ∈ entities, fact.id = entity) ∧
        (ref.id = entity ∨ (∀ other ∈ entities, other.id ≠ ref.id) ∧ ref.arguments = [entity]) := by
  simp only [held?_eq_some_iff_isEntity, List.any_eq_true, List.any_eq_false, decide_eq_true_iff,
    ne_eq]

/-- The claim of an aggregate on the entity that a member holds. -/
def heldClaim? (entities : List TypeFact) (aggregate : TypeFact) (fact : Containment) :
    Option Claim :=
  match fact.memberType.held? (fun id => entities.any (·.id = id)) with
  | some held => if held = aggregate.id then none else some (held, aggregate.id, .containment)
  | none => none

theorem heldClaim?_eq_some_iff {aggregate : TypeFact} {fact : Containment} {claim : String × Tier} :
    heldClaim? entities aggregate fact = some (entity, claim) ↔
      (aggregate.id ≠ entity ∧
        fact.memberType.held? (fun id => entities.any (·.id = id)) = some entity) ∧
        claim = (aggregate.id, .containment) := by
  rw [heldClaim?]
  split
  · next held hheld =>
    rw [hheld, Option.some_inj]
    by_cases hown : held = aggregate.id
    · rw [if_pos hown]
      refine iff_of_false nofun ?_
      rintro ⟨⟨hne, rfl⟩, -⟩
      exact hne hown.symm
    · rw [if_neg hown, Option.some_inj, Prod.mk.injEq]
      constructor
      · rintro ⟨rfl, rfl⟩
        exact ⟨⟨Ne.symm hown, rfl⟩, rfl⟩
      · rintro ⟨⟨-, rfl⟩, rfl⟩
        exact ⟨rfl, rfl⟩
  · next hnone =>
    rw [hnone]
    exact iff_of_false nofun fun h => nomatch h.1.2

/-- An aggregate claims the entities that its members hold, unless they bear its own id. -/
theorem lookup_heldClaims {aggregate : TypeFact} {claim : String × Tier} :
    SortedMap.lookup entity ((containment.filter (·.aggregate = aggregate.id)).filterMap
        (heldClaim? entities aggregate)) = some claim ↔
      ((∃ fact ∈ entities, fact.id = entity) ∧ HeldBy entities containment entity aggregate) ∧
        claim = (aggregate.id, .containment) := by
  have hclaims : ∀ claim, (entity, claim) ∈
      (containment.filter (·.aggregate = aggregate.id)).filterMap (heldClaim? entities aggregate) ↔
      ((∃ fact ∈ entities, fact.id = entity) ∧ HeldBy entities containment entity aggregate) ∧
        claim = (aggregate.id, .containment) := by
    intro claim
    simp only [List.mem_filterMap, List.mem_filter, decide_eq_true_iff, heldClaim?_eq_some_iff,
      held?_eq_some_iff, HeldBy]
    constructor
    · rintro ⟨fact, ⟨hfact, hid⟩, ⟨hne, hentity, hmember⟩, hclaim⟩
      exact ⟨⟨hentity, hne, fact, hfact, hid, hmember⟩, hclaim⟩
    · rintro ⟨⟨hentity, hne, fact, hfact, hid, hmember⟩, hclaim⟩
      exact ⟨fact, ⟨hfact, hid⟩, ⟨hne, hentity, hmember⟩, hclaim⟩
  rw [← hclaims]
  apply SortedMap.lookup_eq_some_iff_mem
  intro a ha b hb
  rw [((hclaims a).1 ha).2, ((hclaims b).1 hb).2]

/-- The first claim by containment comes from the first aggregate that holds the entity. -/
theorem lookup_containmentClaims :
    SortedMap.lookup entity
        (containmentClaims aggregates (fun id => entities.any (·.id = id)) containment) =
        some (owner, tier) ↔
      (∃ fact ∈ entities, fact.id = entity) ∧ tier = .containment ∧
        ∃ aggregate, IsFirst (HeldBy entities containment entity) aggregates aggregate ∧
          aggregate.id = owner := by
  change SortedMap.lookup entity (aggregates.flatMap fun aggregate =>
    (containment.filter (·.aggregate = aggregate.id)).filterMap (heldClaim? entities aggregate)) =
      some (owner, tier) ↔ _
  rw [SortedMap.lookup_flatMap (p := fun aggregate =>
    (∃ fact ∈ entities, fact.id = entity) ∧ HeldBy entities containment entity aggregate)]
  · simp only [lookup_heldClaims, isFirst_and_left, Prod.mk.injEq]
    constructor
    · rintro ⟨aggregate, ⟨hentity, hfirst⟩, -, rfl, rfl⟩
      exact ⟨hentity, rfl, aggregate, hfirst, rfl⟩
    · rintro ⟨hentity, rfl, aggregate, hfirst, rfl⟩
      exact ⟨aggregate, ⟨hentity, hfirst⟩, ⟨hentity, hfirst.holds⟩, rfl, rfl⟩
  · intro aggregate
    simp only [lookup_heldClaims, exists_and_left, exists_eq, and_true]

/-- Claims that the declarations of an entity make one by one: the first declaration that makes a
claim on the entity decides. -/
theorem lookup_filterMap_claims {f : TypeFact → Option Claim} {R : TypeFact → TypeFact → Prop}
    {ground : Tier} (hf : ∀ fact claim, f fact = some claim ↔
      ∃ aggregate, R fact aggregate ∧ (fact.id, aggregate.id, ground) = claim) :
    SortedMap.lookup entity (entities.filterMap f) = some (owner, tier) ↔
      tier = ground ∧ ∃ fact aggregate,
        IsFirst (fun fact => fact.id = entity ∧ ∃ a, R fact a) entities fact ∧
        R fact aggregate ∧ aggregate.id = owner := by
  have hclaims : ∀ fact, (fact.id = entity ∧ ∃ a, R fact a) ↔ ∃ v, f fact = some (entity, v) := by
    intro fact
    simp only [hf, Prod.mk.injEq]
    exact ⟨fun ⟨hid, a, ha⟩ => ⟨_, a, ha, hid, rfl⟩, fun ⟨_, a, ha, hid, _⟩ => ⟨hid, a, ha⟩⟩
  rw [SortedMap.lookup_filterMap hclaims]
  simp only [hf, Prod.mk.injEq]
  constructor
  · rintro ⟨fact, hfact, aggregate, haggregate, -, rfl, rfl⟩
    exact ⟨rfl, fact, aggregate, hfact, haggregate, rfl⟩
  · rintro ⟨rfl, fact, aggregate, hfact, haggregate, rfl⟩
    exact ⟨fact, hfact, aggregate, haggregate, hfact.holds.1, rfl, rfl⟩

/-- The first claim by naming comes from the first declaration named after an aggregate. -/
theorem lookup_namingClaims :
    SortedMap.lookup entity (namingClaims suffixes aggregates entities) = some (owner, tier) ↔
      tier = .naming ∧ ∃ fact aggregate,
        IsFirst (fun fact => fact.id = entity ∧ ∃ a ∈ aggregates, NamedAfter suffixes fact a)
          entities fact ∧
        IsFirst (NamedAfter suffixes fact) aggregates aggregate ∧ aggregate.id = owner := by
  have hclaim : ∀ fact (claim : Claim), (aggregates.find? fun aggregate =>
        aggregate.id ≠ fact.id && extendsName suffixes fact.name aggregate.name).map
        (fun aggregate => (fact.id, aggregate.id, Tier.naming)) = some claim ↔
      ∃ aggregate, IsFirst (NamedAfter suffixes fact) aggregates aggregate ∧
        (fact.id, aggregate.id, Tier.naming) = claim := by
    intro fact claim
    rw [Option.map_eq_some_iff]
    refine exists_congr fun aggregate => and_congr_left fun _ => ?_
    rw [find?_eq_some_iff_isFirst]
    refine isFirst_congr fun a => ?_
    rw [Bool.and_eq_true, extendsName_iff, decide_eq_true_iff, NamedAfter]
  rw [namingClaims, lookup_filterMap_claims hclaim]
  simp only [exists_isFirst_iff]

/-- The first claim by namespace comes from the first declaration with one aggregate in its
namespace. -/
theorem lookup_colocationClaims :
    SortedMap.lookup entity (colocationClaims aggregates entities) = some (owner, tier) ↔
      tier = .colocation ∧ ∃ fact aggregate,
        IsFirst (fun fact => fact.id = entity ∧ ∃ a, AloneWith aggregates fact a) entities fact ∧
        AloneWith aggregates fact aggregate ∧ aggregate.id = owner := by
  apply lookup_filterMap_claims
  intro fact claim
  simp only [AloneWith]
  split
  · next only honly =>
    simp only [honly, List.cons.injEq, and_true, exists_eq_left', Option.some_inj]
  · next hmany =>
    refine iff_of_false nofun ?_
    rintro ⟨aggregate, honly, -⟩
    exact hmany aggregate honly

/-! ### Owners -/

/-- **The owner of an entity and the ground of it**: the first ground on which any aggregate owns
the entity decides, and on each ground what is declared first. -/
inductive Assigns (suffixes : List String) (aggregates entities : List TypeFact)
    (containment : List Containment) (entity : String) : String → Tier → Prop
  | containment {aggregate : TypeFact} (declared : ∃ fact ∈ entities, fact.id = entity)
      (first : IsFirst (HeldBy entities containment entity) aggregates aggregate) :
      Assigns suffixes aggregates entities containment entity aggregate.id .containment
  | naming {fact aggregate : TypeFact}
      (unheld : ∀ a ∈ aggregates, ¬HeldBy entities containment entity a)
      (deciding : IsFirst
        (fun fact => fact.id = entity ∧ ∃ a ∈ aggregates, NamedAfter suffixes fact a) entities fact)
      (first : IsFirst (NamedAfter suffixes fact) aggregates aggregate) :
      Assigns suffixes aggregates entities containment entity aggregate.id .naming
  | colocation {fact aggregate : TypeFact}
      (unheld : ∀ a ∈ aggregates, ¬HeldBy entities containment entity a)
      (unnamed : ∀ fact ∈ entities, fact.id = entity →
        ∀ a ∈ aggregates, ¬NamedAfter suffixes fact a)
      (deciding : IsFirst (fun fact => fact.id = entity ∧ ∃ a, AloneWith aggregates fact a)
        entities fact)
      (alone : AloneWith aggregates fact aggregate) :
      Assigns suffixes aggregates entities containment entity aggregate.id .colocation

theorem lookup_containmentClaims_eq_none_iff :
    SortedMap.lookup entity
        (containmentClaims aggregates (fun id => entities.any (·.id = id)) containment) = none ↔
      ((∃ fact ∈ entities, fact.id = entity) →
        ∀ a ∈ aggregates, ¬HeldBy entities containment entity a) := by
  constructor
  · intro hnone hdeclared a ha hheld
    obtain ⟨first, hfirst⟩ := exists_isFirst_iff.2 ⟨a, ha, hheld⟩
    have hclaim := lookup_containmentClaims.2 ⟨hdeclared, rfl, first, hfirst, rfl⟩
    rw [hnone] at hclaim
    cases hclaim
  · intro hunheld
    rw [Option.eq_none_iff_forall_ne_some]
    rintro ⟨owner, tier⟩ hclaim
    obtain ⟨hdeclared, -, first, hfirst, -⟩ := lookup_containmentClaims.1 hclaim
    exact hunheld hdeclared first hfirst.mem hfirst.holds

/-- Where a declaration of an entity is named after an aggregate, some declaration decides. -/
theorem exists_isFirst_namedAfter {fact a : TypeFact} (hfact : fact ∈ entities)
    (hid : fact.id = entity) (ha : a ∈ aggregates) (hnamed : NamedAfter suffixes fact a) :
    ∃ deciding first,
      IsFirst (fun fact => fact.id = entity ∧ ∃ a ∈ aggregates, NamedAfter suffixes fact a)
        entities deciding ∧
      IsFirst (NamedAfter suffixes deciding) aggregates first := by
  obtain ⟨deciding, hdeciding⟩ := (exists_isFirst_iff (p := fun fact =>
    fact.id = entity ∧ ∃ a ∈ aggregates, NamedAfter suffixes fact a)).2
      ⟨fact, hfact, hid, a, ha, hnamed⟩
  obtain ⟨first, hfirst⟩ := exists_isFirst_iff.2 hdeciding.holds.2
  exact ⟨deciding, first, hdeciding, hfirst⟩

theorem lookup_namingClaims_eq_none_iff :
    SortedMap.lookup entity (namingClaims suffixes aggregates entities) = none ↔
      ∀ fact ∈ entities, fact.id = entity → ∀ a ∈ aggregates, ¬NamedAfter suffixes fact a := by
  constructor
  · intro hnone fact hfact hid a ha hnamed
    obtain ⟨deciding, first, hdeciding, hfirst⟩ := exists_isFirst_namedAfter hfact hid ha hnamed
    have hclaim := lookup_namingClaims.2 ⟨rfl, deciding, first, hdeciding, hfirst, rfl⟩
    rw [hnone] at hclaim
    cases hclaim
  · intro hunnamed
    rw [Option.eq_none_iff_forall_ne_some]
    rintro ⟨owner, tier⟩ hclaim
    obtain ⟨-, fact, first, hdeciding, hfirst, -⟩ := lookup_namingClaims.1 hclaim
    exact hunnamed fact hdeciding.mem hdeciding.holds.1 first hfirst.mem hfirst.holds

/-- **Resolution assigns owners by the three grounds in order.** -/
theorem get?_owners_resolve_iff :
    (resolve suffixes aggregates entities containment).owners.get? entity = some (owner, tier) ↔
      Assigns suffixes aggregates entities containment entity owner tier := by
  rw [get?_owners_resolve, claims, SortedMap.lookup_append, SortedMap.lookup_append,
    Option.or_eq_some_iff, Option.or_eq_some_iff, Option.or_eq_none_iff,
    lookup_containmentClaims, lookup_namingClaims, lookup_colocationClaims,
    lookup_containmentClaims_eq_none_iff, lookup_namingClaims_eq_none_iff]
  constructor
  · rintro ((⟨hdeclared, rfl, aggregate, hfirst, rfl⟩ |
      ⟨hunheld, rfl, fact, aggregate, hdeciding, hfirst, rfl⟩) |
      ⟨⟨hunheld, hunnamed⟩, rfl, fact, aggregate, hdeciding, halone, rfl⟩)
    · exact .containment hdeclared hfirst
    · exact .naming (hunheld ⟨fact, hdeciding.mem, hdeciding.holds.1⟩) hdeciding hfirst
    · exact .colocation (hunheld ⟨fact, hdeciding.mem, hdeciding.holds.1⟩) hunnamed hdeciding halone
  · rintro (⟨hdeclared, hfirst⟩ | ⟨hunheld, hdeciding, hfirst⟩ |
      ⟨hunheld, hunnamed, hdeciding, halone⟩)
    · exact .inl (.inl ⟨hdeclared, rfl, _, hfirst, rfl⟩)
    · exact .inl (.inr ⟨fun _ => hunheld, rfl, _, _, hdeciding, hfirst, rfl⟩)
    · exact .inr ⟨⟨fun _ => hunheld, hunnamed⟩, rfl, _, _, hdeciding, halone, rfl⟩

theorem owner?_eq_some_iff {ownership : Ownership} :
    ownership.owner? entity = some owner ↔
      ∃ tier, ownership.owners.get? entity = some (owner, tier) := by
  rw [owner?, Option.map_eq_some_iff, Prod.exists]
  exact ⟨fun ⟨_, tier, h, rfl⟩ => ⟨tier, h⟩, fun ⟨tier, h⟩ => ⟨_, tier, h, rfl⟩⟩

theorem unresolved_resolve :
    (resolve suffixes aggregates entities containment).unresolved =
      (entities.map (·.id)).filter fun id =>
        (resolve suffixes aggregates entities containment).owner? id = none := by
  refine List.filter_congr fun id _ => ?_
  rw [owner?, SortedMap.contains, resolve]
  cases (SortedMap.ofFirst (claims suffixes aggregates entities containment)).get? id <;> rfl

namespace Assigns

theorem isEntity (h : Assigns suffixes aggregates entities containment entity owner tier) :
    ∃ fact ∈ entities, fact.id = entity := by
  cases h with
  | containment declared => exact declared
  | naming _ deciding => exact ⟨_, deciding.mem, deciding.holds.1⟩
  | colocation _ _ deciding => exact ⟨_, deciding.mem, deciding.holds.1⟩

theorem isAggregate (h : Assigns suffixes aggregates entities containment entity owner tier) :
    ∃ aggregate ∈ aggregates, aggregate.id = owner := by
  cases h with
  | containment _ first => exact ⟨_, first.mem, rfl⟩
  | naming _ _ first => exact ⟨_, first.mem, rfl⟩
  | colocation _ _ _ alone => exact ⟨_, alone.mem, rfl⟩

end Assigns

/-- An entity has no owner where there is no ground for one. -/
theorem forall_not_assigns_iff :
    (∀ owner tier, ¬Assigns suffixes aggregates entities containment entity owner tier) ↔
      ∀ fact ∈ entities, fact.id = entity →
        (∀ a ∈ aggregates, ¬HeldBy entities containment entity a) ∧
        (∀ a ∈ aggregates, ¬NamedAfter suffixes fact a) ∧ ∀ a, ¬AloneWith aggregates fact a := by
  constructor
  · intro hnone fact hfact hid
    have unheld : ∀ a ∈ aggregates, ¬HeldBy entities containment entity a := by
      intro a ha hheld
      obtain ⟨first, hfirst⟩ := exists_isFirst_iff.2 ⟨a, ha, hheld⟩
      exact hnone _ _ (.containment ⟨fact, hfact, hid⟩ hfirst)
    have unnamed : ∀ fact ∈ entities, fact.id = entity →
        ∀ a ∈ aggregates, ¬NamedAfter suffixes fact a := by
      intro fact hfact hid a ha hnamed
      obtain ⟨deciding, first, hdeciding, hfirst⟩ := exists_isFirst_namedAfter hfact hid ha hnamed
      exact hnone _ _ (.naming unheld hdeciding hfirst)
    refine ⟨unheld, unnamed fact hfact hid, ?_⟩
    intro a halone
    obtain ⟨deciding, hdeciding⟩ := (exists_isFirst_iff (p := fun fact =>
      fact.id = entity ∧ ∃ a, AloneWith aggregates fact a)).2 ⟨fact, hfact, hid, a, halone⟩
    obtain ⟨-, first, hfirst⟩ := hdeciding.holds
    exact hnone _ _ (.colocation unheld unnamed hdeciding hfirst)
  · intro hno owner tier hassigns
    cases hassigns with
    | containment declared first =>
      obtain ⟨fact, hfact, hid⟩ := declared
      exact (hno fact hfact hid).1 _ first.mem first.holds
    | naming _ deciding first =>
      exact (hno _ deciding.mem deciding.holds.1).2.1 _ first.mem first.holds
    | colocation _ _ deciding alone => exact (hno _ deciding.mem deciding.holds.1).2.2 _ alone

theorem owner?_resolve_eq_none_iff :
    (resolve suffixes aggregates entities containment).owner? entity = none ↔
      ∀ owner tier, ¬Assigns suffixes aggregates entities containment entity owner tier := by
  simp only [← get?_owners_resolve_iff, Option.eq_none_iff_forall_ne_some, ne_eq,
    owner?_eq_some_iff, not_exists]

/-- The tier of an entity is the ground on which it is assigned an owner. -/
theorem tier?_resolve_eq_some_iff :
    (resolve suffixes aggregates entities containment).tier? entity = some tier ↔
      ∃ owner, Assigns suffixes aggregates entities containment entity owner tier := by
  simp only [tier?, Option.map_eq_some_iff, Prod.exists, exists_eq_right, get?_owners_resolve_iff]

/-- An entity is owned exactly if there is a ground to assign it an owner. -/
theorem isOwned_resolve_iff :
    (resolve suffixes aggregates entities containment).isOwned entity = true ↔
      ∃ owner tier, Assigns suffixes aggregates entities containment entity owner tier := by
  simp only [isOwned, SortedMap.contains_iff, Prod.exists, get?_owners_resolve_iff]

/-- **Owners are resolved on three grounds in order.** Each owner of an entity is assigned by the
first ground that there is; there is no owner exactly if there is no ground; owned are entities,
owners are aggregates; and what is left are the entities without an owner, in the order of
declaration. -/
theorem resolve_exact (suffixes : List String) (aggregates entities : List TypeFact)
    (containment : List Containment) :
    (∀ entity owner tier,
      (resolve suffixes aggregates entities containment).owners.get? entity = some (owner, tier) ↔
        Assigns suffixes aggregates entities containment entity owner tier) ∧
    (∀ entity, (resolve suffixes aggregates entities containment).owner? entity = none ↔
      ∀ fact ∈ entities, fact.id = entity →
        (∀ a ∈ aggregates, ¬HeldBy entities containment entity a) ∧
        (∀ a ∈ aggregates, ¬NamedAfter suffixes fact a) ∧ ∀ a, ¬AloneWith aggregates fact a) ∧
    (∀ entity, ∀ owner ∈ (resolve suffixes aggregates entities containment).owner? entity,
      (∃ fact ∈ entities, fact.id = entity) ∧ ∃ aggregate ∈ aggregates, aggregate.id = owner) ∧
    (resolve suffixes aggregates entities containment).unresolved =
      (entities.map (·.id)).filter fun id =>
        (resolve suffixes aggregates entities containment).owner? id = none := by
  refine ⟨fun _ _ _ => get?_owners_resolve_iff, ?_, ?_, unresolved_resolve⟩
  · intro entity
    rw [owner?_resolve_eq_none_iff, forall_not_assigns_iff]
  · intro entity owner howner
    obtain ⟨tier, htier⟩ := owner?_eq_some_iff.1 howner
    have hassigns := get?_owners_resolve_iff.1 htier
    exact ⟨hassigns.isEntity, hassigns.isAggregate⟩

/-! ## Owners of themselves -/

/-- **An id comes to own itself**: no other aggregate owns the entity by its members or its name,
and the declaration of the entity that decides by its namespace has the aggregate of its own id
there, and no other one. -/
structure OwnsItself (suffixes : List String) (aggregates entities : List TypeFact)
    (containment : List Containment) (id : String) : Prop where
  unheld : ∀ a ∈ aggregates, ¬HeldBy entities containment id a
  unnamed : ∀ fact ∈ entities, fact.id = id → ∀ a ∈ aggregates, ¬NamedAfter suffixes fact a
  alone : ∃ fact aggregate,
    IsFirst (fun fact => fact.id = id ∧ ∃ a, AloneWith aggregates fact a) entities fact ∧
    AloneWith aggregates fact aggregate ∧ aggregate.id = id

/-- Only by its namespace can an entity be assigned its own id. -/
theorem Assigns.ownsItself (h : Assigns suffixes aggregates entities containment entity owner tier)
    (hself : owner = entity) :
    tier = .colocation ∧ OwnsItself suffixes aggregates entities containment entity := by
  cases h with
  | containment _ first => exact absurd hself first.holds.1
  | naming _ deciding first => exact absurd (hself.trans deciding.holds.1.symm) first.holds.1
  | colocation unheld unnamed deciding alone =>
    exact ⟨rfl, unheld, unnamed, _, _, deciding, alone, hself⟩

/-- **When an id owns itself**: never by a member or a name, and by a namespace exactly if it is
declared as an entity and as the only aggregate there, and nothing else owns it. -/
theorem owner?_resolve_self_iff (suffixes : List String) (aggregates entities : List TypeFact)
    (containment : List Containment) (id : String) :
    ((resolve suffixes aggregates entities containment).owner? id = some id ↔
      OwnsItself suffixes aggregates entities containment id) ∧
    ∀ tier, (resolve suffixes aggregates entities containment).owners.get? id = some (id, tier) ↔
      tier = .colocation ∧ OwnsItself suffixes aggregates entities containment id := by
  have hself : ∀ tier,
      (resolve suffixes aggregates entities containment).owners.get? id = some (id, tier) ↔
        tier = .colocation ∧ OwnsItself suffixes aggregates entities containment id := by
    intro tier
    rw [get?_owners_resolve_iff]
    constructor
    · exact fun hassigns => hassigns.ownsItself rfl
    · rintro ⟨rfl, unheld, unnamed, fact, aggregate, hdeciding, halone, hid⟩
      have hassigns := Assigns.colocation unheld unnamed hdeciding halone
      rwa [hid] at hassigns
  refine ⟨?_, hself⟩
  simp only [owner?_eq_some_iff, hself, exists_eq_left]

/-- An account that is declared as an aggregate and as an entity, and is alone in its namespace. -/
theorem owner?_resolve_account :
    (resolve standardSuffixes [.ofId "Bank.Account" .aggregate] [.ofId "Bank.Account" .entity]
      []).owner? "Bank.Account" = some "Bank.Account" := by
  decide +kernel

end Ownership

end DomainFlow
