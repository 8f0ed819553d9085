import DomainFlow.Proofs.DeclarationOrder
import DomainFlow.Proofs.Owners

/-!
# Repeated declarations

An extractor may report a type twice. What is read by id is read from the first declaration, and what
is collected is collected once, so a declaration that is reported again adds nothing to the graph as
a rule. There is one exception. Whether an aggregate is alone in its namespace is decided by the
number of declarations there, and an aggregate that is reported again is counted as two. An entity
that hangs on such an aggregate loses it, unless another of its declarations gives it the same owner.

## Main definitions

* `Repeats`: whether a list continues another one with elements that this one has already
* `Ownership.Redeclares`: whether the facts that ownership is resolved from repeat one type
* `Ownership.DecidesWithout`: whether a declaration of an entity gives it another owner
* `Ownership.HangsOn`: whether an entity has its owner only because a type is declared once
* `Batch.redeclare`: a batch that declares a type again

## Main results

* `Repeats.find?_eq`, `Repeats.isFirst_iff`: repetitions are never first
* `Ownership.Redeclares.owner?_eq_iff`: which entities keep their owners
* `Batch.analyze_redeclare_iff`: when a repeated declaration is absorbed
-/

namespace DomainFlow

/-! ## Lists with repetitions -/

/-- **Whether a list continues another one with elements that this one has already.** -/
def Repeats {α : Type} (l l' : List α) : Prop := ∃ extra, (∀ a ∈ extra, a ∈ l) ∧ l' = l ++ extra

namespace Repeats

variable {α β : Type} {l l' : List α} {a : α}

theorem append_singleton (ha : a ∈ l) : Repeats l (l ++ [a]) :=
  ⟨[a], fun _ hb => List.mem_singleton.1 hb ▸ ha, rfl⟩

theorem mem_iff (h : Repeats l l') : a ∈ l' ↔ a ∈ l := by
  obtain ⟨extra, hextra, rfl⟩ := h
  rw [List.mem_append]
  exact or_iff_left_of_imp (hextra a)

theorem filter (h : Repeats l l') (p : α → Bool) : Repeats (l.filter p) (l'.filter p) := by
  obtain ⟨extra, hextra, rfl⟩ := h
  refine ⟨extra.filter p, ?_, List.filter_append ..⟩
  intro a ha
  obtain ⟨hmem, hp⟩ := List.mem_filter.1 ha
  exact List.mem_filter.2 ⟨hextra a hmem, hp⟩

theorem flatMap (h : Repeats l l') (f : α → List β) : Repeats (l.flatMap f) (l'.flatMap f) := by
  obtain ⟨extra, hextra, rfl⟩ := h
  refine ⟨extra.flatMap f, ?_, List.flatMap_append⟩
  intro b hb
  obtain ⟨a, ha, hmem⟩ := List.mem_flatMap.1 hb
  exact List.mem_flatMap.2 ⟨a, hextra a ha, hmem⟩

/-- **Repetitions are never found first.** -/
theorem find?_eq (h : Repeats l l') (p : α → Bool) : l'.find? p = l.find? p := by
  obtain ⟨extra, hextra, rfl⟩ := h
  rw [List.find?_append]
  cases hfound : l.find? p with
  | some a => rfl
  | none =>
    rw [Option.none_or, List.find?_eq_none]
    exact fun a ha => List.find?_eq_none.1 hfound a (hextra a ha)

theorem isFirst_iff (h : Repeats l l') {p : α → Prop} : IsFirst p l' a ↔ IsFirst p l a := by
  rw [isFirst_iff_find?, isFirst_iff_find?, h.find?_eq]

end Repeats

/-- An element that comes again is never the only one with a property. -/
theorem filter_append_singleton_eq_iff {α : Type} {l : List α} {b : α} (hb : b ∈ l) {p : α → Bool}
    {a : α} : (l ++ [b]).filter p = [a] ↔ l.filter p = [a] ∧ a ≠ b := by
  rw [List.filter_append]
  by_cases hp : p b = true
  · have hmem : b ∈ l.filter p := List.mem_filter.2 ⟨hb, hp⟩
    rw [List.filter_cons_of_pos hp, List.filter_nil]
    refine iff_of_false ?_ ?_
    · intro htwice
      have hlength := congrArg List.length htwice
      have hpos := List.length_pos_of_mem hmem
      simp only [List.length_append, List.length_singleton] at hlength
      omega
    · rintro ⟨honly, hne⟩
      rw [honly, List.mem_singleton] at hmem
      exact hne hmem.symm
  · rw [List.filter_cons_of_neg hp, List.filter_nil, List.append_nil]
    refine (and_iff_left_of_imp ?_).symm
    rintro honly rfl
    have hmem : a ∈ l.filter p := by
      rw [honly]
      exact List.mem_singleton_self a
    exact hp (List.mem_filter.1 hmem).2

/-! ## Ownership -/

namespace Ownership

/-- **Whether the facts that ownership is resolved from repeat one type**: nothing is declared that
was not declared before, and a type that is declared again is alone with no entity any more. -/
structure Redeclares (fact : TypeFact) (aggregates aggregates' entities entities' : List TypeFact)
    (containment containment' : List Containment) : Prop where
  alone (decl aggregate : TypeFact) :
    AloneWith aggregates' decl aggregate ↔ AloneWith aggregates decl aggregate ∧ aggregate ≠ fact
  aggregates : Repeats aggregates aggregates'
  entities : Repeats entities entities'
  containment : Repeats containment containment'

/-- A declaration of an entity **decides without a type** if exactly one aggregate is in its namespace,
and this aggregate is another one. -/
def DecidesWithout (fact : TypeFact) (aggregates : List TypeFact) (entity : String)
    (decl : TypeFact) : Prop :=
  decl.id = entity ∧ ∃ a, AloneWith aggregates decl a ∧ a ≠ fact

/-- **An entity has its owner only because a type is declared once.** No aggregate owns the entity by
its members or its name; the declaration of the entity that decides by its namespace has that type
there as the only aggregate; and no declaration that decides without the type gives the entity an
owner of the same id. -/
structure HangsOn (suffixes : List String) (aggregates entities : List TypeFact)
    (containment : List Containment) (fact : TypeFact) (entity : String) : Prop where
  unheld : ∀ a ∈ aggregates, ¬HeldBy entities containment entity a
  unnamed : ∀ decl ∈ entities, decl.id = entity → ∀ a ∈ aggregates, ¬NamedAfter suffixes decl a
  alone : ∃ decl, IsFirst (fun decl => decl.id = entity ∧ ∃ a, AloneWith aggregates decl a)
    entities decl ∧ AloneWith aggregates decl fact
  lost : ∀ decl other, IsFirst (DecidesWithout fact aggregates entity) entities decl →
    AloneWith aggregates decl other → other.id ≠ fact.id

variable {suffixes : List String} {fact : TypeFact}
  {aggregates aggregates' entities entities' : List TypeFact}
  {containment containment' : List Containment} {entity owner : String}

theorem AloneWith.unique {decl a b : TypeFact} (ha : AloneWith aggregates decl a)
    (hb : AloneWith aggregates decl b) : a = b := by
  have hsame : [a] = [b] := ha.symm.trans hb
  exact List.singleton_inj.1 hsame

theorem owner?_resolve :
    (resolve suffixes aggregates entities containment).owner? entity =
      (((SortedMap.lookup entity
          (containmentClaims aggregates (fun id => entities.any (·.id = id)) containment)).or
        (SortedMap.lookup entity (namingClaims suffixes aggregates entities))).or
        (SortedMap.lookup entity (colocationClaims aggregates entities))).map (·.1) := by
  rw [owner?, get?_owners_resolve, claims, SortedMap.lookup_append, SortedMap.lookup_append]

/-- The owner of an entity by its namespace. -/
theorem owner_lookup_colocationClaims :
    (SortedMap.lookup entity (colocationClaims aggregates entities)).map (·.1) = some owner ↔
      ∃ decl a, IsFirst (fun decl => decl.id = entity ∧ ∃ a, AloneWith aggregates decl a)
        entities decl ∧ AloneWith aggregates decl a ∧ a.id = owner := by
  rw [Option.map_eq_some_iff, Prod.exists]
  simp only [lookup_colocationClaims]
  constructor
  · rintro ⟨_, _, ⟨-, hdecides⟩, rfl⟩
    exact hdecides
  · intro hdecides
    exact ⟨owner, .colocation, ⟨rfl, hdecides⟩, rfl⟩

namespace Redeclares

variable (h : Redeclares fact aggregates aggregates' entities entities' containment containment')

include h

theorem heldBy_eq : HeldBy entities' containment' = HeldBy entities containment := by
  funext entity aggregate
  simp only [HeldBy, h.entities.mem_iff, h.containment.mem_iff]

theorem lookup_containmentClaims_eq :
    SortedMap.lookup entity
        (containmentClaims aggregates' (fun id => entities'.any (·.id = id)) containment') =
      SortedMap.lookup entity
        (containmentClaims aggregates (fun id => entities.any (·.id = id)) containment) := by
  apply Option.ext
  rintro ⟨owner, tier⟩
  rw [lookup_containmentClaims, lookup_containmentClaims, h.heldBy_eq]
  simp only [h.entities.mem_iff, h.aggregates.isFirst_iff]

theorem lookup_namingClaims_eq :
    SortedMap.lookup entity (namingClaims suffixes aggregates' entities') =
      SortedMap.lookup entity (namingClaims suffixes aggregates entities) := by
  apply Option.ext
  rintro ⟨owner, tier⟩
  rw [lookup_namingClaims, lookup_namingClaims]
  simp only [h.entities.isFirst_iff, h.aggregates.isFirst_iff, h.aggregates.mem_iff]

/-- The owner of an entity by its namespace, after a type was declared again. -/
theorem owner_lookup_colocationClaims :
    (SortedMap.lookup entity (colocationClaims aggregates' entities')).map (·.1) = some owner ↔
      ∃ decl a, IsFirst (DecidesWithout fact aggregates entity) entities decl ∧
        (AloneWith aggregates decl a ∧ a ≠ fact) ∧ a.id = owner := by
  rw [Ownership.owner_lookup_colocationClaims]
  simp only [h.alone, h.entities.isFirst_iff]
  rfl

/-- A declaration that decides without the type decided before, or an earlier one did. -/
theorem lookup_colocationClaims_eq_none
    (hnone : (SortedMap.lookup entity (colocationClaims aggregates entities)).map (·.1) = none) :
    (SortedMap.lookup entity (colocationClaims aggregates' entities')).map (·.1) = none := by
  rw [Option.eq_none_iff_forall_ne_some]
  intro owner hafter
  obtain ⟨decl, a, hdecl, ⟨halone, -⟩, -⟩ := h.owner_lookup_colocationClaims.1 hafter
  have hdecides : ∃ decl ∈ entities, decl.id = entity ∧ ∃ a, AloneWith aggregates decl a :=
    ⟨decl, hdecl.mem, hdecl.holds.1, a, halone⟩
  obtain ⟨first, hfirst⟩ := exists_isFirst_iff.2 hdecides
  obtain ⟨-, b, hb⟩ := hfirst.holds
  have hbefore := Ownership.owner_lookup_colocationClaims.2 ⟨first, b, hfirst, hb, rfl⟩
  rw [hnone] at hbefore
  cases hbefore

/-- **Which entities keep their owners by namespace**: all but those that have the type declared again
for an owner and get no other one of the same id. -/
theorem owner_lookup_colocationClaims_eq_iff :
    (SortedMap.lookup entity (colocationClaims aggregates' entities')).map (·.1) =
        (SortedMap.lookup entity (colocationClaims aggregates entities)).map (·.1) ↔
      ¬((∃ decl, IsFirst (fun decl => decl.id = entity ∧ ∃ a, AloneWith aggregates decl a)
          entities decl ∧ AloneWith aggregates decl fact) ∧
        ∀ decl other, IsFirst (DecidesWithout fact aggregates entity) entities decl →
          AloneWith aggregates decl other → other.id ≠ fact.id) := by
  constructor
  · rintro hsame ⟨⟨decl, hdecl, halone⟩, hlost⟩
    have howner := Ownership.owner_lookup_colocationClaims.2 ⟨decl, fact, hdecl, halone, rfl⟩
    rw [← hsame, h.owner_lookup_colocationClaims] at howner
    obtain ⟨next, other, hnext, ⟨hother, -⟩, hid⟩ := howner
    exact hlost next other hnext hother hid
  · intro hkept
    cases hbefore : (SortedMap.lookup entity (colocationClaims aggregates entities)).map (·.1) with
    | none => exact h.lookup_colocationClaims_eq_none hbefore
    | some owner =>
      obtain ⟨decl, a, hdecl, halone, rfl⟩ := Ownership.owner_lookup_colocationClaims.1 hbefore
      rw [h.owner_lookup_colocationClaims]
      by_cases ha : a = fact
      · subst ha
        rw [not_and] at hkept
        have hnext := hkept ⟨decl, hdecl, halone⟩
        push Not at hnext
        obtain ⟨next, other, hnext, hother, hid⟩ := hnext
        obtain ⟨-, b, hb, hne⟩ := hnext.holds
        rw [hb.unique hother] at hne
        exact ⟨next, other, hnext, ⟨hother, hne⟩, hid⟩
      · have hwithout : DecidesWithout fact aggregates entity decl :=
          ⟨hdecl.holds.1, a, halone, ha⟩
        refine ⟨decl, a, hdecl.of_imp hwithout ?_, ⟨halone, ha⟩, rfl⟩
        rintro b ⟨hid, other, hother, -⟩
        exact ⟨hid, other, hother⟩

/-- **Which entities keep their owners** when a type is declared again. -/
theorem owner?_eq_iff :
    (resolve suffixes aggregates' entities' containment').owner? entity =
        (resolve suffixes aggregates entities containment).owner? entity ↔
      ¬HangsOn suffixes aggregates entities containment fact entity := by
  rw [owner?_resolve, owner?_resolve, h.lookup_containmentClaims_eq, h.lookup_namingClaims_eq]
  cases hclaim : (SortedMap.lookup entity
      (containmentClaims aggregates (fun id => entities.any (·.id = id)) containment)).or
      (SortedMap.lookup entity (namingClaims suffixes aggregates entities)) with
  | some claim =>
    refine iff_of_true rfl ?_
    intro hhangs
    have hnone := Option.or_eq_none_iff.2 ⟨lookup_containmentClaims_eq_none_iff.2 fun _ =>
      hhangs.unheld, lookup_namingClaims_eq_none_iff.2 hhangs.unnamed⟩
    rw [hclaim] at hnone
    cases hnone
  | none =>
    -- nothing is claimed on the stronger grounds, so the namespace decides
    rw [Option.none_or, Option.none_or, h.owner_lookup_colocationClaims_eq_iff, not_iff_not]
    rw [Option.or_eq_none_iff, lookup_containmentClaims_eq_none_iff,
      lookup_namingClaims_eq_none_iff] at hclaim
    obtain ⟨hunheld, hunnamed⟩ := hclaim
    constructor
    · rintro ⟨⟨decl, hdecl, halone⟩, hlost⟩
      exact ⟨hunheld ⟨decl, hdecl.mem, hdecl.holds.1⟩, hunnamed, ⟨decl, hdecl, halone⟩, hlost⟩
    · intro hhangs
      exact ⟨hhangs.alone, hhangs.lost⟩

end Redeclares

/-- The owners are written down as they are. -/
theorem facts_eq_iff {ownership other : Ownership} :
    ownership.facts = other.facts ↔ ∀ entity, ownership.owner? entity = other.owner? entity := by
  have hmem : ∀ (ownership : Ownership) entity owner,
      ⟨entity, owner⟩ ∈ ownership.facts ↔ ownership.owner? entity = some owner := by
    intro ownership entity owner
    rw [owner?_eq_some_iff, facts, List.mem_map]
    constructor
    · rintro ⟨⟨_, _, tier⟩, hentry, heq⟩
      cases heq
      exact ⟨tier, SortedMap.mem_entries_iff.1 hentry⟩
    · rintro ⟨tier, hfound⟩
      exact ⟨(entity, owner, tier), SortedMap.mem_entries_iff.2 hfound, rfl⟩
  constructor
  · intro hfacts entity
    apply Option.ext
    intro owner
    rw [← hmem, ← hmem, hfacts]
  · intro howners
    have hmap : ∀ ownership : Ownership, ownership.facts =
        (ownership.owners.map (·.1)).entries.map fun e => ⟨e.1, e.2⟩ := by
      intro ownership
      rw [facts, SortedMap.map, List.map_map]
      rfl
    have hsame : ownership.owners.map (·.1) = other.owners.map (·.1) := by
      apply SortedMap.ext_get?
      intro entity
      rw [SortedMap.get?_map, SortedMap.get?_map]
      exact howners entity
    rw [hmap, hmap, hsame]

end Ownership

/-! ## The contribution of a batch -/

namespace Batch

variable {batch : Batch} {settings : AnalysisSettings} {fact : TypeFact}

/-- **The batch with a type declared again.** -/
def redeclare (batch : Batch) (fact : TypeFact) : Batch := batch.withTypes (batch.types ++ [fact])

theorem mem_unresolved_iff {suffixes : List String} {id : String} :
    id ∈ (batch.ownership suffixes).unresolved ↔
      (∃ decl ∈ batch.typesOf .entity, decl.id = id) ∧
        (batch.ownership suffixes).owner? id = none := by
  rw [ownership, Ownership.unresolved_resolve, List.mem_filter, List.mem_map, decide_eq_true_iff]

section Redeclare

variable (hfact : fact ∈ batch.types)

include hfact

theorem repeats_redeclare : Repeats batch.types (batch.redeclare fact).types :=
  .append_singleton hfact

theorem redeclares_redeclare :
    Ownership.Redeclares fact (batch.typesOf .aggregate) ((batch.redeclare fact).typesOf .aggregate)
      (batch.typesOf .entity) ((batch.redeclare fact).typesOf .entity)
      batch.containment (batch.redeclare fact).containment where
  alone decl aggregate := by
    simp only [Ownership.AloneWith, typesOf, List.filter_filter]
    exact filter_append_singleton_eq_iff hfact
  aggregates := (repeats_redeclare hfact).filter _
  entities := (repeats_redeclare hfact).filter _
  containment := ((repeats_redeclare hfact).filter _).flatMap _

/-! Entities may keep their owners or not; with them everything else is kept. -/

variable (howners : ∀ entity,
  ((batch.redeclare fact).ownership settings.ownershipSuffixes).owner? entity =
    (batch.ownership settings.ownershipSuffixes).owner? entity)

include howners

theorem scope_redeclare_agrees :
    ((batch.redeclare fact).scope settings).Agrees (batch.scope settings) where
  find? _ := (repeats_redeclare hfact).find?_eq _
  owner? := howners

theorem sameGraph_redeclare :
    ((batch.redeclare fact).analyze settings).SameGraph (batch.analyze settings) := by
  have hclassification :
      (batch.redeclare fact).classification settings = batch.classification settings :=
    (scope_redeclare_agrees hfact howners).classify batch.calls
      (batch.events settings.mergeSameNameEvents)
  have hrelationships : ((batch.redeclare fact).analyze settings).relationships =
      (batch.analyze settings).relationships := congrArg (·.relationships.toList) hclassification
  refine ⟨?_, hrelationships, Ownership.facts_eq_iff.2 howners⟩
  rw [nodes_analyze, nodes_analyze, hrelationships]
  apply congrArg SortedMap.values
  apply SortedMap.ext_get?
  intro id
  have hdeclared : (declaredNodes (batch.redeclare fact).types).find? (·.id = id) =
      (declaredNodes batch.types).find? (·.id = id) :=
    ((repeats_redeclare hfact).flatMap TypeFact.nodes).find?_eq _
  have hendpoints : ∀ id, declaration? (batch.redeclare fact).types id = declaration? batch.types id :=
    fun id => (repeats_redeclare hfact).find?_eq _
  rw [get?_nodeMap, get?_nodeMap, List.find?_append, List.find?_append, hdeclared,
    endpointNodes_congr hendpoints]

theorem mem_unresolved_redeclare_iff {id : String} :
    id ∈ ((batch.redeclare fact).ownership settings.ownershipSuffixes).unresolved ↔
      id ∈ (batch.ownership settings.ownershipSuffixes).unresolved := by
  rw [mem_unresolved_iff, mem_unresolved_iff, howners]
  simp only [(redeclares_redeclare hfact).entities.mem_iff]

end Redeclare

/-- **When a repeated declaration is absorbed.** A batch that declares a type again adds the same to
the graph and leaves the same entities without owners, exactly if no entity hangs on the type. -/
theorem analyze_redeclare_iff (batch : Batch) (settings : AnalysisSettings) {fact : TypeFact}
    (hfact : fact ∈ batch.types) :
    (((batch.redeclare fact).analyze settings).SameGraph (batch.analyze settings) ∧
      ∀ id, id ∈ ((batch.redeclare fact).analyze settings).diagnostics.unresolvedEntities ↔
        id ∈ (batch.analyze settings).diagnostics.unresolvedEntities) ↔
    ∀ entity, ¬Ownership.HangsOn settings.ownershipSuffixes (batch.typesOf .aggregate)
      (batch.typesOf .entity) batch.containment fact entity := by
  have hkept : ∀ entity, ((batch.redeclare fact).ownership settings.ownershipSuffixes).owner? entity =
      (batch.ownership settings.ownershipSuffixes).owner? entity ↔
      ¬Ownership.HangsOn settings.ownershipSuffixes (batch.typesOf .aggregate)
        (batch.typesOf .entity) batch.containment fact entity :=
    fun entity => (redeclares_redeclare hfact).owner?_eq_iff
  constructor
  · rintro ⟨hsame, -⟩ entity
    rw [← hkept]
    exact Ownership.facts_eq_iff.1 hsame.ownership entity
  · intro hnone
    have howners := fun entity => (hkept entity).2 (hnone entity)
    exact ⟨sameGraph_redeclare hfact howners, fun _ => mem_unresolved_redeclare_iff hfact howners⟩

/-- A cart with a member for its products, which belong to it whatever else is in their namespace. -/
def cart : TypeFact :=
  { TypeFact.ofId "Shop.Cart" .aggregate with
    members := [⟨"products", .generic "List" "Shop.Product"⟩] }

/-- A module with a cart and its products. -/
def cartBatch : Batch where
  source := "shop"
  types := [cart, .ofId "Shop.Product" .entity]
  calls := []

theorem analyze_redeclare_cartBatch :
    cart ∈ cartBatch.types ∧
      ((cartBatch.redeclare cart).analyze Settings.standard.analysis).SameGraph
        (cartBatch.analyze Settings.standard.analysis) := by
  have hcart : cart ∈ cartBatch.types := List.mem_cons_self
  have hnone : ∀ entity, ¬Ownership.HangsOn Settings.standard.analysis.ownershipSuffixes
      (cartBatch.typesOf .aggregate) (cartBatch.typesOf .entity) cartBatch.containment cart entity := by
    intro entity hhangs
    obtain ⟨decl, hdecl, -⟩ := hhangs.alone
    have hproduct : decl ∈ [.ofId "Shop.Product" .entity] := hdecl.mem
    obtain rfl := List.mem_singleton.1 hproduct
    obtain rfl := hdecl.holds.1
    have hheld : Ownership.HeldBy (cartBatch.typesOf .entity) cartBatch.containment "Shop.Product"
        cart :=
      ⟨by decide, ⟨"Shop.Cart", "products", .generic "List" "Shop.Product"⟩, by decide, rfl,
        .inr ⟨by decide, rfl⟩⟩
    exact hhangs.unheld cart (by decide) hheld
  exact ⟨hcart, ((analyze_redeclare_iff cartBatch Settings.standard.analysis hcart).2 hnone).1⟩

/-- A module whose payments belong to invoices for being in one namespace with them. -/
def paymentBatch : Batch where
  source := "billing"
  types := [.ofId "Billing.Invoice" .aggregate, .ofId "Billing.Payment" .entity]
  calls := []

/-- The payments lose their owner when the invoices are declared again. -/
theorem ownership_redeclare_paymentBatch :
    .ofId "Billing.Invoice" .aggregate ∈ paymentBatch.types ∧
      (paymentBatch.analyze Settings.standard.analysis).ownership =
        [⟨"Billing.Payment", "Billing.Invoice"⟩] ∧
      ((paymentBatch.redeclare (.ofId "Billing.Invoice" .aggregate)).analyze
        Settings.standard.analysis).ownership = [] := by
  refine ⟨by decide, ?_, ?_⟩ <;> decide +kernel

end Batch

end DomainFlow
