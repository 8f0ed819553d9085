import DomainFlow.Fact
import DomainFlow.Ordered.Map

/-!
# Ownership of entities

An entity belongs to at most one aggregate. Claims of ownership are made on three grounds: an
aggregate declares a member that holds the entity, the name of the entity extends the name of an
aggregate, or an aggregate is the only one in the entity's namespace. The grounds are tried in
this order, and within one ground the order of the declarations counts, so the owner of an entity
is the one of its first claim.

## Main definitions

* `Tier`: the ground of a claim
* `extendsName`: whether the name of an entity extends the name of an aggregate
* `containmentClaims`, `namingClaims`, `colocationClaims`: the claims on each ground, in order
* `Ownership.resolve`: the owners of the entities, and the entities without an owner

## Main results

* `Ownership.get?_owners_resolve`: the first claim on an entity decides
-/

namespace DomainFlow

/-- **The ground of a claim of ownership.** -/
inductive Tier
  /-- The aggregate declares a member holding the entity. -/
  | containment
  /-- The name of the entity extends the name of the aggregate. -/
  | naming
  /-- The aggregate is the only one in the entity's namespace. -/
  | colocation
  deriving DecidableEq

namespace Tier

/-- All grounds, in the order in which they are tried. -/
def all : List Tier := [.containment, .naming, .colocation]

/-- The name a ground is written by. -/
def name : Tier → String
  | containment => "Containment"
  | naming => "Naming"
  | colocation => "Namespace"

/-- The ground of a name. -/
def ofName? (text : String) : Option Tier := all.find? (·.name == text)

end Tier

/-- A claim: an aggregate owns an entity, on some ground. -/
abbrev Claim := String × String × Tier

/-! ## Claims by containment -/

/-- The entity that a reference holds: the type itself, or the single argument of a container. -/
def TypeRef.held? (ref : TypeRef) (isEntity : String → Bool) : Option String :=
  if isEntity ref.id then some ref.id
  else
    match ref.arguments with
    | [argument] => if isEntity argument then some argument else none
    | _ => none

/-- The claims of the members of aggregates. No aggregate claims itself. -/
def containmentClaims (aggregates : List TypeFact) (isEntity : String → Bool)
    (containment : List Containment) : List Claim :=
  aggregates.flatMap fun aggregate =>
    (containment.filter (·.aggregate = aggregate.id)).filterMap fun fact =>
      match fact.memberType.held? isEntity with
      | some entity =>
        if entity = aggregate.id then none else some (entity, aggregate.id, .containment)
      | none => none

/-! ## Claims by naming -/

/-- The text before a given end. -/
def stripEnd? (last text : List Char) : Option (List Char) :=
  if last.isSuffixOf text then some (text.take (text.length - last.length)) else none

/-- Equality of ASCII letters regardless of case. -/
def sameLetters (a b : List Char) : Bool := a.map Char.toLower == b.map Char.toLower

/-- **Whether the name of an entity extends the name of an aggregate**: it continues that name, or
is that name, case aside, followed by one of the suffixes. -/
def extendsName (suffixes : List String) (entity aggregate : String) : Bool :=
  aggregate ≠ "" &&
    (aggregate.toList.isPrefixOf entity.toList && aggregate.length < entity.length ||
      suffixes.any fun suffix =>
        match stripEnd? suffix.toList entity.toList with
        | some base => sameLetters base aggregate.toList
        | none => false)

/-- The claims by name: of the aggregates that an entity is named after, the first one. -/
def namingClaims (suffixes : List String) (aggregates entities : List TypeFact) : List Claim :=
  entities.filterMap fun entity =>
    (aggregates.find? fun aggregate =>
      aggregate.id ≠ entity.id && extendsName suffixes entity.name aggregate.name).map
      fun aggregate => (entity.id, aggregate.id, .naming)

/-! ## Claims by namespace -/

/-- The claims by namespace: an aggregate that shares it with an entity and with no other
aggregate. -/
def colocationClaims (aggregates entities : List TypeFact) : List Claim :=
  entities.filterMap fun entity =>
    match aggregates.filter (·.namespaceName = entity.namespaceName) with
    | [only] => some (entity.id, only.id, .colocation)
    | _ => none

/-! ## Resolution -/

/-- **The owners of entities**, and the entities that have none. -/
structure Ownership where
  owners : SortedMap String (String × Tier)
  unresolved : List String
  deriving DecidableEq

namespace Ownership

/-- The owner of an entity. -/
def owner? (ownership : Ownership) (entity : String) : Option String :=
  (ownership.owners.get? entity).map (·.1)

/-- The ground on which an entity has its owner. -/
def tier? (ownership : Ownership) (entity : String) : Option Tier :=
  (ownership.owners.get? entity).map (·.2)

/-- Whether an entity has an owner. -/
def isOwned (ownership : Ownership) (entity : String) : Bool := ownership.owners.contains entity

/-- The suffixes that an entity may add to the name of its aggregate, unless configured. -/
def standardSuffixes : List String := ["Item", "Detail", "Info", "Line"]

/-- All claims, in the order in which they count. -/
def claims (suffixes : List String) (aggregates entities : List TypeFact)
    (containment : List Containment) : List Claim :=
  containmentClaims aggregates (fun id => entities.any (·.id = id)) containment ++
    namingClaims suffixes aggregates entities ++ colocationClaims aggregates entities

/-- **Resolution**: the first claim on an entity decides. -/
def resolve (suffixes : List String) (aggregates entities : List TypeFact)
    (containment : List Containment) : Ownership :=
  -- the claims are in the order of their grounds, so a stronger ground wins
  let owners := SortedMap.ofFirst (claims suffixes aggregates entities containment)
  ⟨owners, (entities.map (·.id)).filter fun id => !owners.contains id⟩

/-- **The first claim on an entity decides.** -/
theorem get?_owners_resolve (suffixes : List String) (aggregates entities : List TypeFact)
    (containment : List Containment) (entity : String) :
    (resolve suffixes aggregates entities containment).owners.get? entity =
      SortedMap.lookup entity (claims suffixes aggregates entities containment) :=
  SortedMap.get?_ofFirst _ _

end Ownership

/-- The ownership of the entities of a batch. -/
def Batch.ownership (batch : Batch) (suffixes : List String) : Ownership :=
  .resolve suffixes (batch.typesOf .aggregate) (batch.typesOf .entity) batch.containment

end DomainFlow
