import DomainFlow.Flow

/-!
# Entry points

The nodes at which chains start because nothing before triggers them. First come the methods of
controllers, endpoints and command senders that send a command and are not triggered themselves.
Event handlers follow in rounds. A handler is left out once it, or one of its events, lies
downstream of an entry point; of the others, those that no other one leads to become entry points,
and if each is led to by another one, the first becomes an entry point.

## Main definitions

* `EntryPoint`, with its `EntryKind`
* `Store.origins`: the entry points that send commands
* `chooseHandlers`: the rounds that choose among event handlers
* `Store.entryPoints`: all entry points, by kind and then by id
-/

namespace DomainFlow

/-- **Why a chain starts at a node.** The order of the kinds is the order of the chains. -/
inductive EntryKind
  | commandOrigin
  | domainEventHandler
  | integrationEventHandler
  deriving DecidableEq

namespace EntryKind

/-- All kinds, in their order. -/
def all : List EntryKind := [.commandOrigin, .domainEventHandler, .integrationEventHandler]

/-- The name a kind is written by. -/
def name : EntryKind → String
  | commandOrigin => "CommandOrigin"
  | domainEventHandler => "DomainEventHandler"
  | integrationEventHandler => "IntegrationEventHandler"

/-- The kind of a name. -/
def ofName? (text : String) : Option EntryKind := all.find? (·.name == text)

theorem ofName?_name (kind : EntryKind) : ofName? kind.name = some kind := by
  cases kind <;> decide

/-- The place of a kind in the order of the kinds. -/
def rank (kind : EntryKind) : Nat := kind.ctorIdx

theorem eq_of_rank_eq {a b : EntryKind} (h : a.rank = b.rank) : a = b := by
  cases a <;> cases b <;> first | rfl | cases h

instance : Ord EntryKind := ⟨compareOn rank⟩

instance : Std.TransOrd EntryKind := inferInstanceAs (Std.TransCmp (compareOn rank))

instance : Std.LawfulEqOrd EntryKind where
  compare_self := Nat.compare_eq_eq.2 rfl
  eq_of_compare h := eq_of_rank_eq (Nat.compare_eq_eq.1 h)

end EntryKind

/-- What identifies an entry point: its kind and its node. -/
structure EntryKey where
  kind : EntryKind
  nodeId : String
  deriving DecidableEq

namespace EntryKey

/-- The order of entry points: by kind, then by node. -/
def order : EntryKey → EntryKey → Ordering := compareLex (compareOn kind) (compareOn nodeId)

instance : Ord EntryKey := ⟨order⟩

instance : Std.TransOrd EntryKey :=
  inferInstanceAs (Std.TransCmp (compareLex (compareOn kind) (compareOn nodeId)))

theorem compare_eq_iff {a b : EntryKey} : compare a b = .eq ↔ a = b := by
  change order a b = .eq ↔ a = b
  cases a; cases b
  simp only [order, compareLex_eq_eq, compareOn, Std.compare_eq_iff_eq, mk.injEq]

instance : Std.LawfulEqOrd EntryKey where
  compare_self := compare_eq_iff.2 rfl
  eq_of_compare := compare_eq_iff.1

end EntryKey

/-- **A node at which a chain starts**, and why. -/
structure EntryPoint where
  nodeId : String
  kind : EntryKind
  reasoning : String
  deriving DecidableEq

/-! ## Command origins -/

/-- The kinds of types that send commands on a request from outside. -/
def NodeKind.sendsOnRequest : NodeKind → Bool
  | controller | endpoint | commandSender => true
  | _ => false

/-- The kinds of relationships that carry a flow to their targets. -/
def RelationshipKind.triggers : RelationshipKind → Bool
  | commandToAggregateMethod | methodToDomainEvent | domainEventToIntegrationEvent => true
  | _ => false

namespace Store

/-- The nodes that a flow is carried to. -/
def triggered (store : Store) : SortedSet String :=
  .ofList ((store.relationships.toList.filter (·.kind.triggers)).map store.targetId)

/-- The command origin that a relationship shows, and the reason. A flow must not be carried to
it. -/
def origin? (store : Store) (triggered : SortedSet String) (r : Relationship) :
    Option (EntryKey × String) := do
  guard (r.kind = .methodToCommand)
  let origin ← store.node? r.source.typeId
  guard origin.kind.sendsOnRequest
  guard (store.sourceId r ∉ triggered)
  some (⟨.commandOrigin, store.sourceId r⟩, origin.kind.name ++ " sends " ++ r.target.typeId)

/-- **The command origins**, each with the reason that its first command gives. -/
def origins (store : Store) : SortedMap EntryKey String :=
  let triggered := store.triggered
  .ofFirst (store.relationships.toList.filterMap (store.origin? triggered))

end Store

/-! ## Event handlers -/

/-- An event handler as an entry point, with the events that it handles. -/
structure Handler where
  key : EntryKey
  events : List String
  deriving DecidableEq

/-- The kind of the entry point at the target of a relationship of this kind. -/
def RelationshipKind.handlerKind? : RelationshipKind → Option EntryKind
  | domainEventToHandler => some .domainEventHandler
  | integrationEventToHandler => some .integrationEventHandler
  | _ => none

/-- The event handlers of a graph. -/
def Store.handlers (store : Store) : List Handler :=
  (SortedMap.ofGroups (store.relationships.toList.filterMap fun r =>
    r.kind.handlerKind?.map fun kind => ((⟨kind, store.targetId r⟩ : EntryKey), store.sourceId r)))
    |>.entries.map fun (key, events) => ⟨key, events⟩

/-- Whether neither a handler nor any of its events has been traced. -/
def Handler.untraced (traced : SortedSet String) (handler : Handler) : Bool :=
  !traced.contains handler.key.nodeId && handler.events.all (!traced.contains ·)

/-- The handlers that no other one leads to; if there are none, the first handler. -/
def rootHandlers (edges : List (String × String)) (handlers : List Handler) : List Handler :=
  let reaches := handlers.map fun other => (other.key, reachable edges [other.key.nodeId])
  match handlers.filter fun handler => reaches.all fun (key, reached) =>
      key = handler.key || !reached.contains handler.key.nodeId with
  | [] => handlers.take 1
  | roots => roots

theorem exists_mem_rootHandlers (edges : List (String × String)) {handlers : List Handler}
    (h : handlers ≠ []) : ∃ handler ∈ handlers, handler ∈ rootHandlers edges handlers := by
  rw [rootHandlers]
  split
  · cases handlers with
    | nil => exact absurd rfl h
    | cons first rest => exact ⟨first, by simp, by simp⟩
  · next hne =>
    obtain ⟨root, hroot⟩ := List.exists_mem_of_ne_nil _ hne
    exact ⟨root, (List.mem_filter.1 hroot).1, hroot⟩

/-- The handlers that have not been traced. -/
def untracedHandlers (traced : SortedSet String) (handlers : List Handler) : List Handler :=
  handlers.filter (·.untraced traced)

/-- The handlers that are not chosen in a round. -/
def otherHandlers (edges : List (String × String)) (handlers : List Handler) : List Handler :=
  handlers.filter (· ∉ rootHandlers edges handlers)

theorem length_otherHandlers_lt (edges : List (String × String)) {handlers : List Handler}
    (h : handlers ≠ []) : (otherHandlers edges handlers).length < handlers.length := by
  obtain ⟨root, hmem, hroot⟩ := exists_mem_rootHandlers edges h
  exact List.length_filter_lt_length_iff_exists.2 ⟨root, hmem, by simpa using hroot⟩

/-- **The rounds that choose among event handlers.** A round keeps the untraced handlers, chooses
the roots among them, and traces what these lead to. -/
def chooseHandlers (edges : List (String × String)) (traced : SortedSet String)
    (pending : List Handler) : List Handler :=
  let untraced := untracedHandlers traced pending
  if untraced = [] then []
  else
    let roots := rootHandlers edges untraced
    -- handlers that the roots lead to are sorted out at the start of the next round
    roots ++ chooseHandlers edges (traced ∪ reachable edges (roots.map (·.key.nodeId)))
      (otherHandlers edges untraced)
termination_by pending.length
decreasing_by
  rename_i h
  exact Nat.lt_of_lt_of_le (length_otherHandlers_lt edges h) (List.length_filter_le ..)

/-! ## All entry points -/

namespace Store

/-- All entry points with their reasons; a node may be found in several kinds. -/
def foundEntries (store : Store) : SortedMap EntryKey String :=
  let traced := reachable store.edges (store.origins.keys.map (·.nodeId))
  .ofFirst (store.origins.entries ++
    (chooseHandlers store.edges traced store.handlers).map fun handler =>
      (handler.key, "Handles untraced " ++ ", ".intercalate handler.events))

/-- **The entry points of a graph**, by kind and then by id. A node that is found in several kinds
counts in the first one. -/
def entryPoints (store : Store) : List EntryPoint :=
  let found := store.foundEntries
  -- an entry is dropped if its node is also found in an earlier kind
  (found.entries.filter fun (key, _) => EntryKind.all.all fun kind =>
    !(compare kind key.kind = .lt && found.contains ⟨kind, key.nodeId⟩)).map
    fun (key, reasoning) => ⟨key.nodeId, key.kind, reasoning⟩

end Store

end DomainFlow
