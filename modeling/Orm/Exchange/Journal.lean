import Orm.Exchange.Command

/-!
# Exchanged entities and journals

An entity is shown with its identity, its state and its values, an entry of a journal as an array
that begins with the name of what happened.
-/

namespace Orm

/-- The exchanged form of an entity. -/
def Entity.toExchange (entity : Entity) (id : EntityId) : Json :=
  .object [("id", .ofNat id.number), ("table", entity.table.toExchange),
    ("state", .text entity.state.label),
    ("modified", .ofList .text entity.state.modifiedColumns),
    ("values", .ofPairs Value.toExchange entity.values.toList)]

/-- The exchanged form of an entity with what may be done with it. -/
def Entity.statusToExchange (entity : Entity) (id : EntityId) : Json :=
  .object [("entity", entity.toExchange id), ("dirty", .bool entity.state.isDirty),
    ("edits", .bool entity.state.acceptsEdits), ("conflict", .text entity.onConflict.label),
    ("model", ColumnMap.toExchange entity.columns)]

/-- The exchanged form of the values of an entity with the descriptions of their columns. -/
def Entity.describedToExchange (entity : Entity) : Json :=
  .ofList (fun (name, value, column) =>
    .array [.text name, value.toExchange, .ofOption Column.toExchange column])
    entity.describedValues

/-- The numbers of the entities of a pending set that have something to write. -/
def PendingSet.dirtyToExchange (pending : PendingSet) (store : EntityStore) : Json :=
  .ofList (fun id => .ofNat id.number) (pending.dirty store)

/-- The exchanged form of a pending set. -/
def PendingSet.toExchange (pending : PendingSet) (store : EntityStore) : Json :=
  .object [("dirty", pending.dirtyToExchange store), ("len", .ofNat pending.size),
    ("empty", .bool pending.isEmpty), ("tables", .ofList Table.toExchange (pending.tables store))]

/-- The exchanged form of a write plan. -/
def WritePlan.toExchange (plan : WritePlan) : Json :=
  .object [("steps", .ofList (fun step =>
      .array [.text step.operation.label, .ofNat step.entity.number]) plan.steps),
    ("len", .ofNat plan.size), ("empty", .bool (plan.size = 0))]

/-- The exchanged form of a command that a subscriber is told of; the hash is cut short. -/
def CommandEvent.toExchange (event : CommandEvent) (subscriber : Nat) : Json :=
  .array [.text "event", .text (toString subscriber), .text event.rawTextWithParams,
    .text (String.ofList (event.connectionHash.toList.take 8))]

/-- How long a subscriber stays, by a member of a document. -/
def ListenerKind.memberOfExchange? (document : Json) : Option ListenerKind := do
  return if ← document.memberOr? "once" false Json.asBool? then .once else .steady

/-- The exchanged form of an entry of a journal. -/
def JournalEntry.toExchange : JournalEntry → Json
  | .connect connectionString => .array [.text "connect", .text connectionString]
  | .start options =>
      .array [.text "begin", .text options.isolation.title, .ofOption .ofNat options.timeout]
  | .commit => .array [.text "commit"]
  | .rollback => .array [.text "rollback"]
  | .execute command => command.toExchange
  | .discover what target => .array [.text "discover", .text what, .text target]
  | .event subscriber told => told.toExchange subscriber
  | .property watcher entity column =>
      .array [.text "property", .ofNat watcher, .ofNat entity.number, .text column]
  | .tracked entity => .array [.text "track", .ofNat entity.number]
  | .forgotten entity => .array [.text "forget", .ofNat entity.number]
  | .changed entity column => .array [.text "changed", .ofNat entity.number, .text column]

end Orm
