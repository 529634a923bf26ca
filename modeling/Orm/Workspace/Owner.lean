import Orm.Context.Writes

/-!
# Owners of entities

An owner is told of the edits of its entities and submits them. It is a context, or a bare owner:
a pending set that knows the schema from a description and needs no catalog.
-/

namespace Orm

/-- A description of a schema, whose relationships may be unknown for some reason. -/
structure SchemaDescription where
  columns : NameMap ColumnMap
  relationships : Except String (List Relationship)

namespace SchemaDescription

/-- The columns of a described table. -/
def columnsOf (schema : SchemaDescription) (table : Table) : Except ProviderError ColumnMap :=
  match schema.columns.find? table.fullName with
  | some columns => .ok columns
  | none => .error (.unknownTable table.fullName)

/-- The relationships of a table, described or not. -/
def relationshipsOf (schema : SchemaDescription) (table : Table) :
    Except ProviderError RelationshipSet :=
  match schema.relationships with
  | .error reason => .error (.driver (.discovery reason))
  | .ok relationships => .ok (RelationshipSet.partition table relationships)

/-- A described schema as submissions see it. -/
def source {σ : Type} (schema : SchemaDescription) : SchemaSource σ where
  columns table := return schema.columnsOf table
  relationships table := return schema.relationshipsOf table

end SchemaDescription

/-- A pending set with what it needs for a submission. An owner that announces notes what it is
told in the journal and describes the tables of its entities. -/
structure BareOwner where
  schema : SchemaDescription
  dialect : Dialect
  transaction : TransactionOptions
  commandTimeout : Option Nat
  announces : Bool

namespace BareOwner

/-- The hash that stands for the connection of a bare owner, which has no connection string. -/
def hash : String := "hash"

/-- The columns of a table as the entities of the owner see them. -/
def columns (owner : BareOwner) (table : Table) : ColumnMap :=
  if owner.announces then (owner.schema.columns.find? table.fullName).getD .empty else .empty

/-- Submits the pending changes in one of two ways. -/
def submitBy {σ : Type} (owner : BareOwner) (connection : Connection σ)
    (apply : SchemaSource (Surroundings σ) → Connection (Surroundings σ) → Dialect →
      TransactionOptions → Tracked →
      StateM (Surroundings σ) (Except PersistError Nat × Tracked)) :
    StateM (Desk σ) (Except PersistError Nat) := fun desk =>
  let ((result, tracked), around) :=
    apply owner.schema.source (Surroundings.announced connection hash owner.commandTimeout)
      owner.dialect owner.transaction desk.tracked desk.around
  (result, ⟨tracked, around⟩)

end BareOwner

/-- The kinds of owners. -/
inductive OwnerKind (σ : Type)
  | context (context : Context σ)
  | bare (owner : BareOwner)

/-- Whether an owner notes in the journal what it is told. -/
def OwnerKind.announces {σ : Type} : OwnerKind σ → Bool
  | .context _ => false
  | .bare owner => owner.announces

/-- An owner with what it keeps. One that is no longer alive is told nothing. -/
structure Owner (σ : Type) where
  kind : OwnerKind σ
  pending : PendingSet
  cache : SchemaCache
  events : EventRegistry
  watchers : Subscriptions Nat
  isAlive : Bool

namespace Owner

/-- An owner that was told nothing yet. -/
def fresh {σ : Type} (kind : OwnerKind σ) (cache : SchemaCache) : Owner σ :=
  ⟨kind, .empty, cache, .empty, .empty, true⟩

/-- The columns of a table as the entities of an owner see them; a context that does not know them
asks its catalog. -/
def columns {σ : Type} (owner : Owner σ) (table : Table) : StateM (Desk σ) ColumnMap :=
  match owner.kind with
  | .bare owner => return owner.columns table
  | .context context => do
      match ← context.columns table with
      | .ok columns => return columns
      | .error _ => return .empty

end Owner

end Orm
