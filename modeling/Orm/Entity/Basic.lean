import Orm.Database.Transaction
import Orm.Entity.State
import Orm.Schema.Column
import Orm.Schema.Relationship
import Orm.Value.Typed

/-!
# Entities

An `Entity` is a row of a table, or a part of a joined row, with the state of its changes. Reads
never change it. `Entity.write` is the edit of one column: it fails without effect, or stores the
value as the column keeps it and records the edit.
-/

namespace Orm

/-- The owner of an entity, who is told of its edits. -/
structure OwnerId where
  index : Nat
deriving DecidableEq, Repr, Inhabited

/-- A reference to a parent row whose key may not be known yet. -/
structure ParentLink where
  relationship : Relationship
  parent : EntityId
deriving DecidableEq, Repr

/-- A row with the state of its changes. `aliases` are the rows carved out of it so far. -/
structure Entity where
  table : Table
  columns : ColumnMap
  owner : Option OwnerId
  values : NameMap Value
  state : EntityState
  onConflict : ConflictPolicy
  aliases : NameMap EntityId
  links : List ParentLink
deriving DecidableEq, Inhabited

/-- Why an entity cannot be edited, read or mapped. -/
inductive EntityError
  | invalidOperation (table : Table) (column state : String)
  | unknownColumn (table : Table) (column : String)
  | coercion (table : Table) (column : String) (cause : CoercionError)
  | relationshipMismatch (relationship : String) (parent child : Table)
  | mapping (column field : String) (cause : CoercionError)
deriving DecidableEq, Repr

/-- The text of an entity error. -/
def EntityError.message : EntityError → String
  | .invalidOperation table column state =>
      s!"cannot edit column '{column}' of " ++ table.fullName ++ s!": entity is {state}"
  | .unknownColumn table column => s!"unknown column '{column}' on " ++ table.fullName
  | .coercion table column cause =>
      s!"column '{column}' of " ++ table.fullName ++ ": " ++ cause.message
  | .relationshipMismatch relationship parent child =>
      s!"relationship '{relationship}' does not link " ++ parent.fullName ++ " to " ++
        child.fullName
  | .mapping column field cause =>
      s!"cannot map column '{column}' onto field '{field}': " ++ cause.message

namespace Entity

/-- A row in a given state. -/
def ofValues (table : Table) (columns : ColumnMap) (owner : Option OwnerId)
    (values : NameMap Value) (state : EntityState) : Entity where
  table := table
  columns := columns
  owner := owner
  values := values
  state := state
  onConflict := .throw
  aliases := .empty
  links := []

/-- A row that was read from the database; of two values for one column the later counts. -/
def materialized (table : Table) (columns : ColumnMap) (owner : Option OwnerId)
    (values : List (String × Value)) : Entity :=
  ofValues table columns owner (NameMap.ofList values) .unchanged

/-- A new row without values. -/
def fresh (table : Table) (columns : ColumnMap) (owner : Option OwnerId) : Entity :=
  ofValues table columns owner .empty .created

/-- The value of a column that is present and not null. -/
def present? (entity : Entity) (column : String) : Option Value :=
  (entity.values.find? column).filter fun value => !value.isNull

/-- Whether a column is present and not null. -/
def hasValue (entity : Entity) (column : String) : Bool := (entity.present? column).isSome

/-- A column read as a type; one that is absent or null reads as the default of the type. -/
def get {α : Type} [Readable α] (entity : Entity) (column : String) : Except EntityError α :=
  match entity.present? column with
  | none => .ok Readable.nullDefault
  | some value => (Readable.ofValue value).mapError (.coercion entity.table column)

/-- A column read as a type; one that is absent or null reads as none. -/
def getOption {α : Type} [Readable α] (entity : Entity) (column : String) :
    Except EntityError (Option α) :=
  match entity.present? column with
  | none => .ok none
  | some value => ((Readable.ofValue value).map some).mapError (.coercion entity.table column)

/-- The values with the descriptions of their columns, in the order of their names. -/
def describedValues (entity : Entity) : List (String × Value × Option Column) :=
  entity.values.toList.map fun entry => (entry.1, entry.2, entity.columns.find? entry.1)

/-- The primary-key columns with those of their values that are not null. -/
def primaryKeyValues (entity : Entity) : List (String × Option Value) :=
  entity.columns.primaryKeys.map fun name => (name, entity.present? name)

/-- A value as the column keeps it. Without descriptions of columns every value is kept as it
is. -/
def coerceFor (entity : Entity) (column : String) (value : Value) : Except EntityError Value :=
  if entity.columns.isEmpty then .ok value
  else match entity.columns.find? column with
    | none => .error (.unknownColumn entity.table column)
    | some description =>
        (value.coerce description.affinity).mapError (.coercion entity.table column)

/-- The entity after an edit of a column; no value removes the entry. -/
def write (entity : Entity) (column : String) (value : Option Value) :
    Except EntityError Entity :=
  if entity.state.acceptsEdits then do
    let values ← match value with
      | none => .ok (entity.values.erase column)
      | some value =>
          (entity.coerceFor column value).map fun value => entity.values.insert column value
    return { entity with values := values, state := entity.state.recordEdit column }
  else .error (.invalidOperation entity.table column entity.state.label)

/-- The entity with a value stored as it is and no edit recorded. -/
def store (entity : Entity) (column : String) (value : Value) : Entity :=
  { entity with values := entity.values.insert column value }

/-- The entity with some values stored as they are. -/
def storeAll (entity : Entity) (values : List (String × Value)) : Entity :=
  values.foldl (fun entity entry => entity.store entry.1 entry.2) entity

/-- The entity with a column filled, if the value is not null and the column has none. -/
def fillIfAbsent? (entity : Entity) (column : String) (value : Value) : Option Entity :=
  if value.isNull ∨ entity.hasValue column then none else some (entity.store column value)

/-- The entity without the entry of a column. -/
def clearValue (entity : Entity) (column : String) : Entity :=
  { entity with values := entity.values.erase column }

/-- The entity after its insert or update was committed. -/
def accepted (entity : Entity) : Entity := { entity with state := .unchanged, links := [] }

/-- The entity after its delete was committed. -/
def markedDeleted (entity : Entity) : Entity := { entity with state := .deleted }

end Entity

end Orm
