import Orm.Change.Error
import Orm.Entity.Basic
import Orm.Sql.Lookup

/-!
# Statements that write an entity

The insert, the update and the delete of an entity under a dialect. Each is a list of pieces and
the values that its slots take, numbered from zero in the order of their occurrence.
-/

namespace Orm

/-- A statement that writes an entity. `readsIdentity` says that its result holds the key that the
database assigned. -/
structure WriteStatement where
  operation : WriteOperation
  pieces : SqlPieces
  values : List Value
  readsIdentity : Bool
deriving DecidableEq

namespace WriteStatement

/-- The command of a statement. -/
def command (statement : WriteStatement) (dialect : Dialect) : Command :=
  dialect.command statement.pieces statement.values

/-- The name that stands for the key of a table without one. -/
def noKey : String := "(no primary key)"

/-- The first key without a value; a table without keys lacks one too. -/
def missingKey (keys : List String) (isPresent : String → Bool) : Option String :=
  if keys.isEmpty then some noKey else keys.find? fun key => !isPresent key

/-- The values that an insert stores: those that are not null and in columns of the table. -/
def insertedValues (entity : Entity) (columns : ColumnMap) : List (String × Value) :=
  entity.values.toList.filter fun entry =>
    !entry.2.isNull && (columns.isEmpty || columns.contains entry.1)

/-- The insert that resolves a conflict. -/
def upsert (dialect : Dialect) (entity : Entity) (columns : ColumnMap) :
    Except PersistError WriteStatement :=
  let policy := entity.onConflict
  let values := insertedValues entity columns
  let names := values.map Prod.fst
  let keys := columns.primaryKeys
  if !dialect.supports policy then
    .error (.unsupportedConflictPolicy policy dialect.name)
  else match missingKey keys fun key => key ∈ names with
    | some column => .error (.missingPrimaryKey entity.table .insert column)
    | none =>
        match dialect.upsert ⟨entity.table, names.mapIdx fun index name => (name, .slot index),
            keys, policy⟩ with
        | none => .error (.unsupportedConflictPolicy policy dialect.name)
        | some pieces => .ok ⟨.insert, pieces, values.map Prod.snd, false⟩

/-- The insert that fails on a conflict. If the only key has no value, the one that the database
assigns is read back. -/
def plainInsert (dialect : Dialect) (entity : Entity) (columns : ColumnMap) : WriteStatement :=
  let values := insertedValues entity columns
  let names := values.map Prod.fst
  let pieces : SqlPieces :=
    [.word "INSERT INTO ", .table entity.table] ++
      if names.isEmpty then [.word " DEFAULT VALUES"]
      else
        .word " (" :: separated ", " (names.map fun name => [.name name]) ++
          [.word ") VALUES ("] ++
          separated ", " (names.mapIdx fun index _ => [.slot index]) ++ [.word ")"]
  match columns.primaryKeys, dialect.identityQuery with
  | [key], some identity =>
      if key ∈ names then ⟨.insert, pieces, values.map Prod.snd, false⟩
      else ⟨.insert, pieces ++ [.word "; ", .word identity], values.map Prod.snd, true⟩
  | _, _ => ⟨.insert, pieces, values.map Prod.snd, false⟩

/-- The insert of an entity. -/
def insert (dialect : Dialect) (entity : Entity) (columns : ColumnMap) :
    Except PersistError WriteStatement :=
  if entity.onConflict = .throw then .ok (plainInsert dialect entity columns)
  else upsert dialect entity columns

/-- The keys of an entity with their values, all of which must be present. -/
def keyValues (entity : Entity) (keys : List String) (operation : WriteOperation) :
    Except PersistError (List (String × Value)) :=
  match missingKey keys entity.hasValue with
  | some column => .error (.missingPrimaryKey entity.table operation column)
  | none => .ok (keys.map fun key => (key, (entity.values.find? key).getD .null))

/-- The columns that an update assigns: the edited and then the filled ones, without keys and each
once. -/
def changedColumns (entity : Entity) (keys filled : List String) : List String :=
  (entity.state.modifiedColumns ++ filled).foldl (fun changed column =>
    if column ∈ keys ∨ column ∈ changed then changed else changed ++ [column]) []

/-- The update of an entity, or none if nothing outside the key changed. -/
def update (entity : Entity) (columns : ColumnMap) (filled : List String) :
    Except PersistError (Option WriteStatement) :=
  let keys := columns.primaryKeys
  let changed := changedColumns entity keys filled
  if changed.isEmpty then .ok none
  else do
    let keyed ← keyValues entity keys .update
    let values := changed.map fun column => (entity.values.find? column).getD .null
    let pieces : SqlPieces :=
      [.word "UPDATE ", .table entity.table, .word " SET "] ++
        separated ", " (equalsSlots 0 changed) ++ [.word " WHERE "] ++
        separated " AND " (equalsSlots changed.length (keyed.map Prod.fst))
    return some ⟨.update, pieces, values ++ keyed.map Prod.snd, false⟩

/-- The delete of an entity. -/
def delete (entity : Entity) (columns : ColumnMap) : Except PersistError WriteStatement := do
  let keyed ← keyValues entity columns.primaryKeys .delete
  let pieces : SqlPieces :=
    [.word "DELETE FROM ", .table entity.table, .word " WHERE "] ++
      separated " AND " (equalsSlots 0 (keyed.map Prod.fst))
  return ⟨.delete, pieces, keyed.map Prod.snd, false⟩

end WriteStatement

end Orm
