import Orm.Change.WritePlan
import Orm.Change.WriteStatement

/-!
# Batches

A `Batch` keeps the books of one submission: which entities were written, and which columns were
filled on the way. Filling copies the keys of written parents to their children and stores the keys
that the database assigned; `Batch.revert` takes it back, `Batch.finish` settles what was written.
-/

namespace Orm

/-- The entities of an owner and those of them that wait for submission. -/
structure Tracked where
  store : EntityStore
  pending : PendingSet
deriving DecidableEq, Inhabited

/-- The books of one submission. -/
structure Batch where
  written : List WritePlan.Step
  filled : List (EntityId × String)
deriving DecidableEq, Repr

namespace Batch

/-- The books before the first write. -/
def empty : Batch := ⟨[], []⟩

/-- Fills a column of an entity if it has no value, and tells whether it did. -/
def fill (batch : Batch) (store : EntityStore) (id : EntityId) (column : String) (value : Value) :
    Bool × Batch × EntityStore :=
  match (store.get? id).bind fun entity => entity.fillIfAbsent? column value with
  | some filled =>
      (true, { batch with filled := batch.filled ++ [(id, column)] },
        store.modify id fun _ => filled)
  | none => (false, batch, store)

/-- Fills columns of an entity with the keys of a parent that are known by now, and gives the
columns that were filled. -/
def fillKeys (id parent : EntityId) :
    List (String × String) → Batch → EntityStore → List String × Batch × EntityStore
  | [], batch, store => ([], batch, store)
  | (primary, foreign) :: rest, batch, store =>
      match (store.get? parent).bind fun entity => entity.values.find? primary with
      | none => fillKeys id parent rest batch store
      | some value =>
          let (filled, batch, store) := batch.fill store id foreign value
          let (others, batch, store) := fillKeys id parent rest batch store
          (if filled then foreign :: others else others, batch, store)

/-- Fills columns of an entity with the keys of the parents that it is linked to. -/
def resolveLinks (id : EntityId) :
    List ParentLink → Batch → EntityStore → List String × Batch × EntityStore
  | [], batch, store => ([], batch, store)
  | link :: rest, batch, store =>
      let (filled, batch, store) :=
        fillKeys id link.parent link.relationship.keyPairs batch store
      let (others, batch, store) := resolveLinks id rest batch store
      (filled ++ others, batch, store)

/-- The statement of an entity as it is, where some columns were just filled. -/
def statementFor (dialect : Dialect) (operation : WriteOperation) (entity : Entity)
    (columns : ColumnMap) (filled : List String) :
    Except PersistError (Option WriteStatement) :=
  match operation with
  | .insert => (WriteStatement.insert dialect entity columns).map some
  | .update => WriteStatement.update entity columns filled
  | .delete => (WriteStatement.delete entity columns).map some

/-- The statement of a write, after the keys of parents were filled in. -/
def render (batch : Batch) (store : EntityStore) (dialect : Dialect) (step : WritePlan.Step)
    (columns : ColumnMap) :
    Except PersistError (Option WriteStatement) × Batch × EntityStore :=
  match store.get? step.entity with
  | none => (.ok none, batch, store)
  | some entity =>
      let (filled, batch, store) :=
        -- A row that is deleted needs no keys of its parents.
        if step.operation = .delete then ([], batch, store)
        else resolveLinks step.entity entity.links batch store
      let current := (store.get? step.entity).getD entity
      (statementFor dialect step.operation current columns filled, batch, store)

mutual
/-- The key that a result holds: a scalar, the first value of some rows, or that of the last of
several results. -/
def assignedKey : CommandResult → Option Value
  | .scalar value => if value.isNull then none else some value
  | .rows set => set.firstValue.filter fun value => !value.isNull
  | .sets results => lastAssignedKey results
  | .affected _ => none

/-- The key that the last of several results holds. -/
def lastAssignedKey : List (String × CommandResult) → Option Value
  | [] => none
  | [(_, result)] => assignedKey result
  | _ :: next :: rest => lastAssignedKey (next :: rest)
end

/-- A key as its column keeps it, or as it is if the column cannot keep it. -/
def coercedKey (columns : ColumnMap) (key : String) (value : Value) : Value :=
  match columns.find? key with
  | none => value
  | some column =>
      match value.coerce column.affinity with
      | .ok coerced => coerced
      | .error _ => value

/-- The column and value of the key that the result of a statement assigned. -/
def identityOf (statement : WriteStatement) (columns : ColumnMap) (result : CommandResult) :
    Option (String × Value) :=
  match statement.readsIdentity, columns.primaryKeys with
  | true, [key] => (assignedKey result).map fun value => (key, coercedKey columns key value)
  | _, _ => none

/-- The books after a write, with the key that the database assigned filled in. -/
def absorb (batch : Batch) (store : EntityStore) (step : WritePlan.Step) (columns : ColumnMap)
    (answer : Option (WriteStatement × CommandResult)) : Batch × EntityStore :=
  let (batch, store) :=
    match answer.bind fun (statement, result) => identityOf statement columns result with
    | some (key, value) => (batch.fill store step.entity key value).2
    | none => (batch, store)
  ({ batch with written := batch.written ++ [step] }, store)

/-- The entities without the columns that were filled. -/
def revert (batch : Batch) (store : EntityStore) : EntityStore :=
  batch.filled.foldl (fun store entry =>
    store.modify entry.1 fun entity => entity.clearValue entry.2) store

/-- An entity after its write was committed. -/
def settled : WriteOperation → Entity → Entity
  | .insert, entity | .update, entity => entity.accepted
  | .delete, entity => entity.markedDeleted

/-- The entities after all writes were committed; none of them waits any more. -/
def finish (batch : Batch) (tracked : Tracked) : Tracked :=
  batch.written.foldl (fun tracked step =>
    ⟨tracked.store.modify step.entity (settled step.operation),
      tracked.pending.remove step.entity⟩) tracked

/-- The error for a statement that the database refused. -/
def statementError (store : EntityStore) (step : WritePlan.Step) (cause : DriverError) :
    PersistError :=
  match store.get? step.entity with
  | none => .transaction cause
  | some entity =>
      match cause with
      | .constraint message =>
          if step.operation = .insert ∧ entity.onConflict = .throw then
            .conflict step.entity entity.table message
          else .statement step.entity entity.table step.operation cause
      | _ => .statement step.entity entity.table step.operation cause

end Batch

end Orm
