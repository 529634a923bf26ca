import Orm.Change.Batch
import Orm.Database.Connection

/-!
# Submissions

`applyPending` writes all pending changes in one transaction: the statements of the write plan in
order, then a commit, after which the entities are settled. If anything fails, the transaction is
rolled back and what was filled in is taken back, so the pending changes are as they were.
-/

namespace Orm

namespace Submission

/-- The columns of the tables of some writes; those of the entity stand in for none. -/
def models {σ : Type} (schema : SchemaSource σ) (store : EntityStore) :
    List WritePlan.Step → StateM σ (Except PersistError (List (WritePlan.Step × ColumnMap)))
  | [] => return .ok []
  | step :: rest => do
      match store.get? step.entity with
      | none => models schema store rest
      | some entity =>
          match ← schema.columns entity.table with
          | .error cause => return .error (.metadata cause)
          | .ok columns =>
              let columns := if columns.isEmpty then entity.columns else columns
              return (← models schema store rest).map ((step, columns) :: ·)

/-- The writes of some entities in order, each with the columns of its table. -/
def prepare {σ : Type} (schema : SchemaSource σ) (store : EntityStore) (ids : List EntityId) :
    StateM σ (Except PersistError (List (WritePlan.Step × ColumnMap))) := do
  match ← WritePlan.build schema store ids with
  | .error error => return .error error
  | .ok plan => models schema store plan.steps

/-- The state of a submission between two calls: its books and the entities. -/
structure Progress where
  batch : Batch
  store : EntityStore
deriving DecidableEq

/-- One write: its statement, if it has one, is executed and its result taken in. -/
def write {σ : Type} (connection : Connection σ) (dialect : Dialect)
    (write : WritePlan.Step × ColumnMap) (progress : Progress) :
    StateM σ (Except PersistError Unit × Progress) := do
  let (step, columns) := write
  match progress.batch.render progress.store dialect step columns with
  | (.error error, batch, store) => return (.error error, ⟨batch, store⟩)
  | (.ok none, batch, store) =>
      let (batch, store) := batch.absorb store step columns none
      return (.ok (), ⟨batch, store⟩)
  | (.ok (some statement), batch, store) =>
      match ← connection.execute (statement.command dialect) with
      | .error cause => return (.error (Batch.statementError store step cause), ⟨batch, store⟩)
      | .ok result =>
          let (batch, store) := batch.absorb store step columns (some (statement, result))
          return (.ok (), ⟨batch, store⟩)

/-- Some writes one after the other, up to the first that fails. -/
def writeAll {σ : Type} (connection : Connection σ) (dialect : Dialect) :
    List (WritePlan.Step × ColumnMap) → Progress →
      StateM σ (Except PersistError Unit × Progress)
  | [], progress => return (.ok (), progress)
  | next :: rest, progress => do
      match ← write connection dialect next progress with
      | (.error error, progress) => return (.error error, progress)
      | (.ok (), progress) => writeAll connection dialect rest progress

/-- All writes of an open transaction and its commit. -/
def writeAndCommit {σ : Type} (connection : Connection σ) (dialect : Dialect)
    (writes : List (WritePlan.Step × ColumnMap)) (store : EntityStore) :
    StateM σ (Except PersistError Unit × Progress) := do
  match ← writeAll connection dialect writes ⟨.empty, store⟩ with
  | (.error error, progress) => return (.error error, progress)
  | (.ok (), progress) => return ((← connection.commit).mapError .transaction, progress)

end Submission

/-- Writes the pending changes that there are in one transaction. The result is the number of
entities that were written, and the entities afterwards. -/
def applyPending {σ : Type} (schema : SchemaSource σ) (connection : Connection σ)
    (dialect : Dialect) (options : TransactionOptions) (tracked : Tracked) :
    StateM σ (Except PersistError Nat × Tracked) := do
  let ids := tracked.pending.dirty tracked.store
  if ids.isEmpty then return (.ok 0, tracked)
  else
    match ← Submission.prepare schema tracked.store ids with
    | .error error => return (.error error, tracked)
    | .ok writes =>
        match ← connection.start options with
        | .error cause => return (.error (.transaction cause), tracked)
        | .ok () =>
            match ← Submission.writeAndCommit connection dialect writes tracked.store with
            | (.ok (), progress) =>
                return (.ok progress.batch.written.length,
                  progress.batch.finish ⟨progress.store, tracked.pending⟩)
            | (.error error, progress) => do
                -- The first error is the one that counts, whatever becomes of the rollback.
                let _ ← connection.rollback
                let store := progress.batch.revert progress.store
                return (.error error, { tracked with store := store })

end Orm
