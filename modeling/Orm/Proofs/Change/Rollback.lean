import Orm.Proofs.Change.Flight
import Orm.Proofs.Change.Transaction
import Orm.Sql.Brackets

/-!
# What a failed submission leaves behind

A submission that fails takes back what it filled. It does so by removing entries, so a column that
held null and was filled has no entry afterwards: `failed_submission_takes_back` says that nothing
else is lost, and that nothing is lost at all if and only if no null was filled.
-/

namespace Orm.Submission

variable {σ : Type}

/-- What a failed submission leaves: the same pending set, and every entity as it was but for the
columns that held null and were filled when it failed, which have no entry any more. -/
def TakenBack (schema : SchemaSource σ) (dialect : Dialect) (options : TransactionOptions)
    (tracked : Tracked) (state : σ) (calls : List Exchange) (error : PersistError)
    (after : Tracked) : Prop :=
  after.pending = tracked.pending ∧
    ∃ failed, FailedAt schema dialect options tracked state calls error failed ∧
      (∀ id, after.store.get? id = (tracked.store.get? id).map fun entity =>
        { entity with
          values := entity.values.filter fun column value =>
            !(value.isNull && (failed.store.present? id column).isSome) }) ∧
      (after = tracked ↔ ∀ id entity column, tracked.store.get? id = some entity →
        entity.values.find? column = some .null → failed.store.present? id column = none)

/-- A submission that fails, in whichever way, leaves what `TakenBack` says. -/
theorem Submitted.taken_back {schema : SchemaSource σ} {dialect : Dialect}
    {options : TransactionOptions} {tracked : Tracked} {state : σ} {calls : List Exchange}
    {result : Except PersistError Nat × Tracked}
    (h : Submitted schema dialect options tracked state calls result) {error : PersistError}
    (herror : result.1 = .error error) :
    TakenBack schema dialect options tracked state calls error result.2 := by
  obtain ⟨failed, hfailed, hfilled, hresult⟩ := h.failed herror
  rw [hresult]
  refine ⟨rfl, failed, hfailed, fun id => Batch.revert_of_filled_from hfilled id, ?_⟩
  rw [← Batch.revert_eq_iff hfilled]
  constructor
  · exact congrArg Tracked.store
  · intro hstore
    rw [hstore]

/-- A submission that fails, blocking or asynchronous and wherever it fails, keeps the pending set
and all of every entity but nulls that were filled. It leaves everything as it was if and only if no
column that held null was filled. -/
theorem failed_submission_takes_back (schema : SchemaSource σ) (connection : Connection σ)
    (dialect : Dialect) (options : TransactionOptions) (tracked : Tracked) (state : σ) :
    (∀ error, (applyPending schema connection dialect options tracked state).1.1 = .error error →
      TakenBack schema dialect options tracked state
        (exchanges schema connection dialect options tracked state) error
        (applyPending schema connection dialect options tracked state).1.2) ∧
    ∀ error, (applyPendingAsync schema connection dialect options tracked state).1.1
        = .error error →
      TakenBack schema dialect options tracked state
        (asyncExchanges schema connection dialect options tracked state) error
        (applyPendingAsync schema connection dialect options tracked state).1.2 := by
  constructor
  · intro error herror
    exact (submitted_exchanges schema connection dialect options tracked state).taken_back herror
  · intro error herror
    exact (async_submitted_exchanges schema connection dialect options tracked state).taken_back
      herror

/-- A new row whose key was set to null. -/
def keySetToNull : Tracked where
  store := ⟨#[(Entity.fresh (Table.named "dbo" "Orders")
    (ColumnMap.ofColumns [(Column.plain "Id" .integer "int").primaryKey]) none).store "Id" .null]⟩
  pending := PendingSet.empty.mark ⟨0⟩

/-- If the commit is refused, the key held null before the submission and has no entry after it. -/
theorem null_key_lost :
    let refusing := assigningSeven (.error (.transaction "down"))
    let run := applyPending WritePlan.unrelated refusing .brackets default keySetToNull ()
    (∃ calls error, run.1.1 = .error error ∧
      TakenBack WritePlan.unrelated .brackets default keySetToNull () calls error run.1.2) ∧
    (keySetToNull.store.get? ⟨0⟩).map (fun entity => entity.values.find? "Id") = some (some .null) ∧
    (run.1.2.store.get? ⟨0⟩).map (fun entity => entity.values.find? "Id") = some none := by
  intro refusing run
  have herror : run.1.1 = .error (.transaction (.transaction "down")) := by decide
  obtain ⟨hblocking, -⟩ := failed_submission_takes_back WritePlan.unrelated refusing .brackets
    default keySetToNull ()
  exact ⟨⟨_, _, herror, hblocking _ herror⟩, by decide, by decide⟩

end Orm.Submission
