import Orm.Change.Flight
import Orm.Context.Basic

/-!
# Submitting through a context

All pending changes of a context are written in one transaction. Without pending entities nothing
happens, not even a connection is opened.
-/

namespace Orm

namespace Context

variable {σ : Type}

/-- Submits the pending changes in one of two ways. -/
def submitBy (context : Context σ)
    (apply : SchemaSource (Surroundings σ) → Connection (Surroundings σ) → Dialect →
      TransactionOptions → Tracked →
      StateM (Surroundings σ) (Except PersistError Nat × Tracked)) :
    StateM (Desk σ) (Except Failure Nat) := fun desk =>
  -- Entities that have nothing to write still open a connection.
  if desk.tracked.pending.isEmpty then (.ok 0, desk)
  else
    match context.connect desk.around with
    | (.error error, around) => (.error error.failure, { desk with around := around })
    | (.ok (), around) =>
        let ((result, tracked), around) :=
          apply (Surroundings.schemaSource context.catalog) context.connection context.dialect
            context.transaction desk.tracked around
        (result.mapError PersistError.failure, ⟨tracked, around⟩)

/-- Writes all pending changes, and tells how many entities were written. -/
def submitUpdates (context : Context σ) : StateM (Desk σ) (Except Failure Nat) :=
  context.submitBy applyPending

/-- Writes all pending changes by asynchronous calls. -/
def submitUpdatesAsync (context : Context σ) : StateM (Desk σ) (Except Failure Nat) :=
  context.submitBy applyPendingAsync

end Context

end Orm
