import Orm.Proofs.Change.Submission

/-!
# Asynchronous submissions

A flight stops at every call, a blocking submission does not. Without edits in between both do the
same: `apply_pending_async_eq` says that an asynchronous submission is the blocking one over the
asynchronous calls of its connection.
-/

namespace Orm

variable {σ : Type}

/-- A connection whose blocking calls are its asynchronous ones. -/
def Connection.awaited (connection : Connection σ) : Connection σ where
  start := connection.startAsync
  execute := connection.executeAsync
  commit := connection.commitAsync
  rollback := connection.rollbackAsync

/-- To record the asynchronous calls of a connection is to record the calls of the awaited one. -/
theorem Connection.awaited_recorded (connection : Connection σ) :
    connection.recorded.awaited = connection.awaited.recorded := rfl

namespace Flight

open Submission

variable {dialect : Dialect} {connection : Connection σ}

/-- A flight that has landed makes no more calls. -/
theorem run_landed (calls : Nat) (remaining : List (WritePlan.Step × ColumnMap)) (batch : Batch)
    (result : Except PersistError Nat) (tracked : Tracked) (state : σ) :
    run connection calls ⟨dialect, remaining, batch, .landed result⟩ tracked state
      = ((result, tracked), state) := by
  cases calls <;> rfl

/-- A flight that has to be rolled back does what concludes a failure. -/
theorem run_rolling_back (calls : Nat) (remaining : List (WritePlan.Step × ColumnMap))
    (batch : Batch) (error : PersistError) (store : EntityStore) (pending : PendingSet)
    (state : σ) :
    run connection (calls + 1) ⟨dialect, remaining, batch, .rollingBack error⟩ ⟨store, pending⟩
        state
      = conclude connection.awaited pending (.error error, ⟨batch, store⟩) state := by
  simp only [run, request, answer, resume, Action.bind_apply, Action.pure_apply, run_landed]
  rfl

/-- A flight whose writes are done does what concludes them. -/
theorem run_committing (calls : Nat) (batch : Batch) (store : EntityStore) (pending : PendingSet)
    (state : σ) :
    run connection (calls + 2) ⟨dialect, [], batch, .committing⟩ ⟨store, pending⟩ state
      = conclude connection.awaited pending (.ok (), ⟨batch, store⟩) state := by
  rw [run]
  simp only [request, answer, conclude, Connection.awaited, Action.bind_apply, Action.pure_apply]
  rcases connection.commitAsync state with ⟨cause | _, closed⟩
  · simp only [resume, Except.map, run_rolling_back]
    rfl
  · simp only [resume, Except.map, run_landed]
    rfl

/-- A flight that advances does its writes and what concludes them, if it may make that many
calls. -/
theorem run_advance {writes : List (WritePlan.Step × ColumnMap)} {calls : Nat}
    (hcalls : writes.length + 2 ≤ calls) (batch : Batch) (store : EntityStore)
    (pending : PendingSet) (state : σ) :
    run connection calls (advance dialect writes batch store).1
        ⟨(advance dialect writes batch store).2, pending⟩ state
      = (writeAll connection.awaited dialect writes ⟨batch, store⟩ >>=
          conclude connection.awaited pending) state := by
  -- Along the writes; every call that is made leaves enough for those that follow.
  induction writes generalizing calls batch store state with
  | nil =>
      obtain ⟨calls, rfl⟩ := Nat.exists_eq_add_of_le' hcalls
      exact run_committing calls batch store pending state
  | cons next rest ih =>
      obtain ⟨step, columns⟩ := next
      rw [List.length_cons] at hcalls
      rcases hrender : batch.render store dialect step columns
        with ⟨error | _ | statement, rendered, filled⟩
      · obtain ⟨calls, rfl⟩ : ∃ more, calls = more + 1 := ⟨calls - 1, by omega⟩
        simp only [advance, writeAll, write, hrender, Action.bind_apply, Action.pure_apply]
        exact run_rolling_back calls rest rendered error filled pending state
      · rcases habsorb : rendered.absorb filled step columns none with ⟨taken, entities⟩
        simp only [advance, writeAll, write, hrender, habsorb, Action.bind_apply,
          Action.pure_apply]
        exact ih (by omega) taken entities state
      · obtain ⟨calls, rfl⟩ : ∃ more, calls = more + 1 := ⟨calls - 1, by omega⟩
        simp only [advance, writeAll, write, hrender, run, request, answer, Connection.awaited,
          Action.bind_apply, Action.pure_apply]
        rcases connection.executeAsync (statement.command dialect) state
          with ⟨cause | result, executed⟩
        · obtain ⟨calls, rfl⟩ : ∃ more, calls = more + 1 := ⟨calls - 1, by omega⟩
          simp only [resume, Except.map, Action.pure_apply]
          exact run_rolling_back calls rest rendered _ filled pending executed
        · rcases habsorb : rendered.absorb filled step columns (some (statement, result))
            with ⟨taken, entities⟩
          simp only [resume, Except.map, Option.map_some, habsorb, Action.pure_apply]
          exact ih (by omega) taken entities executed

end Flight

open Submission

/-- An asynchronous submission is the blocking one over the asynchronous calls. -/
theorem apply_pending_async_eq (schema : SchemaSource σ) (connection : Connection σ)
    (dialect : Dialect) (options : TransactionOptions) (tracked : Tracked) :
    applyPendingAsync schema connection dialect options tracked
      = applyPending schema connection.awaited dialect options tracked := by
  funext state
  by_cases hdirty : tracked.pending.dirty tracked.store = []
  · simp only [applyPendingAsync, applyPending, hdirty, List.isEmpty_nil, if_true]
  rw [applyPendingAsync, if_neg (by simpa using hdirty)]
  rcases hprepare : prepare schema tracked.store (tracked.pending.dirty tracked.store) state
    with ⟨error | writes, prepared⟩
  · rw [applyPending, if_neg (by simpa using hdirty)]
    simp only [Action.bind_apply, hprepare]
  rcases hstart : connection.startAsync options prepared with ⟨cause | _, opened⟩
  · rw [applyPending, if_neg (by simpa using hdirty)]
    simp only [Action.bind_apply, hprepare, Flight.takeOff, Flight.run, Flight.request,
      Flight.answer, Connection.awaited, Action.pure_apply, hstart, Except.map, Flight.resume,
      Flight.run_landed]
  · rw [apply_pending_of_start hdirty hprepare hstart]
    simp only [Action.bind_apply, hprepare, Flight.takeOff, Flight.run, Flight.request,
      Flight.answer, Action.pure_apply, hstart, Except.map, Flight.resume]
    exact Flight.run_advance (by simp [Flight.callsLeft]) .empty tracked.store tracked.pending
      opened

namespace Submission

/-- The calls that an asynchronous submission makes, with their answers. -/
def asyncExchanges (schema : SchemaSource σ) (connection : Connection σ) (dialect : Dialect)
    (options : TransactionOptions) (tracked : Tracked) (state : σ) : List Exchange :=
  (applyPendingAsync schema.recorded connection.recorded dialect options tracked
    ⟨state, []⟩).2.exchanges

/-- They are those of the blocking submission over the asynchronous calls. -/
theorem async_exchanges_eq (schema : SchemaSource σ) (connection : Connection σ)
    (dialect : Dialect) (options : TransactionOptions) (tracked : Tracked) (state : σ) :
    asyncExchanges schema connection dialect options tracked state
      = exchanges schema connection.awaited dialect options tracked state := by
  rw [asyncExchanges, apply_pending_async_eq, Connection.awaited_recorded, exchanges]

/-- An asynchronous submission ends in one of the ways of `Submitted` with the calls that it
makes. -/
theorem async_submitted_exchanges (schema : SchemaSource σ) (connection : Connection σ)
    (dialect : Dialect) (options : TransactionOptions) (tracked : Tracked) (state : σ) :
    Submitted schema dialect options tracked state
      (asyncExchanges schema connection dialect options tracked state)
      (applyPendingAsync schema connection dialect options tracked state).1 := by
  rw [async_exchanges_eq, apply_pending_async_eq]
  exact submitted_exchanges schema connection.awaited dialect options tracked state

/-- The calls of a submission, blocking or not, end in one of the ways of `Submitted`. -/
theorem exists_submitted {schema : SchemaSource σ} {connection : Connection σ} {dialect : Dialect}
    {options : TransactionOptions} {tracked : Tracked} {state : σ} {calls : List Exchange}
    (hcalls : calls = exchanges schema connection dialect options tracked state ∨
      calls = asyncExchanges schema connection dialect options tracked state) :
    ∃ result, Submitted schema dialect options tracked state calls result := by
  rcases hcalls with rfl | rfl
  · exact ⟨_, submitted_exchanges schema connection dialect options tracked state⟩
  · exact ⟨_, async_submitted_exchanges schema connection dialect options tracked state⟩

end Submission

end Orm
