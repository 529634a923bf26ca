import Orm.Proofs.Change.Ledger

/-!
# How submissions end

A submission has nothing to do, fails before its transaction, or opens one; a transaction that is
open is committed after all writes, or ends with a rollback. `Submitted` lists these cases with the
calls that the database sees in each, and `apply_pending_submitted` says that there are no others.
-/

namespace Orm

namespace Submission

variable {σ : Type} {dialect : Dialect}

/-! ## One write -/

/-- How one write ends, with the calls that it makes: it goes well, it has no statement, or the
database refuses its statement. -/
inductive Attempt (dialect : Dialect) (next : WritePlan.Step × ColumnMap) (first : Progress) :
    List Exchange → Except PersistError Unit × Progress → Prop
  | taken (entry : Entry) (hentry : entry.Valid dialect) (hwrite : entry.write = next)
      (hbefore : entry.before = first) :
      Attempt dialect next first (entry.exchange? dialect).toList (.ok (), entry.after)
  | unrendered (failed : Progress) {error : PersistError}
      (hrender : first.batch.render first.store dialect next.1 next.2
        = (.error error, failed.batch, failed.store)) :
      Attempt dialect next first [] (.error error, failed)
  | refused (failed : Progress) {statement : WriteStatement} {cause : DriverError}
      (hrender : first.batch.render first.store dialect next.1 next.2
        = (.ok (some statement), failed.batch, failed.store)) :
      Attempt dialect next first [⟨.execute (statement.command dialect), .error cause⟩]
        (.error (Batch.statementError failed.store next.1 cause), failed)

/-- A write ends in one of the ways of `Attempt`, and a recorded one notes the calls of it. -/
theorem write_attempt (connection : Connection σ) (dialect : Dialect)
    (next : WritePlan.Step × ColumnMap) (first : Progress) (recorded : Recorded σ) :
    ∃ made, Attempt dialect next first made (write connection dialect next first recorded.state).1 ∧
      write connection.recorded dialect next first recorded
        = ((write connection dialect next first recorded.state).1,
          ⟨(write connection dialect next first recorded.state).2,
            recorded.exchanges ++ made⟩) := by
  obtain ⟨step, columns⟩ := next
  rcases hrender : first.batch.render first.store dialect step columns
    with ⟨error | _ | statement, batch, store⟩
  · simp only [write, hrender, Action.pure_apply]
    exact ⟨[], .unrendered ⟨batch, store⟩ hrender, by simp⟩
  · rcases habsorb : batch.absorb store step columns none with ⟨taken, entities⟩
    simp only [write, hrender, habsorb, Action.pure_apply]
    exact ⟨[], .taken ⟨step, columns, none, first, ⟨taken, entities⟩⟩
      ⟨⟨batch, store⟩, hrender, habsorb⟩ rfl rfl, by simp⟩
  · simp only [write, hrender, Action.bind_apply, Connection.recorded_execute,
      Recorded.note_apply]
    cases hanswer : (connection.execute (statement.command dialect) recorded.state).1 with
    | error cause =>
        simp only [Action.pure_apply]
        exact ⟨_, .refused ⟨batch, store⟩ hrender, rfl⟩
    | ok result =>
        rcases habsorb : batch.absorb store step columns (some (statement, result))
          with ⟨taken, entities⟩
        simp only [habsorb, Action.pure_apply]
        exact ⟨_, .taken ⟨step, columns, some (statement, result), first, ⟨taken, entities⟩⟩
          ⟨⟨batch, store⟩, hrender, habsorb⟩ rfl rfl, rfl⟩

/-! ## All writes -/

/-- The calls of the writes of a ledger. -/
def executions (dialect : Dialect) (entries : List Entry) : List Exchange :=
  entries.filterMap (Entry.exchange? dialect)

/-- The calls of a ledger with one more entry at its start. -/
theorem executions_cons (dialect : Dialect) (entry : Entry) (entries : List Entry) :
    executions dialect (entry :: entries)
      = (entry.exchange? dialect).toList ++ executions dialect entries := by
  rw [executions, executions, List.filterMap_cons]
  cases entry.exchange? dialect <;> rfl

/-- How some writes end, with the calls that they make: all go well, or one fails after some that
went well. -/
inductive Outcome (dialect : Dialect) (writes : List (WritePlan.Step × ColumnMap))
    (first : Progress) : List Exchange → Except PersistError Unit × Progress → Prop
  | written {entries : List Entry} {last : Progress}
      (hledger : Ledger dialect first entries last)
      (hwrites : entries.map Entry.write = writes) :
      Outcome dialect writes first (executions dialect entries) (.ok (), last)
  | stopped {entries : List Entry} {last failed : Progress} {next : WritePlan.Step × ColumnMap}
      {rest : List (WritePlan.Step × ColumnMap)} {made : List Exchange} {error : PersistError}
      (hledger : Ledger dialect first entries last)
      (hwrites : entries.map Entry.write ++ next :: rest = writes)
      (hattempt : Attempt dialect next last made (.error error, failed)) :
      Outcome dialect writes first (executions dialect entries ++ made) (.error error, failed)

/-- A write that goes well comes before whatever the other writes do. -/
theorem Outcome.cons {entry : Entry} {rest : List (WritePlan.Step × ColumnMap)}
    {made : List Exchange} {result : Except PersistError Unit × Progress}
    (hentry : entry.Valid dialect) (h : Outcome dialect rest entry.after made result) :
    Outcome dialect (entry.write :: rest) entry.before
      ((entry.exchange? dialect).toList ++ made) result := by
  cases h with
  | written hledger hwrites =>
      rw [← executions_cons]
      exact .written (.cons hentry hledger) (congrArg (entry.write :: ·) hwrites)
  | stopped hledger hwrites hattempt =>
      rw [← List.append_assoc, ← executions_cons]
      exact .stopped (.cons hentry hledger) (congrArg (entry.write :: ·) hwrites) hattempt

/-- Writes end in one of the ways of `Outcome`, and a recorded run notes the calls of it. -/
theorem write_all_outcome (connection : Connection σ) (dialect : Dialect)
    (writes : List (WritePlan.Step × ColumnMap)) (first : Progress) (recorded : Recorded σ) :
    ∃ made,
      Outcome dialect writes first made
        (writeAll connection dialect writes first recorded.state).1 ∧
      writeAll connection.recorded dialect writes first recorded
        = ((writeAll connection dialect writes first recorded.state).1,
          ⟨(writeAll connection dialect writes first recorded.state).2,
            recorded.exchanges ++ made⟩) := by
  induction writes generalizing first recorded with
  | nil => exact ⟨[], .written (.nil first) rfl, by simp [writeAll]⟩
  | cons next rest ih =>
      obtain ⟨made, hattempt, hrecorded⟩ := write_attempt connection dialect next first recorded
      simp only [writeAll, Action.bind_apply, hrecorded]
      generalize write connection dialect next first recorded.state = run at hattempt ⊢
      obtain ⟨⟨result, progress⟩, state⟩ := run
      cases result with
      | error error =>
          exact ⟨made, .stopped (.nil first) rfl hattempt, rfl⟩
      | ok done =>
          cases hattempt with
          | taken entry hentry hwrite hbefore =>
              -- The entry goes before those of the writes that follow it.
              subst hwrite hbefore
              obtain ⟨others, houtcome, hrest⟩ :=
                ih entry.after ⟨state, recorded.exchanges ++ (entry.exchange? dialect).toList⟩
              refine ⟨_, .cons hentry houtcome, ?_⟩
              rw [← List.append_assoc]
              exact hrest

/-- A write that fails keeps account of what it filled. -/
theorem Attempt.filled_from {next : WritePlan.Step × ColumnMap} {last failed : Progress}
    {made : List Exchange} {error : PersistError} {initial : EntityStore}
    (h : Attempt dialect next last made (.error error, failed))
    (hinitial : Batch.FilledFrom initial last) : Batch.FilledFrom initial failed := by
  have hfills := Batch.render_fills last.batch last.store dialect next.1 next.2
  cases h with
  | unrendered _ hrender =>
      rw [hrender] at hfills
      exact hinitial.fills hfills
  | refused _ hrender =>
      rw [hrender] at hfills
      exact hinitial.fills hfills

/-! ## The transaction -/

/-- What a submission does once its writes have ended: a commit if all went well, and a rollback if
that or a write failed. -/
def conclude (connection : Connection σ) (pending : PendingSet) :
    Except PersistError Unit × Progress → StateM σ (Except PersistError Nat × Tracked)
  | (.error error, progress) => do
      let _ ← connection.rollback
      return (.error error, ⟨progress.batch.revert progress.store, pending⟩)
  | (.ok (), progress) => do
      match ← connection.commit with
      | .ok () => return (.ok progress.batch.written.length,
          progress.batch.finish ⟨progress.store, pending⟩)
      | .error cause =>
          let _ ← connection.rollback
          return (.error (.transaction cause), ⟨progress.batch.revert progress.store, pending⟩)

/-- Once its transaction is open, a submission is its writes and what concludes them. -/
theorem apply_pending_of_start {schema : SchemaSource σ} {connection : Connection σ}
    {options : TransactionOptions} {tracked : Tracked} {state prepared opened : σ}
    {writes : List (WritePlan.Step × ColumnMap)}
    (hdirty : tracked.pending.dirty tracked.store ≠ [])
    (hprepare : prepare schema tracked.store (tracked.pending.dirty tracked.store) state
      = (.ok writes, prepared))
    (hstart : connection.start options prepared = (.ok (), opened)) :
    applyPending schema connection dialect options tracked state
      = (writeAll connection dialect writes ⟨.empty, tracked.store⟩ >>=
          conclude connection tracked.pending) opened := by
  rw [applyPending, if_neg (by simpa using hdirty)]
  simp only [Action.bind_apply, hprepare, hstart, writeAndCommit]
  rcases writeAll connection dialect writes ⟨.empty, tracked.store⟩ opened
    with ⟨⟨error | _, last⟩, finished⟩
  · rfl
  · simp only [conclude, Action.bind_apply, Action.pure_apply]
    cases (connection.commit finished).1 <;> rfl

/-- How a transaction ends, with its calls: it is not opened, all is written and committed, or a
write or the commit fails and it is rolled back. -/
inductive Ending (dialect : Dialect) (options : TransactionOptions) (tracked : Tracked)
    (writes : List (WritePlan.Step × ColumnMap)) :
    List Exchange → Except PersistError Nat × Tracked → Prop
  | unopened {cause : DriverError} :
      Ending dialect options tracked writes [⟨.start options, .error cause⟩]
        (.error (.transaction cause), tracked)
  | committed {entries : List Entry} {last : Progress}
      (hledger : Ledger dialect ⟨.empty, tracked.store⟩ entries last)
      (hwrites : entries.map Entry.write = writes) :
      Ending dialect options tracked writes
        (⟨.start options, .ok none⟩ :: executions dialect entries ++ [⟨.commit, .ok none⟩])
        (.ok last.batch.written.length, last.batch.finish ⟨last.store, tracked.pending⟩)
  | interrupted {made : List Exchange} {error : PersistError} {failed : Progress}
      (answer : DatabaseAnswer)
      (houtcome : Outcome dialect writes ⟨.empty, tracked.store⟩ made (.error error, failed)) :
      Ending dialect options tracked writes
        (⟨.start options, .ok none⟩ :: made ++ [⟨.rollback, answer⟩])
        (.error error, { tracked with store := failed.batch.revert failed.store })
  | uncommitted {entries : List Entry} {last : Progress} {cause : DriverError}
      (answer : DatabaseAnswer)
      (hledger : Ledger dialect ⟨.empty, tracked.store⟩ entries last)
      (hwrites : entries.map Entry.write = writes) :
      Ending dialect options tracked writes
        (⟨.start options, .ok none⟩ :: executions dialect entries ++
          [⟨.commit, .error cause⟩, ⟨.rollback, answer⟩])
        (.error (.transaction cause), { tracked with store := last.batch.revert last.store })

/-- However its writes end, a transaction ends in one of the ways of `Ending`, and a recorded one
notes the calls that conclude it. -/
theorem conclude_ending (connection : Connection σ) {options : TransactionOptions}
    {tracked : Tracked} {writes : List (WritePlan.Step × ColumnMap)} {made : List Exchange}
    {outcome : Except PersistError Unit × Progress}
    (houtcome : Outcome dialect writes ⟨.empty, tracked.store⟩ made outcome)
    (recorded : Recorded σ) :
    ∃ closing,
      Ending dialect options tracked writes (⟨.start options, .ok none⟩ :: made ++ closing)
        (conclude connection tracked.pending outcome recorded.state).1 ∧
      conclude connection.recorded tracked.pending outcome recorded
        = ((conclude connection tracked.pending outcome recorded.state).1,
          ⟨(conclude connection tracked.pending outcome recorded.state).2,
            recorded.exchanges ++ closing⟩) := by
  obtain ⟨error | _, last⟩ := outcome
  · exact ⟨_, .interrupted _ houtcome, rfl⟩
  · cases houtcome with
    | written hledger hwrites =>
        simp only [conclude, Action.bind_apply, Connection.recorded_commit, Recorded.note_apply]
        rcases connection.commit recorded.state with ⟨cause | _, closed⟩
        · refine ⟨_, .uncommitted ((connection.rollback closed).1.map fun _ => none) hledger
            hwrites, ?_⟩
          simp only [Action.bind_apply, Connection.recorded_rollback, Recorded.note_apply,
            Action.pure_apply, List.append_assoc]
          rfl
        · exact ⟨_, .committed hledger hwrites, rfl⟩

/-- How a submission ends, with its calls: there is nothing to write, there is no plan or no model
of a table, or a transaction ends. -/
inductive Submitted (schema : SchemaSource σ) (dialect : Dialect) (options : TransactionOptions)
    (tracked : Tracked) (state : σ) : List Exchange → Except PersistError Nat × Tracked → Prop
  | idle (hdirty : tracked.pending.dirty tracked.store = []) :
      Submitted schema dialect options tracked state [] (.ok 0, tracked)
  | unprepared {error : PersistError} (hdirty : tracked.pending.dirty tracked.store ≠ [])
      (hprepare : (prepare schema tracked.store (tracked.pending.dirty tracked.store) state).1
        = .error error) :
      Submitted schema dialect options tracked state [] (.error error, tracked)
  | ended {writes : List (WritePlan.Step × ColumnMap)} {made : List Exchange}
      {result : Except PersistError Nat × Tracked}
      (hdirty : tracked.pending.dirty tracked.store ≠ [])
      (hprepare : (prepare schema tracked.store (tracked.pending.dirty tracked.store) state).1
        = .ok writes)
      (hending : Ending dialect options tracked writes made result) :
      Submitted schema dialect options tracked state made result

end Submission

open Submission

variable {σ : Type}

/-- A submission ends in one of the ways of `Submitted`, and a recorded one notes its calls. -/
theorem apply_pending_submitted (schema : SchemaSource σ) (connection : Connection σ)
    (dialect : Dialect) (options : TransactionOptions) (tracked : Tracked)
    (recorded : Recorded σ) :
    ∃ made,
      Submitted schema dialect options tracked recorded.state made
        (applyPending schema connection dialect options tracked recorded.state).1 ∧
      applyPending schema.recorded connection.recorded dialect options tracked recorded
        = ((applyPending schema connection dialect options tracked recorded.state).1,
          ⟨(applyPending schema connection dialect options tracked recorded.state).2,
            recorded.exchanges ++ made⟩) := by
  -- The cases follow the order in which the calls are made, each ruling out an early end.
  by_cases hdirty : tracked.pending.dirty tracked.store = []
  · simp only [applyPending, hdirty, List.isEmpty_nil, if_true]
    exact ⟨[], .idle hdirty, by simp⟩
  rcases hprepare : prepare schema tracked.store (tracked.pending.dirty tracked.store)
    recorded.state with ⟨error | writes, prepared⟩
  · rw [applyPending, applyPending, if_neg (by simpa using hdirty), if_neg (by simpa using hdirty)]
    simp only [Action.bind_apply, prepare_recorded, Recorded.lift_apply, hprepare]
    exact ⟨[], .unprepared hdirty (congrArg Prod.fst hprepare), by simp⟩
  have hrecorded : prepare schema.recorded tracked.store (tracked.pending.dirty tracked.store)
      recorded = (.ok writes, ⟨prepared, recorded.exchanges⟩) := by
    rw [prepare_recorded, Recorded.lift_apply, hprepare]
  rcases hstart : connection.start options prepared with ⟨cause | _, opened⟩
  · rw [applyPending, applyPending, if_neg (by simpa using hdirty), if_neg (by simpa using hdirty)]
    simp only [Action.bind_apply, hrecorded, hprepare, Connection.recorded_start,
      Recorded.note_apply, hstart]
    exact ⟨_, .ended hdirty (congrArg Prod.fst hprepare) .unopened, rfl⟩
  -- The transaction is open: what is left is the writes and what concludes them.
  obtain ⟨made, hmade, hwritten⟩ := write_all_outcome connection dialect writes
    ⟨.empty, tracked.store⟩ ⟨opened, recorded.exchanges ++ [⟨.start options, .ok none⟩]⟩
  obtain ⟨closing, hending, hconcluded⟩ := conclude_ending connection hmade
    ⟨(writeAll connection dialect writes ⟨.empty, tracked.store⟩ opened).2,
      recorded.exchanges ++ [⟨.start options, .ok none⟩] ++ made⟩
  have hopened : connection.recorded.start options ⟨prepared, recorded.exchanges⟩
      = (.ok (), ⟨opened, recorded.exchanges ++ [⟨.start options, .ok none⟩]⟩) := by
    rw [Connection.recorded_start, Recorded.note_apply, hstart]
    rfl
  rw [apply_pending_of_start hdirty hprepare hstart,
    apply_pending_of_start hdirty hrecorded hopened, Action.bind_apply, Action.bind_apply,
    hwritten, hconcluded]
  refine ⟨_, .ended hdirty (congrArg Prod.fst hprepare) hending, ?_⟩
  simp only [List.append_assoc, List.cons_append, List.nil_append]

namespace Submission

/-- The calls that a submission makes, with their answers. -/
def exchanges (schema : SchemaSource σ) (connection : Connection σ) (dialect : Dialect)
    (options : TransactionOptions) (tracked : Tracked) (state : σ) : List Exchange :=
  (applyPending schema.recorded connection.recorded dialect options tracked ⟨state, []⟩).2.exchanges

/-- To record the calls of a submission changes nothing else. -/
theorem apply_pending_recorded (schema : SchemaSource σ) (connection : Connection σ)
    (dialect : Dialect) (options : TransactionOptions) (tracked : Tracked) (state : σ) :
    applyPending schema.recorded connection.recorded dialect options tracked ⟨state, []⟩
      = ((applyPending schema connection dialect options tracked state).1,
        ⟨(applyPending schema connection dialect options tracked state).2,
          exchanges schema connection dialect options tracked state⟩) := by
  obtain ⟨made, -, hrecorded⟩ :=
    apply_pending_submitted schema connection dialect options tracked ⟨state, []⟩
  rw [exchanges, hrecorded]

/-- A submission ends in one of the ways of `Submitted` with the calls that it makes. -/
theorem submitted_exchanges (schema : SchemaSource σ) (connection : Connection σ)
    (dialect : Dialect) (options : TransactionOptions) (tracked : Tracked) (state : σ) :
    Submitted schema dialect options tracked state
      (exchanges schema connection dialect options tracked state)
      (applyPending schema connection dialect options tracked state).1 := by
  obtain ⟨made, hsubmitted, hrecorded⟩ :=
    apply_pending_submitted schema connection dialect options tracked ⟨state, []⟩
  rw [exchanges, hrecorded]
  exact hsubmitted

end Submission

end Orm
