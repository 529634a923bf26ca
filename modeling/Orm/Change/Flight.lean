import Orm.Change.Submission

/-!
# Submissions in flight

An asynchronous submission is suspended at every call of the database, and entities can be edited
meanwhile. A `Flight` is such a submission: `Flight.request` is the call that it waits for, and
`Flight.resume` takes the answer and goes on to the next call. `applyPendingAsync` makes the calls
of a flight one after the other.
-/

namespace Orm

/-- A call of the database. -/
inductive DatabaseCall
  | start (options : TransactionOptions)
  | execute (command : Command)
  | commit
  | rollback
deriving DecidableEq

/-- The answer to a call; only the execution of a command has a result. -/
abbrev DatabaseAnswer := Except DriverError (Option CommandResult)

/-- Where a submission stands. -/
inductive FlightPhase
  | opening (options : TransactionOptions)
  | writing (step : WritePlan.Step) (columns : ColumnMap) (statement : WriteStatement)
  | committing
  | rollingBack (error : PersistError)
  | landed (result : Except PersistError Nat)

/-- A submission between two calls: the writes that are left, the books, and where it stands. -/
structure Flight where
  dialect : Dialect
  remaining : List (WritePlan.Step × ColumnMap)
  batch : Batch
  phase : FlightPhase

namespace Flight

/-- The call that a flight waits for; one that has landed waits for none. -/
def request (flight : Flight) : Option DatabaseCall :=
  match flight.phase with
  | .opening options => some (.start options)
  | .writing _ _ statement => some (.execute (statement.command flight.dialect))
  | .committing => some .commit
  | .rollingBack _ => some .rollback
  | .landed _ => none

/-- The result of a flight that has landed. -/
def result (flight : Flight) : Except PersistError Nat :=
  match flight.phase with
  | .landed result => result
  | _ => .ok 0

/-- An upper bound of the calls that a flight still makes. -/
def callsLeft (flight : Flight) : Nat :=
  match flight.phase with
  | .opening _ => flight.remaining.length + 4
  | .writing _ _ _ => flight.remaining.length + 3
  | .committing => 2
  | .rollingBack _ => 1
  | .landed _ => 0

/-- A flight whose writes are all left. -/
def takeOff (dialect : Dialect) (options : TransactionOptions)
    (writes : List (WritePlan.Step × ColumnMap)) : Flight :=
  ⟨dialect, writes, .empty, .opening options⟩

/-- Goes on to the next write that has a statement, or to the commit after the last one. -/
def advance (dialect : Dialect) :
    List (WritePlan.Step × ColumnMap) → Batch → EntityStore → Flight × EntityStore
  | [], batch, store => (⟨dialect, [], batch, .committing⟩, store)
  | (step, columns) :: rest, batch, store =>
      match batch.render store dialect step columns with
      | (.error error, batch, store) => (⟨dialect, rest, batch, .rollingBack error⟩, store)
      | (.ok (some statement), batch, store) =>
          (⟨dialect, rest, batch, .writing step columns statement⟩, store)
      | (.ok none, batch, store) =>
          let (batch, store) := batch.absorb store step columns none
          advance dialect rest batch store

/-- A flight after the answer to the call that it waited for. -/
def resume (flight : Flight) (answer : DatabaseAnswer) (tracked : Tracked) : Flight × Tracked :=
  match flight.phase, answer with
  | .opening _, .error cause =>
      ({ flight with phase := .landed (.error (.transaction cause)) }, tracked)
  | .opening _, .ok _ =>
      let (flight, store) := advance flight.dialect flight.remaining flight.batch tracked.store
      (flight, { tracked with store := store })
  | .writing step _ _, .error cause =>
      let error := Batch.statementError tracked.store step cause
      ({ flight with phase := .rollingBack error }, tracked)
  | .writing step columns statement, .ok result =>
      let (batch, store) := flight.batch.absorb tracked.store step columns
        (result.map fun result => (statement, result))
      let (flight, store) := advance flight.dialect flight.remaining batch store
      (flight, { tracked with store := store })
  | .committing, .error cause =>
      ({ flight with phase := .rollingBack (.transaction cause) }, tracked)
  | .committing, .ok _ =>
      ({ flight with phase := .landed (.ok flight.batch.written.length) },
        flight.batch.finish tracked)
  | .rollingBack error, _ =>
      ({ flight with phase := .landed (.error error) },
        { tracked with store := flight.batch.revert tracked.store })
  | .landed _, _ => (flight, tracked)

/-- The answer of a connection to a call. -/
def answer {σ : Type} (connection : Connection σ) : DatabaseCall → StateM σ DatabaseAnswer
  | .start options => return (← connection.startAsync options).map fun _ => none
  | .execute command => return (← connection.executeAsync command).map some
  | .commit => return (← connection.commitAsync).map fun _ => none
  | .rollback => return (← connection.rollbackAsync).map fun _ => none

/-- Makes the calls of a flight, at most as many as given. -/
def run {σ : Type} (connection : Connection σ) :
    Nat → Flight → Tracked → StateM σ (Except PersistError Nat × Tracked)
  | 0, flight, tracked => return (flight.result, tracked)
  | calls + 1, flight, tracked => do
      match flight.request with
      | none => return (flight.result, tracked)
      | some call =>
          let (flight, tracked) := flight.resume (← answer connection call) tracked
          run connection calls flight tracked

end Flight

/-- Writes the pending changes that there are in one transaction by asynchronous calls. -/
def applyPendingAsync {σ : Type} (schema : SchemaSource σ) (connection : Connection σ)
    (dialect : Dialect) (options : TransactionOptions) (tracked : Tracked) :
    StateM σ (Except PersistError Nat × Tracked) := do
  let ids := tracked.pending.dirty tracked.store
  if ids.isEmpty then return (.ok 0, tracked)
  else
    match ← Submission.prepare schema tracked.store ids with
    | .error error => return (.error error, tracked)
    | .ok writes =>
        let flight := Flight.takeOff dialect options writes
        Flight.run connection (flight.callsLeft + 1) flight tracked

end Orm
