import Orm.Change.Flight
import Orm.Proofs.Action

/-!
# Recorded calls

`Connection.recorded` answers as a connection does and notes every call with its answer. To record
changes nothing else: planning asks no database at all (`prepare_recorded`), so what a recorded
submission notes is what the plain one calls.
-/

namespace Orm

/-- A call of the database with its answer. -/
structure Exchange where
  call : DatabaseCall
  answer : DatabaseAnswer

/-- A state with the exchanges so far. -/
structure Recorded (σ : Type) where
  state : σ
  exchanges : List Exchange

namespace Recorded

variable {σ α : Type}

/-- An action without exchanges. -/
def lift (action : StateM σ α) : StateM (Recorded σ) α := fun recorded =>
  let (result, state) := action recorded.state
  (result, ⟨state, recorded.exchanges⟩)

/-- A call that is noted with its answer. -/
def note (call : DatabaseCall) (view : α → Option CommandResult)
    (action : StateM σ (Except DriverError α)) :
    StateM (Recorded σ) (Except DriverError α) := fun recorded =>
  let (answer, state) := action recorded.state
  (answer, ⟨state, recorded.exchanges ++ [⟨call, answer.map view⟩]⟩)

@[simp]
theorem lift_apply (action : StateM σ α) (recorded : Recorded σ) :
    lift action recorded
      = ((action recorded.state).1, ⟨(action recorded.state).2, recorded.exchanges⟩) := rfl

@[simp]
theorem note_apply (call : DatabaseCall) (view : α → Option CommandResult)
    (action : StateM σ (Except DriverError α)) (recorded : Recorded σ) :
    note call view action recorded = ((action recorded.state).1, ⟨(action recorded.state).2,
      recorded.exchanges ++ [⟨call, (action recorded.state).1.map view⟩]⟩) := rfl

end Recorded

open Recorded

variable {σ : Type}

/-- Metadata on a recorded state; its questions are no calls of the database. -/
def SchemaSource.recorded (schema : SchemaSource σ) : SchemaSource (Recorded σ) where
  columns := fun table => lift (schema.columns table)
  relationships := fun table => lift (schema.relationships table)

/-- A connection that notes every call with its answer. -/
def Connection.recorded (connection : Connection σ) : Connection (Recorded σ) where
  start := fun options => note (.start options) (fun _ => none) (connection.start options)
  execute := fun command => note (.execute command) some (connection.execute command)
  commit := note .commit (fun _ => none) connection.commit
  rollback := note .rollback (fun _ => none) connection.rollback
  startAsync := fun options => note (.start options) (fun _ => none) (connection.startAsync options)
  executeAsync := fun command => note (.execute command) some (connection.executeAsync command)
  commitAsync := note .commit (fun _ => none) connection.commitAsync
  rollbackAsync := note .rollback (fun _ => none) connection.rollbackAsync

section

variable (connection : Connection σ)

theorem Connection.recorded_start (options : TransactionOptions) :
    connection.recorded.start options
      = note (.start options) (fun _ => none) (connection.start options) := rfl

theorem Connection.recorded_execute (command : Command) :
    connection.recorded.execute command
      = note (.execute command) some (connection.execute command) := rfl

theorem Connection.recorded_commit :
    connection.recorded.commit = note .commit (fun _ => none) connection.commit := rfl

theorem Connection.recorded_rollback :
    connection.recorded.rollback = note .rollback (fun _ => none) connection.rollback := rfl

end

/-! ## Planning exchanges nothing -/

variable (schema : SchemaSource σ) (store : EntityStore)

/-- The search for references takes no exchange. -/
theorem WritePlan.key_edges_from_recorded (nodes ids : List EntityId) (first : Nat) :
    keyEdgesFrom schema.recorded store nodes first ids
      = lift (keyEdgesFrom schema store nodes first ids) := by
  induction ids generalizing first with
  | nil => rfl
  | cons head rest ih =>
      funext recorded
      rw [keyEdgesFrom, keyEdgesFrom]
      cases hentity : store.get? head with
      | none => exact congrFun (ih (first + 1)) recorded
      | some entity =>
          cases hset : (schema.relationships entity.table recorded.state).1 with
          | error cause =>
              simp only [Action.bind_apply, lift_apply, SchemaSource.recorded, hset,
                Action.pure_apply]
          | ok set =>
              have hrest := ih (first + 1)
              simp only [SchemaSource.recorded] at hrest
              simp only [Action.bind_apply, lift_apply, SchemaSource.recorded, hset,
                Action.pure_apply, hrest]

/-- Planning takes no exchange. -/
theorem WritePlan.build_recorded (ids : List EntityId) :
    build schema.recorded store ids = lift (build schema store ids) := by
  funext recorded
  simp only [build, keyEdges, key_edges_from_recorded, Action.bind_apply, lift_apply]
  cases (keyEdgesFrom schema store (inState store needsInsert ids) 0
      (inState store needsInsert ids) recorded.state).1 with
  | error error => rfl
  | ok insertEdges =>
      dsimp only
      cases ordered store (inState store needsInsert ids)
          (linkEdges store (inState store needsInsert ids) ++ insertEdges) with
      | error error => rfl
      | ok inserts =>
          simp only [Action.bind_apply, lift_apply]
          cases (keyEdgesFrom schema store (inState store needsDelete ids) 0
              (inState store needsDelete ids)
              (keyEdgesFrom schema store (inState store needsInsert ids) 0
                (inState store needsInsert ids) recorded.state).2).1 with
          | error error => rfl
          | ok deleteEdges => rfl

/-- The look-up of columns takes no exchange. -/
theorem Submission.models_recorded (steps : List WritePlan.Step) :
    models schema.recorded store steps = lift (models schema store steps) := by
  induction steps with
  | nil => rfl
  | cons head rest ih =>
      funext recorded
      rw [models, models]
      cases hentity : store.get? head.entity with
      | none => exact congrFun ih recorded
      | some entity =>
          cases hcolumns : (schema.columns entity.table recorded.state).1 with
          | error cause =>
              simp only [Action.bind_apply, lift_apply, SchemaSource.recorded, hcolumns,
                Action.pure_apply]
          | ok columns =>
              simp only [SchemaSource.recorded] at ih
              simp only [Action.bind_apply, lift_apply, SchemaSource.recorded, hcolumns,
                Action.pure_apply, ih]

/-- All that comes before the transaction takes no exchange. -/
theorem Submission.prepare_recorded (ids : List EntityId) :
    prepare schema.recorded store ids = lift (prepare schema store ids) := by
  funext recorded
  simp only [prepare, WritePlan.build_recorded, models_recorded, Action.bind_apply, lift_apply]
  cases (WritePlan.build schema store ids recorded.state).1 with
  | error error => rfl
  | ok plan => rfl

end Orm
