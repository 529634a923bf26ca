import Orm.Proofs.Context.Tracking

/-!
# Asynchronous work of a context

What a context does asynchronously is what it does by blocking calls over the awaited connection
(`submit_updates_async_eq`, `execute_query_async_eq`). If the two kinds of calls agree, so do the
two kinds of work, call by call and event by event, and so do whole sessions: this is
`asynchronous_work_agrees`.
-/

namespace Orm

variable {σ : Type}

/-- The asynchronous calls of a connection answer as its blocking ones do. -/
structure Connection.AsyncAgrees (connection : Connection σ) : Prop where
  start : connection.startAsync = connection.start
  execute : connection.executeAsync = connection.execute
  commit : connection.commitAsync = connection.commit
  rollback : connection.rollbackAsync = connection.rollback

/-- If the calls agree, it does not matter whether they are awaited. -/
theorem Connection.AsyncAgrees.awaited_eq {connection : Connection σ}
    (h : connection.AsyncAgrees) : connection.awaited = connection := by
  obtain ⟨start, execute, commit, rollback, startAsync, executeAsync, commitAsync,
    rollbackAsync⟩ := connection
  obtain ⟨hstart, hexecute, hcommit, hrollback⟩ := h
  dsimp only at hstart hexecute hcommit hrollback
  subst hstart hexecute hcommit hrollback
  rfl

/-- Commands are announced in the same way whether they are awaited or not. -/
theorem Surroundings.announced_awaited (connection : Connection σ) (hash : String)
    (timeout : Option Nat) :
    (announced connection hash timeout).awaited = announced connection.awaited hash timeout := rfl

namespace Context

/-- A context whose blocking calls are the asynchronous ones of its connection. -/
def awaited (context : Context σ) : Context σ :=
  { context with
    database := { context.database with connection := context.database.connection.awaited } }

/-- An asynchronous submission is the blocking one over the asynchronous calls. -/
theorem submit_updates_async_eq (context : Context σ) :
    context.submitUpdatesAsync = context.awaited.submitUpdates := by
  funext desk
  simp only [submitUpdatesAsync, submitUpdates, submitBy, apply_pending_async_eq, connection,
    Surroundings.announced_awaited]
  rfl

/-- An asynchronous query is the blocking one over the asynchronous calls. -/
theorem execute_query_async_eq (context : Context σ) (query : Query) :
    context.executeQueryAsync query = context.awaited.executeQuery query := rfl

variable {context : Context σ} (hagrees : context.database.connection.AsyncAgrees)

include hagrees

/-- If the calls of its connection agree, a context is the awaited one. -/
theorem awaited_eq : context.awaited = context := by
  rw [awaited, hagrees.awaited_eq]

/-- If the calls agree, both kinds of submissions are the same. -/
theorem submit_updates_async_of_agrees :
    context.submitUpdatesAsync = context.submitUpdates := by
  rw [submit_updates_async_eq, awaited_eq hagrees]

/-- If the calls agree, both kinds of queries are the same. -/
theorem execute_query_async_of_agrees (query : Query) :
    context.executeQueryAsync query = context.executeQuery query := by
  rw [execute_query_async_eq, awaited_eq hagrees]

end Context

/-! ## Sessions -/

/-- The read that blocks instead. -/
def ContextRead.blocking : ContextRead → ContextRead
  | .rowsAsync query => .rows query
  | read => read

/-- The action that blocks instead. -/
def ContextAction.blocking : ContextAction → ContextAction
  | .read kind => .read kind.blocking
  | .submitAsync => .submit
  | action => action

/-- If the calls agree, an action may block instead. -/
theorem ContextAction.perform_blocking {context : Context σ}
    (hagrees : context.database.connection.AsyncAgrees) (action : ContextAction) :
    action.blocking.perform context = action.perform context := by
  cases action with
  | read kind =>
      cases kind with
      | rowsAsync query =>
          simp only [blocking, ContextRead.blocking, perform, ContextRead.perform,
            Context.execute_query_async_of_agrees hagrees]
      | rows | groups | firstRows | rowBy | row => rfl
  | submitAsync =>
      simp only [blocking, perform, Context.submit_updates_async_of_agrees hagrees]
  | create | edit | clone | submit => rfl

/-- If the calls agree, all actions of a session may block instead. -/
theorem Context.session_blocking {context : Context σ}
    (hagrees : context.database.connection.AsyncAgrees) (actions : List ContextAction)
    (workspace : Workspace σ) :
    context.session (actions.map ContextAction.blocking) workspace
      = context.session actions workspace := by
  induction actions generalizing workspace with
  | nil => rfl
  | cons action rest ih =>
      rw [List.map_cons, session_cons, session_cons, action.perform_blocking hagrees, ih]

open Submission

/-- Over a connection whose asynchronous calls answer as the blocking ones, a submission makes the
same calls with the same answers, and ends with the same result, entities, pending set, published
events and journal, whether it is asynchronous or not. The same holds of the submissions and queries
of every context on every desk, and a session is the same if all its actions block. -/
theorem asynchronous_work_agrees {connection : Connection σ} (hagrees : connection.AsyncAgrees) :
    (∀ (schema : SchemaSource (Surroundings σ)) (hash : String) (timeout : Option Nat)
        (dialect : Dialect) (options : TransactionOptions) (tracked : Tracked)
        (around : Surroundings σ),
      let announced := Surroundings.announced connection hash timeout
      asyncExchanges schema announced dialect options tracked around
        = exchanges schema announced dialect options tracked around ∧
      applyPendingAsync schema announced dialect options tracked around
        = applyPending schema announced dialect options tracked around) ∧
    ∀ context : Context σ, context.database.connection = connection →
      (∀ desk : Desk σ, context.submitUpdatesAsync desk = context.submitUpdates desk ∧
        ∀ query, context.executeQueryAsync query desk = context.executeQuery query desk) ∧
      ∀ actions workspace, context.session (actions.map ContextAction.blocking) workspace
        = context.session actions workspace := by
  constructor
  · intro schema hash timeout dialect options tracked around announced
    have hawaited : announced.awaited = announced := by
      rw [Surroundings.announced_awaited, hagrees.awaited_eq]
    constructor
    · rw [async_exchanges_eq, hawaited]
    · rw [apply_pending_async_eq, hawaited]
  · rintro context rfl
    refine ⟨fun desk => ⟨?_, fun query => ?_⟩, Context.session_blocking hagrees⟩
    · rw [Context.submit_updates_async_of_agrees hagrees]
    · rw [Context.execute_query_async_of_agrees hagrees]

/-- A new row is inserted by the same calls in both ways, and the journal has them. -/
theorem row_inserted_either_way :
    let connection := assigningSeven (.ok ())
    let context := Context.ofNames connection
    let created := ContextAction.create (Table.named "dbo" "Customers")
    let awaited := context.session [created, .submitAsync] context.alone
    connection.AsyncAgrees ∧ context.session [created, .submit] context.alone = awaited ∧
      awaited.journal.length = 6 := by
  intro connection context created awaited
  have hagrees : connection.AsyncAgrees := ⟨rfl, rfl, rfl, rfl⟩
  obtain ⟨-, hcontexts⟩ := asynchronous_work_agrees hagrees
  obtain ⟨-, hsessions⟩ := hcontexts context rfl
  exact ⟨hagrees, hsessions [created, .submitAsync] context.alone, by decide +kernel⟩

end Orm
