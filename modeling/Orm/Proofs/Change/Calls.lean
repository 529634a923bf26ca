import Orm.Proofs.Change.Flight

/-!
# What holds along the calls of a submission

A submission touches the outside by its questions to the schema and its calls of the connection, and
by nothing else. So a preorder on the states of the outside that holds along each of these holds
along the whole submission, blocking or asynchronous (`along_apply_pending`,
`along_apply_pending_async`).
-/

namespace Orm

open Orm.Action (Along)

variable {σ : Type}

/-- A relation holds along every question to a schema. -/
structure SchemaSource.Along (schema : SchemaSource σ) (R : σ → σ → Prop) : Prop where
  columns : ∀ table, Action.Along R (schema.columns table)
  relationships : ∀ table, Action.Along R (schema.relationships table)

/-- A relation holds along every blocking call of a connection. -/
structure Connection.Along (connection : Connection σ) (R : σ → σ → Prop) : Prop where
  start : ∀ options, Action.Along R (connection.start options)
  execute : ∀ command, Action.Along R (connection.execute command)
  commit : Action.Along R connection.commit
  rollback : Action.Along R connection.rollback

variable {schema : SchemaSource σ} {connection : Connection σ} {R : σ → σ → Prop}
  [IsPreorder σ R]

/-! ## Questions -/

/-- The search for references only asks for relationships. -/
theorem WritePlan.along_key_edges_from (h : schema.Along R) (store : EntityStore)
    (nodes ids : List EntityId) (first : Nat) :
    Along R (keyEdgesFrom schema store nodes first ids) := by
  induction ids generalizing first with
  | nil => exact .pure _
  | cons id rest ih =>
      rw [keyEdgesFrom]
      cases store.get? id with
      | none => exact ih (first + 1)
      | some entity =>
          refine .bind (h.relationships entity.table) fun answer => ?_
          cases answer with
          | error cause => exact .pure _
          | ok set => exact .bind (ih (first + 1)) fun _ => .pure _

/-- Planning only asks for relationships. -/
theorem WritePlan.along_build (h : schema.Along R) (store : EntityStore) (ids : List EntityId) :
    Along R (build schema store ids) := by
  refine .bind (along_key_edges_from h store _ _ 0) fun answer => ?_
  cases answer with
  | error error => exact .pure _
  | ok insertEdges =>
      dsimp only
      split
      · exact .pure _
      · refine .bind (along_key_edges_from h store _ _ 0) fun answer => ?_
        cases answer with
        | error error => exact .pure _
        | ok deleteEdges => exact .pure _

namespace Submission

/-- The look-up of columns only asks for them. -/
theorem along_models (h : schema.Along R) (store : EntityStore) (steps : List WritePlan.Step) :
    Along R (models schema store steps) := by
  induction steps with
  | nil => exact .pure _
  | cons step rest ih =>
      rw [models]
      cases store.get? step.entity with
      | none => exact ih
      | some entity =>
          refine .bind (h.columns entity.table) fun answer => ?_
          cases answer with
          | error cause => exact .pure _
          | ok columns => exact .bind ih fun _ => .pure _

/-- All that comes before the transaction are questions. -/
theorem along_prepare (h : schema.Along R) (store : EntityStore) (ids : List EntityId) :
    Along R (prepare schema store ids) := by
  refine .bind (WritePlan.along_build h store ids) fun answer => ?_
  cases answer with
  | error error => exact .pure _
  | ok plan => exact along_models h store plan.steps

/-! ## Calls -/

/-- A write executes one command or none. -/
theorem along_write (h : connection.Along R) (dialect : Dialect)
    (next : WritePlan.Step × ColumnMap) (progress : Progress) :
    Along R (write connection dialect next progress) := by
  obtain ⟨step, columns⟩ := next
  simp only [write]
  rcases progress.batch.render progress.store dialect step columns
    with ⟨error | _ | statement, batch, store⟩
  · exact .pure _
  · exact .pure _
  · refine .bind (h.execute _) fun answer => ?_
    cases answer with
    | error cause => exact .pure _
    | ok result => exact .pure _

/-- Writes are made one after the other. -/
theorem along_write_all (h : connection.Along R) (dialect : Dialect)
    (writes : List (WritePlan.Step × ColumnMap)) (progress : Progress) :
    Along R (writeAll connection dialect writes progress) := by
  induction writes generalizing progress with
  | nil => exact .pure _
  | cons next rest ih =>
      refine .bind (along_write h dialect next progress) fun answer => ?_
      rcases answer with ⟨error | _, written⟩
      · exact .pure _
      · exact ih written

/-- The writes of a transaction are followed by the commit. -/
theorem along_write_and_commit (h : connection.Along R) (dialect : Dialect)
    (writes : List (WritePlan.Step × ColumnMap)) (store : EntityStore) :
    Along R (writeAndCommit connection dialect writes store) := by
  refine .bind (along_write_all h dialect writes _) fun answer => ?_
  rcases answer with ⟨error | _, written⟩
  · exact .pure _
  · exact .bind h.commit fun _ => .pure _

end Submission

open Submission

/-- What holds along every question and call holds along a submission. -/
theorem along_apply_pending (hschema : schema.Along R) (hconnection : connection.Along R)
    (dialect : Dialect) (options : TransactionOptions) (tracked : Tracked) :
    Along R (applyPending schema connection dialect options tracked) := by
  simp only [applyPending]
  split
  · exact .pure _
  refine .bind (along_prepare hschema _ _) fun answer => ?_
  cases answer with
  | error error => exact .pure _
  | ok writes =>
      refine .bind (hconnection.start options) fun answer => ?_
      cases answer with
      | error cause => exact .pure _
      | ok opened =>
          refine .bind (along_write_and_commit hconnection dialect writes _) fun answer => ?_
          rcases answer with ⟨error | _, progress⟩
          · exact .bind hconnection.rollback fun _ => .pure _
          · exact .pure _

/-- What holds along every question and asynchronous call holds along an asynchronous submission. -/
theorem along_apply_pending_async (hschema : schema.Along R)
    (hconnection : connection.awaited.Along R) (dialect : Dialect) (options : TransactionOptions)
    (tracked : Tracked) :
    Along R (applyPendingAsync schema connection dialect options tracked) := by
  rw [apply_pending_async_eq]
  exact along_apply_pending hschema hconnection dialect options tracked

end Orm
