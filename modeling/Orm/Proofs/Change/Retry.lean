import Orm.Proofs.Change.Nulls
import Orm.Proofs.Change.Rollback

/-!
# A failed submission can be repeated

A submission that fails leaves the entities as they were but for nulls, and nulls make no difference
to a submission (`apply_pending_without_nulls`). So the next one makes the calls that it would have
made at the beginning: `failed_submission_can_be_repeated`.
-/

namespace Orm

namespace Submission

variable {σ : Type}

/-- The state of a submission without nulls in its entities. -/
def Progress.withoutNulls (progress : Progress) : Progress :=
  { progress with store := progress.store.withoutNulls }

/-! ## Nulls make no difference -/

/-- The models of the tables are the same, found by the same questions. -/
theorem models_without_nulls (schema : SchemaSource σ) (store : EntityStore)
    (steps : List WritePlan.Step) :
    models schema store.withoutNulls steps = models schema store steps := by
  induction steps with
  | nil => rfl
  | cons step rest ih =>
      rw [models, models, store.get_without_nulls]
      cases store.get? step.entity with
      | none => exact ih
      | some entity => simp only [Option.map_some, ih]; rfl

/-- The same writes are prepared. -/
theorem prepare_without_nulls (schema : SchemaSource σ) (store : EntityStore)
    (ids : List EntityId) :
    prepare schema store.withoutNulls ids = prepare schema store ids := by
  simp only [prepare, WritePlan.build_without_nulls, models_without_nulls]

variable (connection : Connection σ) (dialect : Dialect)

/-- A write executes the same statement with the same outcome. -/
theorem write_without_nulls (next : WritePlan.Step × ColumnMap) (progress : Progress) (state : σ) :
    write connection dialect next progress.withoutNulls state
      = (((write connection dialect next progress state).1.1,
          (write connection dialect next progress state).1.2.withoutNulls),
        (write connection dialect next progress state).2) := by
  obtain ⟨step, columns⟩ := next
  simp only [write, Progress.withoutNulls, Batch.render_without_nulls]
  rcases progress.batch.render progress.store dialect step columns
    with ⟨error | _ | statement, batch, store⟩
  · rfl
  · simp only [Batch.absorb_without_nulls]
    rfl
  · simp only [Action.bind_apply]
    cases (connection.execute (statement.command dialect) state).1 with
    | error cause => simp only [Batch.statement_error_without_nulls]; rfl
    | ok result => simp only [Batch.absorb_without_nulls]; rfl

/-- Writes execute the same statements with the same outcome. -/
theorem write_all_without_nulls (writes : List (WritePlan.Step × ColumnMap))
    (progress : Progress) (state : σ) :
    writeAll connection dialect writes progress.withoutNulls state
      = (((writeAll connection dialect writes progress state).1.1,
          (writeAll connection dialect writes progress state).1.2.withoutNulls),
        (writeAll connection dialect writes progress state).2) := by
  induction writes generalizing progress state with
  | nil => rfl
  | cons next rest ih =>
      simp only [writeAll, Action.bind_apply, write_without_nulls]
      rcases write connection dialect next progress state with ⟨⟨error | _, written⟩, executed⟩
      · rfl
      · exact ih written executed

/-- What concludes a submission is the same. -/
theorem conclude_without_nulls (pending : PendingSet) (outcome : Except PersistError Unit)
    (progress : Progress) (state : σ) :
    conclude connection pending (outcome, progress.withoutNulls) state
      = (((conclude connection pending (outcome, progress) state).1.1,
          (conclude connection pending (outcome, progress) state).1.2.withoutNulls),
        (conclude connection pending (outcome, progress) state).2) := by
  cases outcome with
  | error error =>
      simp only [conclude, Progress.withoutNulls, Batch.revert_without_nulls]
      rfl
  | ok done =>
      simp only [conclude, Progress.withoutNulls, Batch.revert_without_nulls, Action.bind_apply]
      cases (connection.commit state).1 with
      | error cause => rfl
      | ok closed =>
          have hfinish := progress.batch.finish_without_nulls ⟨progress.store, pending⟩
          simp only [Tracked.withoutNulls] at hfinish
          simp only [hfinish]
          rfl

end Submission

open Submission

variable {σ : Type}

/-- A submission does the same without the nulls of its entities, and leaves the same but for
nulls. -/
theorem apply_pending_without_nulls (schema : SchemaSource σ) (connection : Connection σ)
    (dialect : Dialect) (options : TransactionOptions) (tracked : Tracked) (state : σ) :
    applyPending schema connection dialect options tracked.withoutNulls state
      = (((applyPending schema connection dialect options tracked state).1.1,
          (applyPending schema connection dialect options tracked state).1.2.withoutNulls),
        (applyPending schema connection dialect options tracked state).2) := by
  have hdirty : tracked.withoutNulls.pending.dirty tracked.withoutNulls.store
      = tracked.pending.dirty tracked.store :=
    tracked.pending.dirty_without_nulls tracked.store
  by_cases hidle : tracked.pending.dirty tracked.store = []
  · simp only [applyPending, hdirty, hidle, List.isEmpty_nil, if_true]
    rfl
  have hprepared : prepare schema tracked.withoutNulls.store
      (tracked.withoutNulls.pending.dirty tracked.withoutNulls.store)
      = prepare schema tracked.store (tracked.pending.dirty tracked.store) := by
    rw [hdirty]
    exact prepare_without_nulls schema tracked.store _
  rcases hprepare : prepare schema tracked.store (tracked.pending.dirty tracked.store) state
    with ⟨error | writes, prepared⟩
  · rw [applyPending, applyPending, if_neg (by simpa [hdirty] using hidle),
      if_neg (by simpa using hidle)]
    simp only [Action.bind_apply, hprepared, hprepare]
    rfl
  rcases hstart : connection.start options prepared with ⟨cause | _, opened⟩
  · rw [applyPending, applyPending, if_neg (by simpa [hdirty] using hidle),
      if_neg (by simpa using hidle)]
    simp only [Action.bind_apply, hprepared, hprepare, hstart]
    rfl
  · rw [apply_pending_of_start hidle hprepare hstart,
      apply_pending_of_start (hdirty ▸ hidle) (hprepared ▸ hprepare) hstart]
    have hwritten := write_all_without_nulls connection dialect writes ⟨.empty, tracked.store⟩
      opened
    simp only [Progress.withoutNulls] at hwritten
    simp only [Action.bind_apply, Tracked.withoutNulls, hwritten]
    exact conclude_without_nulls connection tracked.pending _ _ _

namespace Submission

/-! ## Submissions of the same entities -/

/-- Two owners' entities are submitted alike: with the same calls and answers and the same result,
after which the outside is in the same state and the entities are the same but for nulls. -/
structure SubmittedAlike (run : Tracked → σ → (Except PersistError Nat × Tracked) × σ)
    (calls : Tracked → σ → List Exchange) (left right : Tracked) (state : σ) : Prop where
  calls_eq : calls left state = calls right state
  result_eq : (run left state).1.1 = (run right state).1.1
  state_eq : (run left state).2 = (run right state).2
  entities_eq : (run left state).1.2.withoutNulls = (run right state).1.2.withoutNulls

/-- Entities that are the same but for nulls are submitted alike. -/
theorem submitted_alike_of_without_nulls (schema : SchemaSource σ) (connection : Connection σ)
    (dialect : Dialect) (options : TransactionOptions) {left right : Tracked}
    (h : left.withoutNulls = right.withoutNulls) (state : σ) :
    SubmittedAlike (applyPending schema connection dialect options)
      (exchanges schema connection dialect options) left right state := by
  have hsame := apply_pending_without_nulls schema connection dialect options left state
  rw [h, apply_pending_without_nulls, Prod.mk.injEq, Prod.mk.injEq] at hsame
  obtain ⟨⟨hresult, hentities⟩, hstate⟩ := hsame
  have hcalls := apply_pending_without_nulls schema.recorded connection.recorded dialect options
    left ⟨state, []⟩
  rw [h, apply_pending_without_nulls] at hcalls
  exact ⟨congrArg (fun run => run.2.exchanges) hcalls.symm, hresult.symm, hstate.symm,
    hentities.symm⟩

/-- Asynchronously entities that are the same but for nulls are submitted alike. -/
theorem async_submitted_alike_of_without_nulls (schema : SchemaSource σ)
    (connection : Connection σ) (dialect : Dialect) (options : TransactionOptions)
    {left right : Tracked} (h : left.withoutNulls = right.withoutNulls) (state : σ) :
    SubmittedAlike (applyPendingAsync schema connection dialect options)
      (asyncExchanges schema connection dialect options) left right state := by
  have hcalls : asyncExchanges schema connection dialect options
      = exchanges schema connection.awaited dialect options :=
    funext fun tracked => funext fun state =>
      async_exchanges_eq schema connection dialect options tracked state
  have hrun : applyPendingAsync schema connection dialect options
      = applyPending schema connection.awaited dialect options :=
    funext fun tracked => apply_pending_async_eq schema connection dialect options tracked
  rw [hcalls, hrun]
  exact submitted_alike_of_without_nulls schema connection.awaited dialect options h state

/-- What a failed submission leaves is what there was, but for nulls. -/
theorem TakenBack.without_nulls {schema : SchemaSource σ} {dialect : Dialect}
    {options : TransactionOptions} {tracked after : Tracked} {state : σ} {calls : List Exchange}
    {error : PersistError}
    (h : TakenBack schema dialect options tracked state calls error after) :
    after.withoutNulls = tracked.withoutNulls := by
  obtain ⟨hpending, failed, -, hget, -⟩ := h
  have hstore : after.store.withoutNulls = tracked.store.withoutNulls := by
    refine EntityStore.ext_get fun id => ?_
    rw [EntityStore.get_without_nulls, EntityStore.get_without_nulls, hget, Option.map_map]
    congr 1
    funext entity
    simp only [Function.comp_apply, Entity.withoutNulls]
    congr 1
    refine NameMap.ext_find fun column => ?_
    rw [NameMap.find_filter, NameMap.find_filter, NameMap.find_filter, Option.filter_filter]
    congr 1
    funext value
    cases value.isNull <;> simp
  rw [Tracked.withoutNulls, Tracked.withoutNulls, hstore, hpending]

/-- A submission that failed, blocking or asynchronous and wherever it failed, can be repeated: the
next one, under whatever schema and database, makes the calls and has the result that it would have
had before the failed one. -/
theorem failed_submission_can_be_repeated {τ : Type} (failing : SchemaSource σ)
    (refusing : Connection σ) (first : Dialect) (opening : TransactionOptions) (tracked : Tracked)
    (before : σ) {error : PersistError} {failed : Tracked}
    (hfailed : (applyPending failing refusing first opening tracked before).1
        = (.error error, failed) ∨
      (applyPendingAsync failing refusing first opening tracked before).1
        = (.error error, failed))
    (schema : SchemaSource τ) (connection : Connection τ) (dialect : Dialect)
    (options : TransactionOptions) (state : τ) :
    SubmittedAlike (applyPending schema connection dialect options)
        (exchanges schema connection dialect options) failed tracked state ∧
      SubmittedAlike (applyPendingAsync schema connection dialect options)
        (asyncExchanges schema connection dialect options) failed tracked state := by
  have hsame : failed.withoutNulls = tracked.withoutNulls := by
    rcases hfailed with hfailed | hfailed
    · have htaken := (submitted_exchanges failing refusing first opening tracked
        before).taken_back (congrArg Prod.fst hfailed)
      rw [hfailed] at htaken
      exact htaken.without_nulls
    · have htaken := (async_submitted_exchanges failing refusing first opening tracked
        before).taken_back (congrArg Prod.fst hfailed)
      rw [hfailed] at htaken
      exact htaken.without_nulls
  exact ⟨submitted_alike_of_without_nulls schema connection dialect options hsame state,
    async_submitted_alike_of_without_nulls schema connection dialect options hsame state⟩

/-- A refused commit loses the null of the key. The next submission executes the insert that reads
the key back all the same, and succeeds. -/
theorem null_key_repeated :
    let refusing := assigningSeven (.error (.transaction "down"))
    let failed := (applyPending WritePlan.unrelated refusing .brackets default keySetToNull ()).1.2
    failed ≠ keySetToNull ∧
    SubmittedAlike (applyPending WritePlan.unrelated (assigningSeven (.ok ())) .brackets default)
      (exchanges WritePlan.unrelated (assigningSeven (.ok ())) .brackets default) failed
      keySetToNull () ∧
    (applyPending WritePlan.unrelated (assigningSeven (.ok ())) .brackets default failed ()).1.1
      = .ok 1 := by
  intro refusing failed
  have hfailed : (applyPending WritePlan.unrelated refusing .brackets default keySetToNull ()).1
      = (.error (.transaction (.transaction "down")), failed) := by decide
  exact ⟨by decide, (failed_submission_can_be_repeated WritePlan.unrelated refusing .brackets
    default keySetToNull () (.inl hfailed) WritePlan.unrelated (assigningSeven (.ok ())) .brackets
    default ()).1, by decide⟩

end Submission

end Orm
