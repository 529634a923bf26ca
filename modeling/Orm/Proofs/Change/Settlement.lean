import Orm.Proofs.Change.Transaction

/-!
# What a submission makes of each entity

Whatever becomes of a submission, an entity keeps its place in its table and all that is present in
it. Its state and its place in the pending set are as before, or it was written: then its state is
settled and it does not wait any more. `Submits` lists this, and `Submitted.submits` says that
every submission does so.
-/

namespace Orm

namespace EntityState

/-- The write that a state asks for. -/
def operation? : EntityState → Option WriteOperation
  | .created => some .insert
  | .modified _ => some .update
  | .deletePending => some .delete
  | .unchanged | .deleted => none

/-- A state once the write that it asks for was committed. -/
def settled : EntityState → EntityState
  | .unchanged | .created | .modified _ => .unchanged
  | .deletePending | .deleted => .deleted

/-- What is dirty asks for a write. -/
theorem is_dirty_iff {state : EntityState} :
    state.isDirty = true ↔ ∃ operation, state.operation? = some operation := by
  cases state <;> simp [isDirty, operation?]

/-- Only a new row asks for an insert. -/
theorem operation_eq_insert_iff {state : EntityState} :
    state.operation? = some .insert ↔ state = .created := by
  cases state <;> simp [operation?]

/-- The commit of the write that a state asks for settles it. -/
theorem settled_of_operation {entity : Entity} {operation : WriteOperation}
    (h : entity.state.operation? = some operation) :
    (Batch.settled operation entity).state = entity.state.settled := by
  cases hstate : entity.state <;> rw [hstate] at h <;> cases h
  · rfl
  · rfl
  · rfl

end EntityState

/-- A settled entity is the same row, in which the same columns are present. -/
theorem Batch.same_row_settled (operation : WriteOperation) (entity : Entity) :
    (settled operation entity).SameRow entity ∧ entity.PresentIn (settled operation entity) := by
  cases operation <;> exact ⟨⟨rfl, rfl, rfl⟩, fun _ _ hvalue => hvalue⟩

namespace Submission

variable {σ : Type} {schema : SchemaSource σ} {dialect : Dialect} {tracked : Tracked} {state : σ}

/-- The step of an entity in a plan is the write that its state asks for. -/
theorem Planned.operation_of_step {plan : WritePlan} {writes : List (WritePlan.Step × ColumnMap)}
    (h : Planned schema tracked state plan writes) {step : WritePlan.Step}
    (hstep : step ∈ plan.steps) {entity : Entity}
    (hentity : tracked.store.get? step.entity = some entity) :
    entity.state.operation? = some step.operation := by
  obtain ⟨hinserts, -, hupdates, hdeletes⟩ := WritePlan.arranges_of_build
    (tracked.pending.nodup_dirty tracked.store) (Prod.ext h.build rfl)
  have hstate : ∀ {test}, step.entity ∈ WritePlan.inState tracked.store test
      (tracked.pending.dirty tracked.store) → test entity.state = true := by
    intro test hmem
    obtain ⟨-, other, hother, htest⟩ := WritePlan.mem_in_state.1 hmem
    exact Option.some.inj (hentity.symm.trans hother) ▸ htest
  simp only [WritePlan.steps, List.mem_append, List.mem_map] at hstep
  rcases hstep with (⟨id, hid, rfl⟩ | ⟨id, hid, rfl⟩) | ⟨id, hid, rfl⟩
  · have hcreated := hstate (hinserts.perm.mem_iff.1 hid)
    cases hentity : entity.state <;> simp [hentity, WritePlan.needsInsert] at hcreated
    rfl
  · have hmodified := hstate (hupdates ▸ hid)
    cases hentity : entity.state <;> simp [hentity, WritePlan.needsUpdate] at hmodified
    rfl
  · have hdeleted := hstate (hdeletes.perm.mem_iff.1 hid)
    cases hentity : entity.state <;> simp [hentity, WritePlan.needsDelete] at hdeleted
    rfl

/-- A dirty entity has a step in a plan. -/
theorem Planned.step_of_dirty {plan : WritePlan} {writes : List (WritePlan.Step × ColumnMap)}
    (h : Planned schema tracked state plan writes) {id : EntityId}
    (hid : id ∈ tracked.pending.dirty tracked.store) :
    ∃ step ∈ plan.steps, step.entity = id :=
  List.mem_map.1 (h.perm_dirty.mem_iff.2 hid)

end Submission

open Submission

/-- What a submission makes of the entities of an owner. Each one is the same row and holds what it
held; its state and its place in the pending set are as before, or it was dirty and its write is
settled. -/
structure Submits (before after : Tracked) : Prop where
  missing : ∀ id, before.store.get? id = none → after.store.get? id = none
  pending : ∀ id, id ∈ after.pending.ids → id ∈ before.pending.ids
  kept : ∀ id old, before.store.get? id = some old → ∃ new, after.store.get? id = some new ∧
    new.SameRow old ∧ old.PresentIn new ∧
    (new.state = old.state ∧ (id ∈ after.pending.ids ↔ id ∈ before.pending.ids) ∨
      old.state.isDirty = true ∧ new.state = old.state.settled ∧ id ∉ after.pending.ids)

/-- To write nothing is a submission. -/
theorem Submits.refl (tracked : Tracked) : Submits tracked tracked where
  missing := fun _ hnone => hnone
  pending := fun _ hid => hid
  kept := fun _ old hold => ⟨old, hold, .refl old, fun _ _ hvalue => hvalue, .inl ⟨rfl, Iff.rfl⟩⟩

namespace Submission

variable {σ : Type} {schema : SchemaSource σ} {dialect : Dialect} {options : TransactionOptions}
  {tracked : Tracked} {state : σ} {plan : WritePlan} {entries : List Entry} {last : Progress}

/-- What was filled and taken back leaves every state as it was, and all that was present. -/
theorem submits_of_filled_from {failed : Progress} (h : Batch.FilledFrom tracked.store failed) :
    Submits tracked { tracked with store := failed.batch.revert failed.store } where
  missing := fun id hnone => by rw [Batch.revert_of_filled_from h, hnone, Option.map_none]
  pending := fun _ hid => hid
  kept := fun id old hold => by
    have hget := Batch.revert_of_filled_from h id
    rw [hold, Option.map_some] at hget
    refine ⟨_, hget, ⟨rfl, rfl, rfl⟩, fun column value hvalue => ?_, .inl ⟨rfl, Iff.rfl⟩⟩
    obtain ⟨hfind, hnull⟩ := Entity.present_eq_some_iff.1 hvalue
    rw [Entity.present_eq_some_iff, NameMap.find_filter, hfind]
    exact ⟨Option.filter_some_pos (by rw [hnull]; rfl), hnull⟩

/-- What is written and committed is settled, and the rest stays. -/
theorem submits_of_ledger
    (hplanned : Planned schema tracked state plan (entries.map Entry.write))
    (hledger : Ledger dialect ⟨.empty, tracked.store⟩ entries last) :
    Submits tracked (last.batch.finish ⟨last.store, tracked.pending⟩) := by
  have hcommitted : Committed schema dialect default tracked state _ _ _ plan entries :=
    committed_of_ledger hplanned hledger
  refine ⟨fun id hnone => ?_, fun id hid => ?_, fun id old hold => ?_⟩
  · have hclean : id ∉ tracked.pending.dirty tracked.store := fun hid => by
      obtain ⟨-, entity, hentity, -⟩ := PendingSet.mem_dirty_iff.1 hid
      cases hnone.symm.trans hentity
    rw [hcommitted.others id hclean, hnone]
  · rw [hcommitted.pending_eq] at hid
    exact (List.mem_filter.1 hid).1
  · rw [hcommitted.pending_eq]
    by_cases hid : id ∈ tracked.pending.dirty tracked.store
    · obtain ⟨step, hstep, rfl⟩ := hplanned.step_of_dirty hid
      obtain ⟨before, new, hbefore, hkept, hnew⟩ :=
        get_finish_of_planned hplanned hledger hstep
      obtain rfl := Option.some.inj (hold.symm.trans hbefore)
      have hoperation := hplanned.operation_of_step hstep hold
      have hstate : new.state = old.state := by rw [hkept.1]
      obtain ⟨hrow, hpresent⟩ := Batch.same_row_settled step.operation new
      refine ⟨_, hnew, ?_, fun column value hvalue =>
        hpresent column value (hkept.present_in column value hvalue), .inr ⟨?_, ?_, ?_⟩⟩
      · rw [hkept.1] at hrow ⊢
        exact ⟨hrow.owner, hrow.table, hrow.columns⟩
      · exact EntityState.is_dirty_iff.2 ⟨_, hoperation⟩
      · rw [← hstate] at hoperation ⊢
        exact EntityState.settled_of_operation hoperation
      · simp [hid]
    · refine ⟨old, (hcommitted.others id hid).trans hold, .refl old,
        fun _ _ hvalue => hvalue, .inl ⟨rfl, ?_⟩⟩
      simp [hid]

/-- Every submission does what `Submits` says, however it ends. -/
theorem Submitted.submits {calls : List Exchange} {result : Except PersistError Nat × Tracked}
    (h : Submitted schema dialect options tracked state calls result) :
    Submits tracked result.2 := by
  obtain ⟨outcome, after⟩ := result
  cases outcome with
  | error error =>
      obtain ⟨failed, -, hfilled, rfl⟩ := h.failed rfl
      exact submits_of_filled_from hfilled
  | ok count =>
      cases h with
      | idle => exact .refl tracked
      | ended _ hprepare hending =>
          cases hending with
          | committed hledger hwrites =>
              obtain ⟨plan, hplanned⟩ := planned_of_prepare hprepare
              exact submits_of_ledger (hwrites ▸ hplanned) hledger

end Submission

end Orm
