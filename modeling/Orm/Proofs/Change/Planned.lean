import Orm.Proofs.Change.Submission
import Orm.Proofs.Change.WritePlan

/-!
# Planned writes

The writes of a submission are those of its plan in order, each with the model of its table
(`Planned`). They are about the dirty entities, each of which has one write, so the frame of a
ledger applies to every entity at its write.
-/

namespace Orm

namespace PendingSet

/-- The dirty entities are distinct. -/
theorem nodup_dirty (pending : PendingSet) (store : EntityStore) :
    (pending.dirty store).Nodup :=
  (pending.ascending.imp fun hless => by
    rintro rfl
    exact Nat.lt_irrefl _ hless).filter _

/-- The dirty entities are those of the set in a state with something to write. -/
theorem mem_dirty_iff {pending : PendingSet} {store : EntityStore} {id : EntityId} :
    id ∈ pending.dirty store ↔ id ∈ pending.ids ∧
      ∃ entity, store.get? id = some entity ∧ entity.state.isDirty = true := by
  rw [dirty, List.mem_filter, Option.any_eq_true]

/-- All dirty entities have something to write. -/
theorem in_state_dirty (pending : PendingSet) (store : EntityStore) :
    WritePlan.inState store EntityState.isDirty (pending.dirty store) = pending.dirty store :=
  List.filter_eq_self.2 fun _ hid => (List.mem_filter.1 hid).2

end PendingSet

namespace Submission

variable {σ : Type} {schema : SchemaSource σ} {tracked : Tracked} {state : σ}

/-- The writes of a submission: those of a plan in order, each with the model of its table. -/
structure Planned (schema : SchemaSource σ) (tracked : Tracked) (state : σ) (plan : WritePlan)
    (writes : List (WritePlan.Step × ColumnMap)) : Prop where
  build : (WritePlan.build schema tracked.store (tracked.pending.dirty tracked.store) state).1
    = .ok plan
  models : (models schema tracked.store plan.steps
      (WritePlan.build schema tracked.store (tracked.pending.dirty tracked.store) state).2).1
    = .ok writes
  steps : writes.map Prod.fst = plan.steps

/-- The entities of the writes of a plan, in order. -/
theorem entities_of_steps (plan : WritePlan) :
    plan.steps.map WritePlan.Step.entity = plan.inserts ++ plan.updates ++ plan.deletes := by
  simp [WritePlan.steps, Function.comp_def]

/-- If all entities exist and the models of their tables are found, no write is left out. -/
theorem steps_of_models {store : EntityStore} {steps : List WritePlan.Step} {state : σ}
    (hexists : ∀ step ∈ steps, ∃ entity, store.get? step.entity = some entity)
    {writes : List (WritePlan.Step × ColumnMap)}
    (h : (models schema store steps state).1 = .ok writes) : writes.map Prod.fst = steps := by
  induction steps generalizing state writes with
  | nil =>
      cases h
      rfl
  | cons head rest ih =>
      obtain ⟨entity, hentity⟩ := hexists head List.mem_cons_self
      simp only [models, hentity, Action.bind_apply] at h
      cases hcolumns : (schema.columns entity.table state).1 with
      | error cause =>
          rw [hcolumns] at h
          cases h
      | ok columns =>
          simp only [hcolumns, Action.bind_apply, Action.pure_apply] at h
          obtain ⟨others, hothers, rfl⟩ := Action.map_eq_ok_iff.1 h
          have hrest := ih (fun step hstep => hexists step (List.mem_cons_of_mem _ hstep)) hothers
          rw [List.map_cons, hrest]

/-- The model of a write is what the schema has for the table of its entity, or what the entity has
if that is nothing. -/
theorem model_of_mem {store : EntityStore} {steps : List WritePlan.Step} {state : σ}
    {writes : List (WritePlan.Step × ColumnMap)}
    (h : (models schema store steps state).1 = .ok writes) {write : WritePlan.Step × ColumnMap}
    (hmem : write ∈ writes) {entity : Entity} (hentity : store.get? write.1.entity = some entity) :
    ∃ asked found, (schema.columns entity.table asked).1 = .ok found ∧
      write.2 = if found.isEmpty then entity.columns else found := by
  induction steps generalizing state writes with
  | nil =>
      cases h
      cases hmem
  | cons head rest ih =>
      cases hknown : store.get? head.entity with
      | none =>
          simp only [models, hknown] at h
          exact ih h hmem
      | some known =>
          simp only [models, hknown, Action.bind_apply] at h
          cases hcolumns : (schema.columns known.table state).1 with
          | error cause =>
              rw [hcolumns] at h
              cases h
          | ok columns =>
              simp only [hcolumns, Action.bind_apply, Action.pure_apply] at h
              obtain ⟨others, hothers, rfl⟩ := Action.map_eq_ok_iff.1 h
              rcases List.mem_cons.1 hmem with rfl | hmem
              · obtain rfl := Option.some.inj (hknown.symm.trans hentity)
                exact ⟨state, columns, hcolumns, rfl⟩
              · exact ih hothers hmem

/-- What is prepared before the transaction is a plan and its writes. -/
theorem planned_of_prepare {writes : List (WritePlan.Step × ColumnMap)}
    (h : (prepare schema tracked.store (tracked.pending.dirty tracked.store) state).1
      = .ok writes) : ∃ plan, Planned schema tracked state plan writes := by
  simp only [prepare, Action.bind_apply] at h
  cases hbuild : (WritePlan.build schema tracked.store (tracked.pending.dirty tracked.store)
      state).1 with
  | error error =>
      rw [hbuild] at h
      cases h
  | ok plan =>
      rw [hbuild] at h
      have hperm := WritePlan.perm_dirty_of_build
        (tracked.pending.nodup_dirty tracked.store) (Prod.ext hbuild rfl)
      rw [PendingSet.in_state_dirty, ← entities_of_steps] at hperm
      refine ⟨plan, hbuild, h, steps_of_models (fun step hstep => ?_) h⟩
      have hdirty := hperm.mem_iff.1 (List.mem_map_of_mem hstep)
      obtain ⟨-, entity, hentity, -⟩ := PendingSet.mem_dirty_iff.1 hdirty
      exact ⟨entity, hentity⟩

namespace Planned

variable {plan : WritePlan} {writes : List (WritePlan.Step × ColumnMap)}

/-- The writes of a plan are about the dirty entities. -/
theorem perm_dirty (h : Planned schema tracked state plan writes) :
    (plan.steps.map WritePlan.Step.entity).Perm (tracked.pending.dirty tracked.store) := by
  rw [entities_of_steps]
  have hperm := WritePlan.perm_dirty_of_build (tracked.pending.nodup_dirty tracked.store)
    (Prod.ext h.build rfl)
  rwa [PendingSet.in_state_dirty] at hperm

/-- Every dirty entity has one write. -/
theorem nodup_entities (h : Planned schema tracked state plan writes) :
    (plan.steps.map WritePlan.Step.entity).Nodup :=
  h.perm_dirty.nodup_iff.2 (tracked.pending.nodup_dirty tracked.store)

end Planned

end Submission

end Orm
