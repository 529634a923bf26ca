import Orm.Proofs.Change.Settlement
import Orm.Proofs.Entity.Edits

/-!
# What an action of a context can do

`Effect` lists what a single action of a context makes of the entities and of the pending set, with
the columns whose tracked write it records. That the pending set has the dirty entities of the
context is preserved (`Effect.in_step`); what becomes of an entity is `Effect.kept`, and where the
edited columns of one come from is `Effect.modified_columns`.
-/

namespace Orm

/-- What an action of a context makes of the entities and of its pending set, with the columns whose
tracked write it records: rows that were read are added, a row that waits for its write is added, an
entity of the context is edited, another entity is edited, or the changes are submitted. -/
inductive Effect (owner : OwnerId) (before : Tracked) :
    List (EntityId × String) → Tracked → Prop
  | read (rows : List Entity)
      (hrows : ∀ row ∈ rows, row.owner = some owner ∧ row.state = .unchanged) :
      Effect owner before [] ⟨(before.store.addAll rows).2, before.pending⟩
  | added (row : Entity) (howner : row.owner = some owner)
      (hstate : row.state = .created ∨
        ∃ columns, row.state = .modified columns ∧ columns.Nodup) :
      Effect owner before (row.state.modifiedColumns.map (Prod.mk (before.store.add row).1))
        ⟨(before.store.add row).2, before.pending.mark (before.store.add row).1⟩
  | edited {id : EntityId} {edited : Edited} (hedits : edited.EditsOf id before.store)
      (hown : ∃ entity, before.store.get? id = some entity ∧ entity.owner = some owner) :
      Effect owner before (Notice.written edited.notices)
        ⟨edited.store, edited.notices.foldl PendingSet.notice before.pending⟩
  | editedElsewhere {id : EntityId} {edited : Edited} (hedits : edited.EditsOf id before.store)
      (hother : ∀ entity, before.store.get? id = some entity → entity.owner ≠ some owner) :
      Effect owner before (Notice.written edited.notices) ⟨edited.store, before.pending⟩
  | submitted {after : Tracked} (hsubmits : Submits before after) : Effect owner before [] after

/-- The pending set has exactly the entities of the owner that have something to write. -/
def InStep (owner : OwnerId) (tracked : Tracked) : Prop :=
  ∀ id, id ∈ tracked.pending.ids ↔ ∃ entity, tracked.store.get? id = some entity ∧
    entity.owner = some owner ∧ entity.state.isDirty = true

variable {owner : OwnerId} {before after : Tracked} {written : List (EntityId × String)}

/-- Of an entity of the owner the pending set says whether it has something to write. -/
theorem InStep.mem_pending_iff (h : InStep owner before) {id : EntityId} {entity : Entity}
    (hentity : before.store.get? id = some entity) (howner : entity.owner = some owner) :
    id ∈ before.pending.ids ↔ entity.state.isDirty = true := by
  rw [h id]
  constructor
  · rintro ⟨other, hother, -, hdirty⟩
    exact Option.some.inj (hother.symm.trans hentity) ▸ hdirty
  · exact fun hdirty => ⟨entity, hentity, howner, hdirty⟩

/-- No entity of another owner, and none that does not exist, is in the pending set. -/
theorem InStep.not_mem_pending (h : InStep owner before) {id : EntityId}
    (hother : ∀ entity, before.store.get? id = some entity → entity.owner ≠ some owner) :
    id ∉ before.pending.ids := by
  rw [h id]
  rintro ⟨entity, hentity, howner, -⟩
  exact hother entity hentity howner

/-- Whether an entity is in step depends on nothing but itself and its place in the pending set. -/
theorem in_step_congr {id : EntityId} (hget : after.store.get? id = before.store.get? id)
    (hpending : id ∈ after.pending.ids ↔ id ∈ before.pending.ids) (h : InStep owner before) :
    id ∈ after.pending.ids ↔ ∃ entity, after.store.get? id = some entity ∧
      entity.owner = some owner ∧ entity.state.isDirty = true := by
  rw [hpending, hget, h id]

/-- Edits of an entity of the owner keep the pending set in step. -/
theorem InStep.of_edits_of (h : InStep owner before) {target : EntityId} {edited : Edited}
    (hedits : edited.EditsOf target before.store) {entity : Entity}
    (hentity : before.store.get? target = some entity) (howner : entity.owner = some owner) :
    InStep owner ⟨edited.store, edited.notices.foldl PendingSet.notice before.pending⟩ := by
  obtain ⟨edit, hedit, hruns⟩ := hedits.edits entity hentity
  intro id
  by_cases hsame : id = target
  · subst hsame
    rw [hruns.mem_pending (h.mem_pending_iff hentity howner), hedit]
    simp [hruns.same_row.owner, howner]
  · exact in_step_congr (hedits.others id hsame) (hruns.mem_pending_of_ne hsame _) h

/-- Edits of another entity, of which the owner is not told, keep the pending set in step. -/
theorem InStep.of_edits_elsewhere (h : InStep owner before) {target : EntityId} {edited : Edited}
    (hedits : edited.EditsOf target before.store)
    (hother : ∀ entity, before.store.get? target = some entity → entity.owner ≠ some owner) :
    InStep owner ⟨edited.store, before.pending⟩ := by
  intro id
  by_cases hsame : id = target
  · subst hsame
    refine iff_of_false (h.not_mem_pending hother) ?_
    rintro ⟨edit, hedit, howner, -⟩
    cases hentity : before.store.get? id with
    | none => cases (hedits.missing hentity).1.symm.trans hedit
    | some entity =>
        obtain ⟨after, hafter, hruns⟩ := hedits.edits entity hentity
        obtain rfl := Option.some.inj (hedit.symm.trans hafter)
        exact hother entity hentity (hruns.same_row.owner.symm.trans howner)
  · exact in_step_congr (hedits.others id hsame) Iff.rfl h

/-- A submission keeps the pending set in step. -/
theorem InStep.of_submits (h : InStep owner before) (hsubmits : Submits before after) :
    InStep owner after := by
  intro id
  cases hentity : before.store.get? id with
  | none =>
      rw [hsubmits.missing id hentity]
      refine iff_of_false (fun hid => ?_) (by simp)
      exact h.not_mem_pending (by simp [hentity]) (hsubmits.pending id hid)
  | some old =>
      obtain ⟨new, hnew, hrow, -, hstate⟩ := hsubmits.kept id old hentity
      simp only [hnew, Option.some.injEq, exists_eq_left', hrow.owner]
      rcases hstate with ⟨hsame, hpending⟩ | ⟨-, hsettled, hgone⟩
      · rw [hpending, hsame, h id, hentity]
        simp
      · refine iff_of_false hgone ?_
        rw [hsettled]
        cases old.state <;> simp [EntityState.settled, EntityState.isDirty]

namespace Effect

/-- Every action keeps the pending set in step with the entities. -/
theorem in_step (heffect : Effect owner before written after) (h : InStep owner before) :
    InStep owner after := by
  cases heffect with
  | read rows hrows =>
      intro id
      rw [h id]
      constructor
      · rintro ⟨entity, hentity, hdirty⟩
        exact ⟨entity, EntityStore.get_add_all_of_get hentity rows, hdirty⟩
      · rintro ⟨entity, hentity, howner, hdirty⟩
        rcases EntityStore.get_add_all_cases hentity with hold | ⟨-, hnew⟩
        · exact ⟨entity, hold, howner, hdirty⟩
        · rw [(hrows entity hnew).2] at hdirty
          cases hdirty
  | added row howner hstate =>
      intro id
      by_cases hnew : id = (before.store.add row).1
      · have hdirty : row.state.isDirty = true := by
          rcases hstate with hstate | ⟨columns, hstate, -⟩ <;> rw [hstate] <;> rfl
        refine iff_of_true (PendingSet.mem_mark.2 (.inl hnew)) ⟨row, ?_, howner, hdirty⟩
        rw [EntityStore.get_add, if_pos hnew]
      · refine in_step_congr (by rw [EntityStore.get_add, if_neg hnew]) ?_ h
        rw [PendingSet.mem_mark]
        exact or_iff_right hnew
  | edited hedits hown =>
      obtain ⟨entity, hentity, howner⟩ := hown
      exact h.of_edits_of hedits hentity howner
  | editedElsewhere hedits hother => exact h.of_edits_elsewhere hedits hother
  | submitted hsubmits => exact h.of_submits hsubmits

/-- What becomes of an entity: it is the same row, its columns that were not written keep what is
present in them, it is new only if it was, and one that waits for its delete goes on to wait until
it is deleted. -/
structure Kept (id : EntityId) (written : List (EntityId × String)) (old new : Entity) :
    Prop where
  row : new.SameRow old
  present : ∀ column value, (id, column) ∉ written → old.present? column = some value →
    new.present? column = some value
  created : new.state = .created → old.state = .created
  delete_pending : old.state = .deletePending → new.state = .deletePending ∨ new.state = .deleted
  deleted : old.state = .deleted → new.state = .deleted

/-- An entity that no action touches is kept. -/
theorem Kept.refl (id : EntityId) (entity : Entity) : Kept id written entity entity where
  row := .refl entity
  present := fun _ _ _ hvalue => hvalue
  created := fun hstate => hstate
  delete_pending := .inl
  deleted := fun hstate => hstate

/-- An entity is kept by an action and by what follows it. -/
theorem Kept.trans {id : EntityId} {more : List (EntityId × String)} {old between new : Entity}
    (hfirst : Kept id written old between) (hsecond : Kept id more between new) :
    Kept id (written ++ more) old new where
  row := ⟨hsecond.row.owner.trans hfirst.row.owner, hsecond.row.table.trans hfirst.row.table,
    hsecond.row.columns.trans hfirst.row.columns⟩
  present := fun column value hcolumn hvalue => by
    obtain ⟨hbefore, hlater⟩ := not_or.1 (mt List.mem_append.2 hcolumn)
    exact hsecond.present column value hlater (hfirst.present column value hbefore hvalue)
  created := fun hstate => hfirst.created (hsecond.created hstate)
  delete_pending := fun hstate =>
    (hfirst.delete_pending hstate).elim hsecond.delete_pending fun hgone =>
      .inr (hsecond.deleted hgone)
  deleted := fun hstate => hsecond.deleted (hfirst.deleted hstate)

/-- An entity that is edited is kept. -/
theorem Kept.of_edits {id : EntityId} {notices : List Notice} {old new : Entity}
    (h : Entity.Edits id old notices new) : Kept id (Notice.written notices) old new where
  row := h.same_row
  present := fun column value hcolumn hvalue => by
    rw [Notice.mem_written] at hcolumn
    rwa [Entity.present?, h.find_of_not_changed hcolumn]
  created := h.created_of_created
  delete_pending := fun hstate => .inl ((h.silent_of_refused (.inl hstate)).1.trans hstate)
  deleted := fun hstate => (h.silent_of_refused (.inr hstate)).1.trans hstate

/-- Edits of one entity keep all entities. -/
theorem kept_of_edits_of {target id : EntityId} {store : EntityStore} {edited : Edited}
    (hedits : edited.EditsOf target store) {old : Entity} (hold : store.get? id = some old) :
    ∃ new, edited.store.get? id = some new ∧ Kept id (Notice.written edited.notices) old new := by
  by_cases hsame : id = target
  · subst hsame
    obtain ⟨new, hnew, hruns⟩ := hedits.edits old hold
    exact ⟨new, hnew, .of_edits hruns⟩
  · exact ⟨old, (hedits.others id hsame).trans hold, .refl id old⟩

/-- Every action keeps every entity. -/
theorem kept (heffect : Effect owner before written after) {id : EntityId} {old : Entity}
    (hold : before.store.get? id = some old) :
    ∃ new, after.store.get? id = some new ∧ Kept id written old new := by
  cases heffect with
  | read rows _ => exact ⟨old, EntityStore.get_add_all_of_get hold rows, .refl id old⟩
  | added row _ _ =>
      have hother : id ≠ (before.store.add row).1 := by
        rintro rfl
        rw [EntityStore.get_add_fst] at hold
        cases hold
      exact ⟨old, by rw [EntityStore.get_add, if_neg hother, hold], .refl id old⟩
  | edited hedits _ => exact kept_of_edits_of hedits hold
  | editedElsewhere hedits _ => exact kept_of_edits_of hedits hold
  | submitted hsubmits =>
      obtain ⟨new, hnew, hrow, hpresent, hstate⟩ := hsubmits.kept id old hold
      refine ⟨new, hnew, hrow, fun column value _ => hpresent column value, fun hcreated => ?_,
        fun hwaits => ?_, fun hgone => ?_⟩
      · rcases hstate with ⟨hsame, -⟩ | ⟨-, hsettled, -⟩
        · exact hsame.symm.trans hcreated
        · cases hbefore : old.state <;> rw [hcreated, hbefore] at hsettled <;> cases hsettled
      · rcases hstate with ⟨hsame, -⟩ | ⟨-, hsettled, -⟩
        · exact .inl (hsame.trans hwaits)
        · rw [hwaits] at hsettled
          exact .inr hsettled
      · rcases hstate with ⟨hsame, -⟩ | ⟨hdirty, -, -⟩
        · exact hsame.trans hgone
        · rw [hgone] at hdirty
          cases hdirty

/-- An entity whose state stays as it is, and of which no column is written, is pending if it
was. -/
theorem mem_pending_iff_of_untouched {id : EntityId} {old new : Entity}
    (hpending : id ∈ before.pending.ids → old.state.isDirty = true) (hstate : new.state = old.state)
    (hsilent : ∀ column, (id, column) ∉ written)
    (hwaits : id ∈ after.pending.ids ↔ id ∈ before.pending.ids) :
    id ∈ after.pending.ids ↔ new.state.isDirty = true ∧
      (id ∈ before.pending.ids ∨ old.state.isKept = true ∧ new.state = .deletePending ∨
        ∃ column, (id, column) ∈ written) := by
  simp only [hstate, hsilent, EntityState.not_kept_and_delete_pending, hwaits, exists_false,
    or_false]
  exact ⟨fun hid => ⟨hpending hid, hid⟩, And.right⟩

/-- After an action the pending set has an entity of the owner if there is something to write for it
and it was there before, or the action asked for it: it marked a row for deletion or wrote a
column. -/
theorem mem_pending_iff (heffect : Effect owner before written after) {id : EntityId}
    {old new : Entity} (hold : before.store.get? id = some old) (howner : old.owner = some owner)
    (hpending : id ∈ before.pending.ids → old.state.isDirty = true)
    (hnew : after.store.get? id = some new) :
    id ∈ after.pending.ids ↔ new.state.isDirty = true ∧
      (id ∈ before.pending.ids ∨ old.state.isKept = true ∧ new.state = .deletePending ∨
        ∃ column, (id, column) ∈ written) := by
  cases heffect with
  | read rows _ =>
      obtain rfl := Option.some.inj ((EntityStore.get_add_all_of_get hold rows).symm.trans hnew)
      exact mem_pending_iff_of_untouched hpending rfl (fun _ => List.not_mem_nil) Iff.rfl
  | added row _ _ =>
      have hother : id ≠ (before.store.add row).1 := by
        rintro rfl
        rw [EntityStore.get_add_fst] at hold
        cases hold
      rw [EntityStore.get_add, if_neg hother, hold] at hnew
      obtain rfl := Option.some.inj hnew
      refine mem_pending_iff_of_untouched hpending rfl (fun column hmem => ?_) ?_
      · obtain ⟨_, _, hpair⟩ := List.mem_map.1 hmem
        exact hother (Prod.mk.inj hpair).1.symm
      · rw [PendingSet.mem_mark]
        exact or_iff_right hother
  | @edited target edited hedits hown =>
      obtain ⟨entity, hentity, -⟩ := hown
      obtain ⟨edit, hedit, hruns⟩ := hedits.edits entity hentity
      by_cases htarget : id = target
      · subst htarget
        obtain rfl := Option.some.inj (hold.symm.trans hentity)
        obtain rfl := Option.some.inj (hnew.symm.trans hedit)
        simpa only [Notice.mem_written] using hruns.mem_pending_iff hpending
      · rw [hedits.others id htarget, hold] at hnew
        obtain rfl := Option.some.inj hnew
        exact mem_pending_iff_of_untouched hpending rfl
          (fun column hmem => htarget (hedits.of_changed (Notice.mem_written.1 hmem)).1)
          (hruns.mem_pending_of_ne htarget before.pending)
  | @editedElsewhere target edited hedits hother =>
      have htarget : id ≠ target := by
        rintro rfl
        exact hother old hold howner
      rw [hedits.others id htarget, hold] at hnew
      obtain rfl := Option.some.inj hnew
      exact mem_pending_iff_of_untouched hpending rfl
        (fun column hmem => htarget (hedits.of_changed (Notice.mem_written.1 hmem)).1) Iff.rfl
  | submitted hsubmits =>
      obtain ⟨other, hget, -, -, ⟨hstate, hwaits⟩ | ⟨-, hsettled, hgone⟩⟩ :=
        hsubmits.kept id old hold
      · obtain rfl := Option.some.inj (hget.symm.trans hnew)
        exact mem_pending_iff_of_untouched hpending hstate (fun _ => List.not_mem_nil) hwaits
      · obtain rfl := Option.some.inj (hget.symm.trans hnew)
        refine iff_of_false hgone fun hdirty => ?_
        rw [hsettled] at hdirty
        cases hbefore : old.state <;> rw [hbefore] at hdirty <;> cases hdirty.1

/-- No column is written of a row that is marked for deletion, or deleted. -/
theorem not_mem_written_of_refused (heffect : Effect owner before written after) {id : EntityId}
    {old : Entity} (hold : before.store.get? id = some old)
    (hstate : old.state = .deletePending ∨ old.state = .deleted) (column : String) :
    (id, column) ∉ written := by
  have hsilent : ∀ {target : EntityId} {edited : Edited}, edited.EditsOf target before.store →
      (id, column) ∉ Notice.written edited.notices := by
    intro target edited hedits hmem
    have hchanged := Notice.mem_written.1 hmem
    obtain ⟨rfl, entity, after, hentity, hruns⟩ := hedits.of_changed hchanged
    obtain rfl := Option.some.inj (hold.symm.trans hentity)
    rw [(hruns.silent_of_refused hstate).2] at hchanged
    cases hchanged
  cases heffect with
  | read rows _ => exact List.not_mem_nil
  | added row _ _ =>
      intro hmem
      obtain ⟨_, _, hpair⟩ := List.mem_map.1 hmem
      rw [← (Prod.mk.inj hpair).1, EntityStore.get_add_fst] at hold
      cases hold
  | edited hedits _ => exact hsilent hedits
  | editedElsewhere hedits _ => exact hsilent hedits
  | submitted _ => exact List.not_mem_nil

/-- Edits of one entity add the written columns to the edited ones of every row that stands in the
database. -/
theorem modified_columns_of_edits_of {target id : EntityId} {store : EntityStore} {edited : Edited}
    (hedits : edited.EditsOf target store) {new : Entity}
    (hnew : edited.store.get? id = some new) (hkept : new.state.isKept = true) :
    ∃ old, store.get? id = some old ∧ old.state.isKept = true ∧
      (old.state.modifiedColumns.Nodup → new.state.modifiedColumns.Nodup) ∧
      ∀ column, column ∈ new.state.modifiedColumns ↔
        column ∈ old.state.modifiedColumns ∨ (id, column) ∈ Notice.written edited.notices := by
  simp only [Notice.mem_written]
  by_cases hsame : id = target
  · subst hsame
    cases hold : store.get? id with
    | none => cases (hedits.missing hold).1.symm.trans hnew
    | some old =>
        obtain ⟨after, hafter, hruns⟩ := hedits.edits old hold
        obtain rfl := Option.some.inj (hnew.symm.trans hafter)
        obtain ⟨hbefore, hnodup, hcolumns⟩ := hruns.modified_columns hkept
        exact ⟨old, rfl, hbefore, hnodup, hcolumns⟩
  · rw [hedits.others id hsame] at hnew
    refine ⟨new, hnew, hkept, fun hnodup => hnodup, fun column => ?_⟩
    -- No column of another entity is among those that were written.
    have hsilent : .changed id column ∉ edited.notices := fun hchanged =>
      hsame (hedits.of_changed hchanged).1
    exact (or_iff_left hsilent).symm

/-- Where the columns of a modified entity come from: if there was such an entity, it stood in the
database, and they are its edited columns and those that were written; otherwise they are those that
were written. They are distinct if they were. -/
theorem modified_columns (heffect : Effect owner before written after) {id : EntityId}
    {new : Entity} (hnew : after.store.get? id = some new) {columns : List String}
    (hstate : new.state = .modified columns) :
    (∃ old, before.store.get? id = some old ∧ old.state.isKept = true ∧
      (old.state.modifiedColumns.Nodup → columns.Nodup) ∧
      ∀ column, column ∈ columns ↔
        column ∈ old.state.modifiedColumns ∨ (id, column) ∈ written) ∨
    (before.store.get? id = none ∧ new.owner = some owner ∧ columns.Nodup ∧
      ∀ column, column ∈ columns ↔ (id, column) ∈ written) := by
  have hkept : new.state.isKept = true := by rw [hstate]; rfl
  have hcolumns : new.state.modifiedColumns = columns := by rw [hstate]; rfl
  cases heffect with
  | read rows hrows =>
      rcases EntityStore.get_add_all_cases hnew with hold | ⟨-, hread⟩
      · exact .inl ⟨new, hold, hkept, fun hnodup => hcolumns ▸ hnodup, by simp [hcolumns]⟩
      · cases (hrows new hread).2.symm.trans hstate
  | added row howner hrow =>
      rw [EntityStore.get_add] at hnew
      split at hnew
      · next hsame =>
        obtain rfl := Option.some.inj hnew
        obtain hcreated | ⟨others, hmodified, hnodup⟩ := hrow
        · cases hcreated.symm.trans hstate
        · cases hmodified.symm.trans hstate
          refine .inr ⟨hsame ▸ before.store.get_add_fst row, howner, hnodup, fun column => ?_⟩
          simp [hcolumns, hsame]
      · next hother =>
        refine .inl ⟨new, hnew, hkept, fun hnodup => hcolumns ▸ hnodup, fun column => ?_⟩
        simp [hcolumns, Ne.symm hother]
  | edited hedits _ => exact .inl (hcolumns ▸ modified_columns_of_edits_of hedits hnew hkept)
  | editedElsewhere hedits _ =>
      exact .inl (hcolumns ▸ modified_columns_of_edits_of hedits hnew hkept)
  | submitted hsubmits =>
      cases hold : before.store.get? id with
      | none => cases (hsubmits.missing id hold).symm.trans hnew
      | some old =>
          obtain ⟨other, hother, -, -, hsame | ⟨-, hsettled, -⟩⟩ := hsubmits.kept id old hold
          · obtain rfl := Option.some.inj (hnew.symm.trans hother)
            rw [hsame.1] at hkept hcolumns
            exact .inl ⟨old, rfl, hkept, fun hnodup => hcolumns ▸ hnodup, by simp [hcolumns]⟩
          · obtain rfl := Option.some.inj (hnew.symm.trans hother)
            rw [hstate] at hsettled
            cases hstate : old.state <;> rw [hstate] at hsettled <;> cases hsettled

end Effect

end Orm
