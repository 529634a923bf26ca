import Orm.Change.Pending
import Orm.Proofs.Data.NameMap
import Orm.Proofs.Entity.Store

/-!
# What edits do

All that an edit does to an entity is to write columns of it, to delete it and to link it.
`Entity.Edits` says so once, with what the owner is told meanwhile, and `EntityEdit.edits_of` places
every edit of the store under it. What a run of edits does to the state, to the list of edited
columns and to the pending set of the owner is read off it.
-/

namespace Orm

/-- The columns that were written, with their entities, as some notices tell. -/
def Notice.written (notices : List Notice) : List (EntityId × String) :=
  notices.filterMap fun
    | .changed id column => some (id, column)
    | .track _ | .forget _ => none

/-- A column was written if the notices say that it changed. -/
theorem Notice.mem_written {notices : List Notice} {id : EntityId} {column : String} :
    (id, column) ∈ written notices ↔ .changed id column ∈ notices := by
  simp only [written, List.mem_filterMap]
  constructor
  · rintro ⟨_ | _ | ⟨other, asked⟩, hnotice, hsame⟩
    · cases hsame
    · cases hsame
    · cases hsame
      exact hnotice
  · exact fun hnotice => ⟨_, hnotice, rfl⟩

/-- What two lists of notices tell, one after the other. -/
theorem Notice.written_append (first second : List Notice) :
    written (first ++ second) = written first ++ written second :=
  List.filterMap_append

namespace EntityState

variable {state : EntityState} {column : String}

/-- Whether a row stands in the database and is to stay there. -/
def isKept : EntityState → Bool
  | .unchanged | .modified _ => true
  | .created | .deletePending | .deleted => false

/-- Every row that is neither new nor deleted is to stay in the database or waits for its delete. -/
theorem is_kept_or_delete_pending (hcreated : state ≠ .created) (hdeleted : state ≠ .deleted) :
    state.isKept = true ∨ state = .deletePending := by
  cases state with
  | unchanged | modified columns => exact .inl rfl
  | deletePending => exact .inr rfl
  | created => exact absurd rfl hcreated
  | deleted => exact absurd rfl hdeleted

/-- Something has to be written in every state but two. -/
theorem is_dirty_iff_ne : state.isDirty = true ↔ state ≠ .unchanged ∧ state ≠ .deleted := by
  cases state <;> simp [isDirty]

/-- A row that waits for its delete does not stay. -/
theorem not_kept_and_delete_pending : ¬ (state.isKept = true ∧ state = .deletePending) := by
  rintro ⟨hkept, rfl⟩
  cases hkept

/-- An edit makes no row stand in the database that did not before. -/
theorem is_kept_record_edit : (state.recordEdit column).isKept = state.isKept := by
  cases state <;> rfl

/-- What accepts edits has something to write after one. -/
theorem is_dirty_record_edit (haccepts : state.acceptsEdits = true) :
    (state.recordEdit column).isDirty = true := by
  cases state <;> first | rfl | cases haccepts

/-- A row is new after an edit if and only if it was before. -/
theorem record_edit_eq_created_iff : state.recordEdit column = .created ↔ state = .created := by
  cases state <;> simp [recordEdit]

/-- An edit of a row in the database adds its column to the edited ones. -/
theorem mem_record_edit (hkept : state.isKept = true) {other : String} :
    other ∈ (state.recordEdit column).modifiedColumns ↔
      other = column ∨ other ∈ state.modifiedColumns := by
  cases state with
  | unchanged => simp [recordEdit, modifiedColumns]
  | modified columns =>
      by_cases hknown : column ∈ columns
      · simp only [recordEdit, modifiedColumns, if_pos hknown]
        exact ⟨.inr, Or.rec (fun hsame => hsame ▸ hknown) id⟩
      · simp [recordEdit, modifiedColumns, hknown, or_comm]
  | created => cases hkept
  | deletePending => cases hkept
  | deleted => cases hkept

/-- An edit keeps the edited columns distinct. -/
theorem nodup_record_edit (hnodup : state.modifiedColumns.Nodup) :
    (state.recordEdit column).modifiedColumns.Nodup := by
  cases state with
  | modified columns =>
      by_cases hknown : column ∈ columns
      · simpa only [recordEdit, modifiedColumns, if_pos hknown] using hnodup
      · simp only [recordEdit, modifiedColumns, if_neg hknown] at hnodup ⊢
        exact List.nodup_append_comm.1 (List.nodup_cons.2 ⟨hknown, hnodup⟩)
  | unchanged => exact List.nodup_singleton column
  | created => exact hnodup
  | deletePending => exact hnodup
  | deleted => exact hnodup

end EntityState

namespace Entity

variable {id : EntityId} {entity edited after last : Entity} {notices more : List Notice}

/-! ## One write -/

/-- A write that succeeds changes the value of its column and records the edit. -/
theorem write_eq_ok {column : String} {value : Option Value}
    (h : entity.write column value = .ok edited) :
    entity.state.acceptsEdits = true ∧ ∃ values,
      edited = { entity with values := values, state := entity.state.recordEdit column } ∧
      ∀ other, other ≠ column → values.find? other = entity.values.find? other := by
  by_cases haccepts : entity.state.acceptsEdits = true
  swap
  · rw [write, if_neg haccepts] at h
    cases h
  refine ⟨haccepts, ?_⟩
  rw [write, if_pos haccepts] at h
  cases value with
  | none =>
      cases h
      refine ⟨_, rfl, fun other hother => ?_⟩
      rw [NameMap.find?_erase, if_neg hother]
  | some value =>
      dsimp only at h
      cases hcoerced : entity.coerceFor column value with
      | error error =>
          rw [hcoerced] at h
          cases h
      | ok coerced =>
          rw [hcoerced] at h
          cases h
          refine ⟨_, rfl, fun other hother => ?_⟩
          rw [NameMap.find?_insert, if_neg hother]

/-! ## Runs of edits -/

/-- The changes that edits can make to an entity, one after the other, with what its owner is told:
a column is written, a new row is discarded, a row in the database is marked for deletion, or links
are kept. -/
inductive Edits (id : EntityId) : Entity → List Notice → Entity → Prop
  | done (entity : Entity) : Edits id entity [] entity
  | written {entity edited after : Entity} {column : String} {value : Option Value}
      {notices : List Notice} (hwrite : entity.write column value = .ok edited)
      (hrest : Edits id edited notices after) :
      Edits id entity (.track id :: .changed id column :: notices) after
  | discarded {entity after : Entity} {notices : List Notice} (hstate : entity.state = .created)
      (hrest : Edits id { entity with state := .deleted } notices after) :
      Edits id entity (.forget id :: notices) after
  | marked {entity after : Entity} {notices : List Notice} (hkept : entity.state.isKept = true)
      (hrest : Edits id { entity with state := .deletePending } notices after) :
      Edits id entity (.track id :: notices) after
  | linked {entity after : Entity} {notices : List Notice} (links : List ParentLink)
      (hrest : Edits id { entity with links := links } notices after) :
      Edits id entity notices after

namespace Edits

/-- Edits go on where they ended. -/
theorem trans (h : Edits id entity notices after) (hnext : Edits id after more last) :
    Edits id entity (notices ++ more) last := by
  induction h with
  | done entity => exact hnext
  | written hwrite _ ih => exact .written hwrite (ih hnext)
  | discarded hstate _ ih => exact .discarded hstate (ih hnext)
  | marked hkept _ ih => exact .marked hkept (ih hnext)
  | linked links _ ih => exact .linked links (ih hnext)

/-- Edits leave a row in its table and with its owner. -/
theorem same_row (h : Edits id entity notices after) : after.SameRow entity := by
  induction h with
  | done entity => exact .refl entity
  | written hwrite _ ih =>
      obtain ⟨-, values, rfl, -⟩ := write_eq_ok hwrite
      exact ⟨ih.owner, ih.table, ih.columns⟩
  | discarded _ _ ih => exact ⟨ih.owner, ih.table, ih.columns⟩
  | marked _ _ ih => exact ⟨ih.owner, ih.table, ih.columns⟩
  | linked _ _ ih => exact ⟨ih.owner, ih.table, ih.columns⟩

/-- Edits leave the columns that they do not write as they are. -/
theorem find_of_not_changed (h : Edits id entity notices after) {column : String}
    (hcolumn : .changed id column ∉ notices) :
    after.values.find? column = entity.values.find? column := by
  induction h with
  | done entity => rfl
  | @written _ _ _ written _ _ hwrite _ ih =>
      obtain ⟨-, values, rfl, hothers⟩ := write_eq_ok hwrite
      have hother : column ≠ written := by
        rintro rfl
        exact hcolumn (by simp)
      rw [ih fun hrest => hcolumn (by simp [hrest])]
      exact hothers column hother
  | discarded _ _ ih => exact ih fun hrest => hcolumn (List.mem_cons_of_mem _ hrest)
  | marked _ _ ih => exact ih fun hrest => hcolumn (List.mem_cons_of_mem _ hrest)
  | linked _ _ ih => exact ih hcolumn

/-- A row that is marked for deletion, or deleted, stays so, and its owner is told nothing. -/
theorem silent_of_refused (h : Edits id entity notices after)
    (hstate : entity.state = .deletePending ∨ entity.state = .deleted) :
    after.state = entity.state ∧ notices = [] := by
  induction h with
  | done entity => exact ⟨rfl, rfl⟩
  | written hwrite _ _ =>
      obtain ⟨haccepts, -⟩ := write_eq_ok hwrite
      rcases hstate with hstate | hstate <;> simp [hstate, EntityState.acceptsEdits] at haccepts
  | discarded hcreated _ _ => simp [hcreated] at hstate
  | marked hkept _ _ =>
      rcases hstate with hstate | hstate <;> simp [hstate, EntityState.isKept] at hkept
  | linked _ _ ih => exact ih hstate

/-- No edit makes a row new. -/
theorem created_of_created (h : Edits id entity notices after) (hafter : after.state = .created) :
    entity.state = .created := by
  induction h with
  | done entity => exact hafter
  | written hwrite _ ih =>
      obtain ⟨-, values, rfl, -⟩ := write_eq_ok hwrite
      exact EntityState.record_edit_eq_created_iff.1 (ih hafter)
  | discarded hstate _ _ => exact hstate
  | marked _ _ ih => cases ih hafter
  | linked _ _ ih => exact ih hafter

/-- A row that stands in the database did so before. Its edited columns are those from before and
those that were written, each once. -/
theorem modified_columns (h : Edits id entity notices after)
    (hafter : after.state.isKept = true) :
    entity.state.isKept = true ∧
      (entity.state.modifiedColumns.Nodup → after.state.modifiedColumns.Nodup) ∧
      ∀ column, column ∈ after.state.modifiedColumns ↔
        column ∈ entity.state.modifiedColumns ∨ .changed id column ∈ notices := by
  induction h with
  | done entity => exact ⟨hafter, fun hnodup => hnodup, fun column => by simp⟩
  | written hwrite _ ih =>
      obtain ⟨-, values, rfl, -⟩ := write_eq_ok hwrite
      obtain ⟨hkept, hnodup, hmem⟩ := ih hafter
      rw [EntityState.is_kept_record_edit] at hkept
      refine ⟨hkept, fun hold => hnodup (EntityState.nodup_record_edit hold), fun column => ?_⟩
      simp only [hmem, EntityState.mem_record_edit hkept, List.mem_cons, reduceCtorEq,
        Notice.changed.injEq, true_and, false_or]
      rw [or_assoc, or_left_comm]
  | discarded _ _ ih => cases (ih hafter).1
  | marked _ _ ih => cases (ih hafter).1
  | linked _ _ ih => exact ih hafter

/-- If the pending set had the entity exactly if it had something to write, it still does once the
notices are taken in. -/
theorem mem_pending (h : Edits id entity notices after) {pending : PendingSet}
    (hpending : id ∈ pending.ids ↔ entity.state.isDirty = true) :
    id ∈ (notices.foldl PendingSet.notice pending).ids ↔ after.state.isDirty = true := by
  induction h generalizing pending with
  | done entity => exact hpending
  | written hwrite _ ih =>
      obtain ⟨haccepts, values, rfl, -⟩ := write_eq_ok hwrite
      have hmarked : id ∈ (pending.mark id).ids := PendingSet.mem_mark.2 (.inl rfl)
      exact ih (iff_of_true hmarked (EntityState.is_dirty_record_edit haccepts))
  | discarded _ _ ih =>
      have hremoved : id ∉ (pending.remove id).ids := fun hid => (PendingSet.mem_remove.1 hid).2 rfl
      exact ih (iff_of_false hremoved nofun)
  | marked _ _ ih =>
      have hmarked : id ∈ (pending.mark id).ids := PendingSet.mem_mark.2 (.inl rfl)
      exact ih (iff_of_true hmarked rfl)
  | linked _ _ ih => exact ih hpending

/-- Once the notices are taken in, the pending set has the entity if there is something to write for
it and it was there before, or the edits asked for it: they marked a row for deletion or wrote a
column. -/
theorem mem_pending_iff (h : Edits id entity notices after) {pending : PendingSet}
    (hpending : id ∈ pending.ids → entity.state.isDirty = true) :
    id ∈ (notices.foldl PendingSet.notice pending).ids ↔ after.state.isDirty = true ∧
      (id ∈ pending.ids ∨ entity.state.isKept = true ∧ after.state = .deletePending ∨
        ∃ column, .changed id column ∈ notices) := by
  induction h generalizing pending with
  | done entity =>
      simp only [List.foldl_nil, EntityState.not_kept_and_delete_pending, List.not_mem_nil,
        exists_false, or_false]
      exact ⟨fun hid => ⟨hpending hid, hid⟩, And.right⟩
  | @written _ _ _ column _ _ hwrite _ ih =>
      obtain ⟨haccepts, values, rfl, -⟩ := write_eq_ok hwrite
      have hmarked : id ∈ (pending.mark id).ids := PendingSet.mem_mark.2 (.inl rfl)
      refine (ih fun _ => EntityState.is_dirty_record_edit haccepts).trans ?_
      exact and_congr_right fun _ => iff_of_true (.inl hmarked) (.inr (.inr ⟨column, by simp⟩))
  | @discarded _ after _ _ hrest ih =>
      have hremoved : id ∉ (pending.remove id).ids := fun hid => (PendingSet.mem_remove.1 hid).2 rfl
      have hafter : ¬ after.state.isDirty = true := by
        rw [(hrest.silent_of_refused (.inr rfl)).1]
        exact nofun
      refine (ih fun hid => absurd hid hremoved).trans ?_
      exact iff_of_false (fun h => hafter h.1) fun h => hafter h.1
  | marked hkept hrest ih =>
      have hmarked : id ∈ (pending.mark id).ids := PendingSet.mem_mark.2 (.inl rfl)
      obtain ⟨hafter, -⟩ := hrest.silent_of_refused (.inl rfl)
      refine (ih fun _ => rfl).trans ?_
      exact and_congr_right fun _ => iff_of_true (.inl hmarked) (.inr (.inl ⟨hkept, hafter⟩))
  | linked _ _ ih => exact ih hpending

/-- What the owner is told is about the entity, so the pending set keeps the other ones. -/
theorem mem_pending_of_ne (h : Edits id entity notices after) {other : EntityId}
    (hne : other ≠ id) (pending : PendingSet) :
    other ∈ (notices.foldl PendingSet.notice pending).ids ↔ other ∈ pending.ids := by
  induction h generalizing pending with
  | done entity => rfl
  | written _ _ ih => exact (ih (pending.mark id)).trans (by simp [hne])
  | discarded _ _ ih => exact (ih (pending.remove id)).trans (by simp [hne])
  | marked _ _ ih => exact (ih (pending.mark id)).trans (by simp [hne])
  | linked _ _ ih => exact ih pending

/-- Only columns of the entity are told of. -/
theorem eq_of_changed (h : Edits id entity notices after) {other : EntityId} {column : String}
    (hchanged : .changed other column ∈ notices) : other = id := by
  induction h with
  | done entity => cases hchanged
  | written _ _ ih =>
      simp only [List.mem_cons, reduceCtorEq, Notice.changed.injEq, false_or] at hchanged
      exact hchanged.elim And.left ih
  | discarded _ _ ih => exact ih (by simpa using hchanged)
  | marked _ _ ih => exact ih (by simpa using hchanged)
  | linked _ _ ih => exact ih hchanged

end Edits

end Entity

/-! ## Edits of the store -/

/-- An edit of the store is one of an entity: the other entities stay as they are, and nothing
happens if there is no such entity. -/
structure Edited.EditsOf (id : EntityId) (store : EntityStore) (edited : Edited) : Prop where
  others : ∀ other, other ≠ id → edited.store.get? other = store.get? other
  missing : store.get? id = none → edited.store.get? id = none ∧ edited.notices = []
  edits : ∀ entity, store.get? id = some entity → ∃ after, edited.store.get? id = some after ∧
    Entity.Edits id entity edited.notices after

namespace Edited.EditsOf

variable {store : EntityStore} {id : EntityId} {outcome : Except EntityError Unit}

/-- To do nothing is an edit. -/
theorem nothing : EditsOf id store ⟨store, [], outcome⟩ where
  others := fun _ _ => rfl
  missing := fun hnone => ⟨hnone, rfl⟩
  edits := fun entity hentity => ⟨entity, hentity, .done entity⟩

/-- The owner is told of a change only of the entity, if there is one. -/
theorem of_changed {edited : Edited} (h : edited.EditsOf id store) {other : EntityId}
    {column : String} (hchanged : .changed other column ∈ edited.notices) :
    other = id ∧ ∃ entity after, store.get? id = some entity ∧
      Entity.Edits id entity edited.notices after := by
  cases hentity : store.get? id with
  | none =>
      rw [(h.missing hentity).2] at hchanged
      cases hchanged
  | some entity =>
      obtain ⟨after, -, hruns⟩ := h.edits entity hentity
      exact ⟨hruns.eq_of_changed hchanged, entity, after, rfl, hruns⟩

/-- To change an entity is an edit if it is one of the entity. -/
theorem modify {entity : Entity} {change : Entity → Entity} {notices : List Notice}
    (hentity : store.get? id = some entity)
    (hedits : Entity.Edits id entity notices (change entity)) :
    EditsOf id store ⟨store.modify id change, notices, outcome⟩ where
  others := fun other hother => store.get_modify_of_ne (Ne.symm hother) change
  missing := fun hnone => by
    rw [hentity] at hnone
    cases hnone
  edits := fun other hother => by
    obtain rfl := Option.some.inj (hentity.symm.trans hother)
    exact ⟨_, by rw [EntityStore.get_modify_self, hentity, Option.map_some], hedits⟩

/-- Of two edits of an entity the second one goes on where the first one ended. -/
theorem trans {first second both : Edited} (hfirst : first.EditsOf id store)
    (hsecond : second.EditsOf id first.store) (hstore : both.store = second.store)
    (hnotices : both.notices = first.notices ++ second.notices) : both.EditsOf id store where
  others := fun other hother => by
    rw [hstore, hsecond.others other hother, hfirst.others other hother]
  missing := fun hnone => by
    obtain ⟨hmissing, hsilent⟩ := hfirst.missing hnone
    obtain ⟨hlast, hnothing⟩ := hsecond.missing hmissing
    rw [hstore, hnotices, hsilent, hnothing]
    exact ⟨hlast, rfl⟩
  edits := fun entity hentity => by
    obtain ⟨between, hbetween, hedits⟩ := hfirst.edits entity hentity
    obtain ⟨after, hafter, hmore⟩ := hsecond.edits between hbetween
    rw [hstore, hnotices]
    exact ⟨after, hafter, hedits.trans hmore⟩

end Edited.EditsOf

namespace EntityStore

/-- A write is an edit of its entity. -/
theorem write_edits_of (store : EntityStore) (id : EntityId) (column : String)
    (value : Option Value) : (store.write id column value).EditsOf id store := by
  unfold write
  cases hentity : store.get? id with
  | none => exact .nothing
  | some entity =>
      cases hwrite : entity.write column value with
      | error error =>
          dsimp only
          rw [hwrite]
          exact .nothing
      | ok edited =>
          dsimp only
          rw [hwrite]
          exact .modify hentity (.written hwrite (.done edited))

/-- A deletion is an edit of its entity. -/
theorem delete_edits_of (store : EntityStore) (id : EntityId) :
    (store.delete id).EditsOf id store := by
  unfold delete
  cases hentity : store.get? id with
  | none => exact .nothing
  | some entity =>
      simp only [Option.map_some]
      cases hstate : entity.state with
      | created => exact .modify hentity (.discarded hstate (.done _))
      | unchanged => exact .modify hentity (.marked (by rw [hstate]; rfl) (.done _))
      | modified columns => exact .modify hentity (.marked (by rw [hstate]; rfl) (.done _))
      | deletePending => exact .nothing
      | deleted => exact .nothing

/-- Copying the keys of a parent is an edit of the child. -/
theorem copy_keys_edits_of (child parent : EntityId) (pairs : List (String × String))
    (store : EntityStore) : (copyKeys child parent pairs store).EditsOf child store := by
  induction pairs generalizing store with
  | nil => exact .nothing
  | cons pair rest ih =>
      obtain ⟨primary, foreign⟩ := pair
      rw [copyKeys]
      cases hvalue : store.present? parent primary with
      | none => exact ih store
      | some value =>
          have hfirst := store.write_edits_of child foreign (some value)
          dsimp only
          split
          · exact ⟨hfirst.others, hfirst.missing, hfirst.edits⟩
          · exact hfirst.trans (ih _) rfl rfl

/-- Linking is an edit of the child. -/
theorem link_parent_edits_of (store : EntityStore) (child : EntityId)
    (relationship : Relationship) (parent : EntityId) :
    (store.linkParent child relationship parent).EditsOf child store := by
  unfold linkParent
  split
  · next childEntity parentEntity hchild hparent =>
    split
    · exact .nothing
    · have hcopied := copy_keys_edits_of child parent relationship.keyPairs store
      dsimp only
      split
      · exact hcopied
      · -- The link is kept on top of what the copied keys changed.
        obtain ⟨copied, hafter, -⟩ := hcopied.edits childEntity hchild
        have hlink : Edited.EditsOf child (copyKeys child parent relationship.keyPairs store).store
            ⟨(copyKeys child parent relationship.keyPairs store).store.modify child fun entity =>
              { entity with links := entity.links ++ [⟨relationship, parent⟩] }, [], .ok ()⟩ :=
          .modify hafter (.linked _ (.done _))
        exact hcopied.trans hlink rfl (List.append_nil _).symm
  · exact .nothing

end EntityStore

/-- An edit of one entity. -/
inductive EntityEdit
  | set (column : String) (value : Option Value)
  | delete
  | link (relationship : Relationship) (parent : EntityId)

/-- An edit of an entity of the store. -/
def EntityEdit.apply (id : EntityId) : EntityEdit → EntityStore → Edited
  | .set column value, store => store.write id column value
  | .delete, store => store.delete id
  | .link relationship parent, store => store.linkParent id relationship parent

/-- Every edit of an entity does what `Entity.Edits` says, and nothing to other entities. -/
theorem EntityEdit.edits_of (edit : EntityEdit) (id : EntityId) (store : EntityStore) :
    (edit.apply id store).EditsOf id store := by
  cases edit with
  | set column value => exact store.write_edits_of id column value
  | delete => exact store.delete_edits_of id
  | link relationship parent => exact store.link_parent_edits_of id relationship parent

/-! ## Writes that succeed -/

namespace EntityStore

variable {store : EntityStore} {id : EntityId} {column : String} {value : Option Value}

/-- Whether the store has an entity of which the column can be written. -/
def takes (store : EntityStore) (id : EntityId) (column : String) (value : Option Value) : Bool :=
  match store.get? id with
  | none => false
  | some entity => (entity.write column value).isOk

/-- The columns of a child in which the known keys of a parent are stored, up to the first that
cannot be. -/
def storedKeys (child parent : EntityId) : List (String × String) → EntityStore → List String
  | [], _ => []
  | (primary, foreign) :: rest, store =>
      match store.present? parent primary with
      | none => storedKeys child parent rest store
      | some key =>
          if store.takes child foreign (some key) then
            foreign :: storedKeys child parent rest (store.write child foreign (some key)).store
          else []

/-- The owner is told of a column if and only if the write of it succeeds. -/
theorem written_write (store : EntityStore) (id : EntityId) (column : String)
    (value : Option Value) :
    Notice.written (store.write id column value).notices
      = if store.takes id column value then [(id, column)] else [] := by
  unfold write takes
  cases store.get? id with
  | none => rfl
  | some entity =>
      cases hwrite : entity.write column value <;> simp only [hwrite] <;> rfl

/-- A write of an entity that the store has fails if the entity does not take the value. -/
theorem exists_error_of_not_takes {entity : Entity} (hentity : store.get? id = some entity)
    (htakes : ¬ store.takes id column value = true) :
    ∃ error, store.write id column value = ⟨store, [], .error error⟩ := by
  simp only [takes, hentity] at htakes
  cases hwrite : entity.write column value with
  | error error => exact ⟨error, by simp only [write, hentity, hwrite]⟩
  | ok edited =>
      rw [hwrite] at htakes
      exact absurd rfl htakes

/-- A write that an entity takes succeeds, and the store still has the entity. -/
theorem write_of_takes (htakes : store.takes id column value = true) :
    (store.write id column value).outcome = .ok () ∧
      ∃ edited, (store.write id column value).store.get? id = some edited := by
  unfold takes at htakes
  cases hentity : store.get? id with
  | none => simp [hentity] at htakes
  | some entity =>
      simp only [hentity] at htakes
      cases hwrite : entity.write column value with
      | error error => simp [hwrite, Except.isOk, Except.toBool] at htakes
      | ok edited =>
          simp only [write, hentity, hwrite, true_and]
          exact ⟨edited, by rw [get_modify_self, hentity, Option.map_some]⟩

/-- When the keys of a parent are copied, the owner of the child is told of the columns in which
they are stored. -/
theorem written_copy_keys {child : EntityId} (parent : EntityId) {entity : Entity}
    (hchild : store.get? child = some entity) (pairs : List (String × String)) :
    Notice.written (copyKeys child parent pairs store).notices
      = (storedKeys child parent pairs store).map (Prod.mk child) := by
  induction pairs generalizing store entity with
  | nil => rfl
  | cons pair rest ih =>
      obtain ⟨primary, foreign⟩ := pair
      rw [copyKeys, storedKeys]
      cases hkey : store.present? parent primary with
      | none => exact ih hchild
      | some key =>
          dsimp only
          by_cases htakes : store.takes child foreign (some key) = true
          · obtain ⟨hok, edited, hedited⟩ := write_of_takes htakes
            rw [if_pos htakes, hok]
            dsimp only
            rw [Notice.written_append, written_write, if_pos htakes, ih hedited]
            rfl
          · obtain ⟨error, hwrite⟩ := exists_error_of_not_takes hchild htakes
            rw [if_neg htakes, hwrite]
            rfl

end EntityStore

/-- The columns of an entity whose tracked write succeeds in an edit of it. -/
def EntityEdit.written (id : EntityId) : EntityEdit → EntityStore → List String
  | .set column value, store => if store.takes id column value then [column] else []
  | .delete, _ => []
  | .link relationship parent, store =>
      match store.get? id, store.get? parent with
      | some child, some parentEntity =>
          if relationship.foreignTable = child.table ∧
              relationship.primaryTable = parentEntity.table then
            EntityStore.storedKeys id parent relationship.keyPairs store
          else []
      | _, _ => []

/-- The owner of an entity is told of exactly the columns whose write succeeds in an edit. -/
theorem EntityEdit.written_apply (edit : EntityEdit) (id : EntityId) (store : EntityStore) :
    Notice.written (edit.apply id store).notices = (edit.written id store).map (Prod.mk id) := by
  cases edit with
  | set column value =>
      rw [apply, written, store.written_write]
      split <;> rfl
  | delete =>
      rw [apply, written, EntityStore.delete]
      split <;> rfl
  | link relationship parent =>
      rw [apply, written, EntityStore.linkParent]
      cases hchild : store.get? id with
      | none => rfl
      | some child =>
          cases hparent : store.get? parent with
          | none => rfl
          | some parentEntity =>
              dsimp only
              by_cases hjoins : relationship.foreignTable = child.table ∧
                  relationship.primaryTable = parentEntity.table
              · rw [if_pos hjoins, if_neg (by simp [hjoins]),
                  ← EntityStore.written_copy_keys parent hchild]
                cases (EntityStore.copyKeys id parent relationship.keyPairs store).outcome <;> rfl
              · rw [if_neg hjoins, if_pos (by rwa [← not_and_or])]
                rfl

end Orm
