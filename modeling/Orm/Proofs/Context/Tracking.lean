import Mathlib.Data.List.Induction
import Orm.Proofs.Change.Transaction
import Orm.Proofs.Context.Session
import Orm.Sql.Brackets

/-!
# The pending set and the states of entities are in step

After any session of a newly opened context `session_keeps_track` says three things of the entities
that it owns: they are in the pending set exactly if they have something to write, the list of a
modified one has exactly the columns that were written since it was last unchanged
(`EditedSince`), and one that waits for its delete can only be deleted.
-/

namespace Orm.Context

variable {σ : Type} {context : Context σ} {start : Workspace σ}

/-- A context was opened: it was told nothing yet and no entity is its own. -/
structure Opened (context : Context σ) (workspace : Workspace σ) : Prop where
  owner : ∃ cache, workspace.owner? context.owner = some (.fresh (.context context) cache)
  entities : ∀ id entity, workspace.store.get? id = some entity →
    entity.owner ≠ some context.owner

/-- A context that was opened is alive. -/
theorem Opened.is_alive (h : Opened context start) :
    (start.owner? context.owner).isSome = true := by
  obtain ⟨cache, howner⟩ := h.owner
  rw [howner]
  rfl

/-- Nothing waits for a submission at the beginning. -/
theorem Opened.in_step (h : Opened context start) :
    InStep context.owner (start.trackedBy context.owner) := by
  obtain ⟨cache, howner⟩ := h.owner
  intro id
  rw [Workspace.tracked_by_of_owner howner]
  refine iff_of_false List.not_mem_nil ?_
  rintro ⟨entity, hentity, hown, -⟩
  exact h.entities id entity hentity hown

/-! ## Columns written since an entity was last unchanged -/

/-- A column of an entity was written by one of some actions, and the entity was not unchanged at
any point since then. -/
def EditedSince (context : Context σ) (start : Workspace σ) (actions : List ContextAction)
    (id : EntityId) (column : String) : Prop :=
  ∃ front action back, actions = front ++ action :: back ∧
    (id, column) ∈ action.written (context.session front start) ∧
    ∀ part, part <+: back → ∃ entity,
      (context.session (front ++ action :: part) start).store.get? id = some entity ∧
        entity.state ≠ .unchanged

/-- If a column was written since the entity was last unchanged, it is not unchanged now. -/
theorem EditedSince.get {actions : List ContextAction} {id : EntityId} {column : String}
    (h : EditedSince context start actions id column) :
    ∃ entity, (context.session actions start).store.get? id = some entity ∧
      entity.state ≠ .unchanged := by
  obtain ⟨front, action, back, rfl, -, hsince⟩ := h
  exact hsince back (List.prefix_refl back)

/-- Before the first action nothing was written. -/
theorem not_edited_since_nil (id : EntityId) (column : String) :
    ¬ EditedSince context start [] id column := by
  rintro ⟨front, action, back, hsplit, -⟩
  simp at hsplit

/-- One more action writes columns, and unless it makes the entity unchanged those from before still
count. -/
theorem edited_since_concat (actions : List ContextAction) (last : ContextAction) (id : EntityId)
    (column : String) :
    EditedSince context start (actions ++ [last]) id column ↔
      (∃ entity, (context.session (actions ++ [last]) start).store.get? id = some entity ∧
        entity.state ≠ .unchanged) ∧
      ((id, column) ∈ last.written (context.session actions start) ∨
        EditedSince context start actions id column) := by
  constructor
  · intro h
    refine ⟨h.get, ?_⟩
    obtain ⟨front, action, back, hsplit, hwritten, hsince⟩ := h
    rcases List.eq_nil_or_concat back with rfl | ⟨between, final, rfl⟩
    · obtain ⟨rfl, hlast⟩ := List.append_inj' hsplit rfl
      cases hlast
      exact .inl hwritten
    · rw [List.concat_eq_append] at hsplit hsince
      rw [← List.cons_append, ← List.append_assoc] at hsplit
      obtain ⟨rfl, -⟩ := List.append_inj' hsplit rfl
      exact .inr ⟨front, action, between, rfl, hwritten, fun part hpart =>
        hsince part (hpart.trans (List.prefix_append between [final]))⟩
  · rintro ⟨hnow, hwritten | ⟨front, action, back, rfl, hwritten, hsince⟩⟩
    · refine ⟨actions, last, [], rfl, hwritten, fun part hpart => ?_⟩
      rw [List.prefix_nil.1 hpart]
      exact hnow
    · refine ⟨front, action, back ++ [last], by simp, hwritten, fun part hpart => ?_⟩
      rcases List.prefix_concat_iff.1 hpart with rfl | hearlier
      · simpa using hnow
      · exact hsince part hearlier

/-- An entity was not unchanged at any point of a session, from its start to its end. -/
def NeverUnchanged (context : Context σ) (start : Workspace σ) (actions : List ContextAction)
    (id : EntityId) : Prop :=
  ∀ part, part <+: actions → ∃ entity,
    (context.session part start).store.get? id = some entity ∧ entity.state ≠ .unchanged

/-- After one more action an entity was never unchanged if it is not now and never was before. -/
theorem never_unchanged_concat (actions : List ContextAction) (last : ContextAction)
    (id : EntityId) :
    NeverUnchanged context start (actions ++ [last]) id ↔
      (∃ entity, (context.session (actions ++ [last]) start).store.get? id = some entity ∧
        entity.state ≠ .unchanged) ∧ NeverUnchanged context start actions id := by
  constructor
  · exact fun h => ⟨h _ List.prefix_rfl, fun part hpart =>
      h part (hpart.trans (List.prefix_append actions [last]))⟩
  · rintro ⟨hnow, hbefore⟩ part hpart
    rcases List.prefix_concat_iff.1 hpart with rfl | hearlier
    · exact hnow
    · exact hbefore part hearlier

/-- Of an entity that is unchanged or does not exist, nothing was written since, and it was not
changed all the time. -/
theorem settled_session {actions : List ContextAction} {id : EntityId}
    (hsettled : ∀ entity, (context.session actions start).store.get? id = some entity →
      entity.state = .unchanged) :
    (∀ column, ¬ EditedSince context start actions id column) ∧
      ¬ NeverUnchanged context start actions id := by
  constructor
  · intro column hedited
    obtain ⟨entity, hentity, hchanged⟩ := hedited.get
    exact hchanged (hsettled entity hentity)
  · intro hnever
    obtain ⟨entity, hentity, hchanged⟩ := hnever actions List.prefix_rfl
    exact hchanged (hsettled entity hentity)

/-- The list of a modified entity has exactly the columns that were written since the entity was
last unchanged, with those from before the session if it never was since. -/
theorem modified_columns_session (halive : (start.owner? context.owner).isSome = true)
    (actions : List ContextAction) {id : EntityId} {entity : Entity}
    (hentity : (context.session actions start).store.get? id = some entity)
    {columns : List String} (hstate : entity.state = .modified columns) :
    ((∀ old, start.store.get? id = some old → old.state.modifiedColumns.Nodup) →
        columns.Nodup) ∧
      ∀ column, column ∈ columns ↔ EditedSince context start actions id column ∨
        NeverUnchanged context start actions id ∧
          ∃ old, start.store.get? id = some old ∧ column ∈ old.state.modifiedColumns := by
  -- From action to action: either the entity stood in the database before, or it is a new clone.
  induction actions using List.reverseRecOn generalizing entity columns with
  | nil =>
      have hnever : NeverUnchanged context start [] id := fun part hpart => by
        rw [List.prefix_nil.1 hpart]
        exact ⟨entity, hentity, by rw [hstate]; exact nofun⟩
      have hget : start.store.get? id = some entity := hentity
      simp only [hget, Option.some.injEq, forall_eq', exists_eq_left', hstate,
        not_edited_since_nil, hnever, EntityState.modifiedColumns, false_or, true_and,
        implies_true, and_true]
      exact fun hnodup => hnodup
  | append_singleton actions last ih =>
      have hstill := is_alive_session halive actions
      obtain ⟨heffect, -⟩ := last.perform_effect hstill
      simp only [edited_since_concat, never_unchanged_concat, hentity, Option.some.injEq,
        exists_eq_left', hstate, ne_eq, reduceCtorEq, not_false_eq_true, true_and]
      rw [session_concat] at hentity
      rcases heffect.modified_columns hentity hstate with
        ⟨old, hold, hkept, hnodup, hcolumns⟩ | ⟨hnone, -, hnodup, hcolumns⟩
      · cases hbefore : old.state with
        | unchanged =>
            obtain ⟨hclean, hsettled⟩ := settled_session fun other hother =>
              Option.some.inj (hold.symm.trans hother) ▸ hbefore
            rw [hbefore] at hnodup hcolumns
            exact ⟨fun _ => hnodup List.nodup_nil, fun column => by
              simp [hcolumns, hclean, hsettled, EntityState.modifiedColumns]⟩
        | modified others =>
            obtain ⟨hdistinct, hothers⟩ := ih hold hbefore
            rw [hbefore] at hnodup hcolumns
            exact ⟨fun hstart => hnodup (hdistinct hstart), fun column => by
              rw [hcolumns, EntityState.modifiedColumns, hothers]
              exact or_comm.trans or_assoc.symm⟩
        | created => rw [hbefore] at hkept; cases hkept
        | deletePending => rw [hbefore] at hkept; cases hkept
        | deleted => rw [hbefore] at hkept; cases hkept
      · refine ⟨fun _ => hnodup, fun column => ?_⟩
        have hmissing : ∀ other, (context.session actions start).store.get? id = some other →
            other.state = .unchanged := fun other hother => by cases hnone.symm.trans hother
        obtain ⟨hclean, hsettled⟩ := settled_session hmissing
        simp [hcolumns, hclean, hsettled]

/-- The list of a modified entity of the context has exactly the columns that were written since the
entity was last unchanged, each once. -/
theorem edited_columns_session (hopened : Opened context start) (actions : List ContextAction)
    {id : EntityId} {entity : Entity}
    (hentity : (context.session actions start).store.get? id = some entity)
    (howner : entity.owner = some context.owner) {columns : List String}
    (hstate : entity.state = .modified columns) :
    columns.Nodup ∧ ∀ column, column ∈ columns ↔
      EditedSince context start actions id column := by
  obtain ⟨hnodup, hcolumns⟩ :=
    modified_columns_session hopened.is_alive actions hentity hstate
  -- The context had no entity at the beginning.
  have hnone : ∀ old, start.store.get? id ≠ some old := fun old hold => by
    obtain ⟨new, hnew, hkept⟩ := kept_session hopened.is_alive actions hold
    obtain rfl := Option.some.inj (hentity.symm.trans hnew)
    exact hopened.entities id old hold (hkept.row.owner.symm.trans howner)
  refine ⟨hnodup fun old hold => absurd hold (hnone old), fun column => ?_⟩
  rw [hcolumns]
  exact or_iff_left fun hearlier => hnone _ hearlier.2.choose_spec.1

/-! ## Sessions keep track -/

/-- After any session of a newly opened context, each entity that it owns waits for a submission
exactly if it is new, modified or to be deleted. The list of a modified one has the columns that
were written since it was last unchanged, each once; a clone for an update counts as a write of the
columns that it copies. However the session goes on, an entity that is to be deleted stays so until
it is deleted, and a deleted one stays deleted. -/
theorem session_keeps_track (hopened : Opened context start) (actions : List ContextAction) :
    let last := context.session actions start
    ∃ owner, last.owner? context.owner = some owner ∧
      ∀ id entity, last.store.get? id = some entity → entity.owner = some context.owner →
        (id ∈ owner.pending.ids ↔ entity.state = .created ∨
          (∃ columns, entity.state = .modified columns) ∨ entity.state = .deletePending) ∧
        (∀ columns, entity.state = .modified columns → columns.Nodup ∧
          ∀ column, column ∈ columns ↔ EditedSince context start actions id column) ∧
        ∀ more, ∃ later, (context.session more last).store.get? id = some later ∧
          (entity.state = .deletePending →
            later.state = .deletePending ∨ later.state = .deleted) ∧
          (entity.state = .deleted → later.state = .deleted) := by
  intro last
  have halive : (last.owner? context.owner).isSome = true :=
    is_alive_session hopened.is_alive actions
  have hstep : InStep context.owner (last.trackedBy context.owner) :=
    in_step_session hopened.is_alive hopened.in_step actions
  obtain ⟨owner, howner⟩ := Option.isSome_iff_exists.1 halive
  refine ⟨owner, howner, fun id entity hentity hown => ⟨?_, fun columns hstate => ?_,
    fun more => ?_⟩⟩
  · rw [Workspace.tracked_by_of_owner howner] at hstep
    rw [hstep.mem_pending_iff hentity hown]
    cases entity.state <;> simp [EntityState.isDirty]
  · exact edited_columns_session hopened actions hentity hown hstate
  · obtain ⟨later, hlater, hkept⟩ := kept_session halive more hentity
    exact ⟨later, hlater, hkept.delete_pending, hkept.deleted⟩

/-- The columns of a table with a key and a name. -/
def nameColumns : List CatalogColumn :=
  [⟨"Id", "int", false, true, true⟩, ⟨"Name", "nvarchar", true, false, false⟩]

/-- A catalog in which every table has those columns. -/
def namesCatalog : Catalog Unit where
  tables := return .ok []
  columns _ := return .ok nameColumns
  relationships _ := return .ok []
  procedures := return .ok []
  descriptions _ := return .ok ⟨none, .empty⟩

/-- A context of that catalog. -/
def ofNames (connection : Connection Unit) : Context Unit where
  owner := ⟨0⟩
  dialect := .brackets
  database := ⟨fun _ => return .ok (), connection⟩
  catalog := namesCatalog
  connectionString := "Server=names"
  transaction := default
  defaultConflict := .throw
  cachePath := none

/-- A workspace in which a context was just opened. -/
def alone (context : Context Unit) : Workspace Unit :=
  ⟨.empty, #[.fresh (.context context) .empty], [], .empty, ()⟩

/-- A new row that was inserted and then renamed waits for the update of its name alone. -/
theorem renamed_row_keeps_track :
    let context := ofNames (Submission.assigningSeven (.ok ()))
    let actions : List ContextAction := [.create (Table.named "dbo" "Customers"), .submit,
      .edit ⟨0⟩ (.set "Name" (some (.text "Ann")))]
    Opened context (alone context) ∧
      ((context.session actions (alone context)).store.get? ⟨0⟩).map Entity.state
        = some (.modified ["Name"]) ∧
      EditedSince context (alone context) actions ⟨0⟩ "Name" ∧
      ¬ EditedSince context (alone context) actions ⟨0⟩ "Id" := by
  intro context actions
  have hopened : Opened context (alone context) := ⟨⟨.empty, rfl⟩, nofun⟩
  have hstate : ((context.session actions (alone context)).store.get? ⟨0⟩).map Entity.state
      = some (.modified ["Name"]) := by decide +kernel
  have howner : ((context.session actions (alone context)).store.get? ⟨0⟩).map Entity.owner
      = some (some context.owner) := by decide +kernel
  obtain ⟨owner, -, htracks⟩ := session_keeps_track hopened actions
  obtain ⟨entity, hentity, hmodified⟩ := Option.map_eq_some_iff.1 hstate
  rw [hentity, Option.map_some, Option.some.injEq] at howner
  obtain ⟨-, hcolumns, -⟩ := htracks ⟨0⟩ entity hentity howner
  obtain ⟨-, hedited⟩ := hcolumns _ hmodified
  exact ⟨hopened, hstate, (hedited "Name").1 (by decide), mt (hedited "Id").2 (by decide)⟩

end Orm.Context
