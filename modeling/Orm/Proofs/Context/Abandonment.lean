import Mathlib.Data.List.Infix
import Orm.Proofs.Context.LoadedKeys

/-!
# What becomes of abandoned changes

To give up the pending changes empties the pending set and leaves the entities as they are.
`abandoned_changes_return` says what this means for a row that was loaded. As soon as it is edited
again it waits for a submission with all its edited columns, those from before included, unless a
submission wrote them in between. If it was marked for deletion it never waits again.
-/

namespace Orm.Context

open Submission

variable {σ τ : Type} {context : Context σ} {start : Workspace σ}

/-- A workspace after a context gave up its pending changes. -/
def abandoned (context : Context σ) (workspace : Workspace σ) : Workspace σ :=
  (Workspace.act context.owner (fun _ => clearPendingChanges) workspace).2

/-- The entities stay as they are, and none of them waits. -/
theorem tracked_abandoned (halive : (start.owner? context.owner).isSome = true) :
    (context.abandoned start).trackedBy context.owner = ⟨start.store, .empty⟩ ∧
      ((context.abandoned start).owner? context.owner).isSome = true := by
  obtain ⟨owner, howner⟩ := Option.isSome_iff_exists.1 halive
  obtain ⟨htracked, hstill, -⟩ := Workspace.act_tracked howner fun _ => clearPendingChanges
  exact ⟨htracked, hstill⟩

/-- A row that is marked for deletion, or deleted, and does not wait at the start of a session never
waits again. -/
theorem not_mem_pending_session (halive : (start.owner? context.owner).isSome = true)
    {id : EntityId} {old : Entity} (hold : start.store.get? id = some old)
    (howner : old.owner = some context.owner)
    (hstate : old.state = .deletePending ∨ old.state = .deleted)
    (hidle : id ∉ (start.trackedBy context.owner).pending.ids) (actions : List ContextAction) :
    id ∉ ((context.session actions start).trackedBy context.owner).pending.ids := by
  induction actions using List.reverseRecOn with
  | nil => exact hidle
  | append_singleton actions last ih =>
      obtain ⟨heffect, -⟩ := last.perform_effect (is_alive_session halive actions)
      obtain ⟨between, hbetween, hearlier⟩ := kept_session halive actions hold
      obtain ⟨new, hnew, -⟩ := heffect.kept hbetween
      have hrefused : between.state = .deletePending ∨ between.state = .deleted :=
        hstate.elim hearlier.delete_pending fun hgone => .inr (hearlier.deleted hgone)
      rw [session_concat, heffect.mem_pending_iff hbetween (hearlier.row.owner.trans howner)
        (fun hid => absurd hid ih) hnew]
      rintro ⟨-, hid | ⟨hkept, -⟩ | ⟨column, hcolumn⟩⟩
      · exact ih hid
      · rcases hrefused with hstate | hstate <;> rw [hstate] at hkept <;> cases hkept
      · exact heffect.not_mem_written_of_refused hbetween hrefused column hcolumn

/-- A row in the database that does not wait at the start of a session waits at its end if it has
something to write, and was marked for deletion or edited since it was last unchanged. -/
theorem mem_pending_session (halive : (start.owner? context.owner).isSome = true)
    {id : EntityId} {old : Entity} (hold : start.store.get? id = some old)
    (howner : old.owner = some context.owner) (hkept : old.state.isKept = true)
    (hidle : id ∉ (start.trackedBy context.owner).pending.ids) (actions : List ContextAction)
    {entity : Entity} (hentity : (context.session actions start).store.get? id = some entity) :
    id ∈ ((context.session actions start).trackedBy context.owner).pending.ids ↔
      entity.state.isDirty = true ∧ (entity.state = .deletePending ∨
        ∃ column, EditedSince context start actions id column) := by
  induction actions using List.reverseRecOn generalizing entity with
  | nil =>
      obtain rfl := Option.some.inj (hold.symm.trans hentity)
      refine iff_of_false hidle ?_
      rintro ⟨-, hstate | ⟨column, hedited⟩⟩
      · rw [hstate] at hkept
        cases hkept
      · exact not_edited_since_nil id column hedited
  | append_singleton actions last ih =>
      obtain ⟨heffect, -⟩ := last.perform_effect (is_alive_session halive actions)
      obtain ⟨between, hbetween, hearlier⟩ := kept_session halive actions hold
      obtain ⟨new, hnew, hlater⟩ := heffect.kept hbetween
      simp only [edited_since_concat, hentity, Option.some.injEq, exists_eq_left']
      rw [session_concat] at hentity ⊢
      obtain rfl := Option.some.inj (hnew.symm.trans hentity)
      have hwaits := ih hbetween
      rw [heffect.mem_pending_iff hbetween (hearlier.row.owner.trans howner)
        (fun hid => (hwaits.1 hid).1) hentity, hwaits]
      refine and_congr_right fun hdirty => ?_
      obtain ⟨hchanged, hstays⟩ := EntityState.is_dirty_iff_ne.1 hdirty
      have hthere : between.state ≠ .deleted := fun hgone => hstays (hlater.deleted hgone)
      constructor
      · rintro (⟨-, hmarked | ⟨column, hedited⟩⟩ | ⟨-, hmarked⟩ | ⟨column, hwritten⟩)
        · exact .inl ((hlater.delete_pending hmarked).resolve_right hstays)
        · exact .inr ⟨column, hchanged, .inr hedited⟩
        · exact .inl hmarked
        · exact .inr ⟨column, hchanged, .inl hwritten⟩
      · rintro (hmarked | ⟨column, -, hwritten | hedited⟩)
        · -- A row in the database was marked now, or it had been marked before.
          have hcreated : between.state ≠ .created := fun hstate => by
            rw [hearlier.created hstate] at hkept
            cases hkept
          rcases EntityState.is_kept_or_delete_pending hcreated hthere with hstate | hstate
          · exact .inr (.inl ⟨hstate, hmarked⟩)
          · exact .inl ⟨by rw [hstate]; rfl, .inl hstate⟩
        · exact .inr (.inr ⟨column, hwritten⟩)
        · obtain ⟨_, hget, hunsettled⟩ := hedited.get
          obtain rfl := Option.some.inj (hbetween.symm.trans hget)
          exact .inl ⟨EntityState.is_dirty_iff_ne.2 ⟨hunsettled, hthere⟩,
            .inr ⟨column, hedited⟩⟩

/-- After a session the update of an entity assigns the columns outside the key that were edited
since the entity was last unchanged, those from before the session included if it never was, and
those that were filled. What the entity held at the start of the session is assigned where the
session did not write it. -/
theorem update_after_session (halive : (start.owner? context.owner).isSome = true)
    {old entity : Entity} {issue : Issue} (hold : start.store.get? issue.step.entity = some old)
    (actions : List ContextAction) {schema : SchemaSource τ} {dialect : Dialect}
    (hissued : issue.RendersLinked schema dialect
      ((context.session actions start).trackedBy context.owner) entity)
    (hupdate : issue.step.operation = .update) :
    ∃ (assigned : List (String × Value)) (filled : List String),
      issue.statement.Assigns entity.table assigned ∧
      (∀ column ∈ filled, entity.present? column = none ∧
        ∃ link ∈ entity.links, column ∈ link.relationship.foreignKeys) ∧
      (∀ column, column ∈ assigned.map Prod.fst ↔
        column ∉ issue.columns.primaryKeys ∧
          (EditedSince context start actions issue.step.entity column ∨
            NeverUnchanged context start actions issue.step.entity ∧
              column ∈ old.state.modifiedColumns ∨ column ∈ filled)) ∧
      ∀ column value, (column, value) ∈ assigned →
        (issue.step.entity, column) ∉ context.writtenIn actions start →
        ∀ held, old.present? column = some held → value = held := by
  obtain ⟨kept, hget, hkept⟩ := kept_session halive actions hold
  obtain rfl := Option.some.inj (hget.symm.trans hissued.get)
  obtain ⟨columns, hstate⟩ := hissued.modified_of_update hupdate
  obtain ⟨-, hcolumns⟩ := modified_columns_session halive actions hget hstate
  obtain ⟨assigned, filled, hassigns, hlinked, hassigned, hvalues⟩ := hissued.assigns hupdate
  refine ⟨assigned, filled, hassigns, hlinked, fun column => ?_,
    fun column value hmem hsilent held hheld => ?_⟩
  · have hedited := hcolumns column
    simp only [hold, Option.some.injEq, exists_eq_left'] at hedited
    rw [hassigned, hstate, EntityState.modifiedColumns, hedited, and_comm, or_assoc]
  · exact hvalues column value hmem held (hkept.present column held hsilent hheld)

/-- A context gave up its pending changes, one of its rows being loaded from the database, and after
any session it submits its changes, by blocking calls or not. If the row was to stay there, it waits
for the submission exactly if it was marked for deletion or edited since it was last unchanged,
which counts from the time of the giving up at the earliest. Its update then assigns all columns
that were edited since it was last unchanged, however long before the giving up that was: those from
before are assigned too unless the row was unchanged in between, each with the value that was given
up if no later edit wrote it. If the row was to be deleted, it never waits again, and no statement
is issued for it. -/
theorem abandoned_changes_return (halive : (start.owner? context.owner).isSome = true)
    {id : EntityId} {old : Entity} (hold : start.store.get? id = some old)
    (howner : old.owner = some context.owner) (actions : List ContextAction)
    (schema : SchemaSource τ) (connection : Connection τ) (dialect : Dialect)
    (options : TransactionOptions) (state : τ) :
    let cleared := context.abandoned start
    let last := context.session actions cleared
    let tracked := last.trackedBy context.owner
    ∃ entity, last.store.get? id = some entity ∧
      (old.state.isKept = true → (id ∈ tracked.pending.ids ↔ entity.state.isDirty = true ∧
        (entity.state = .deletePending ∨
          ∃ column, EditedSince context cleared actions id column))) ∧
      (old.state = .deletePending → id ∉ tracked.pending.ids) ∧
      ∀ calls, calls = exchanges schema connection dialect options tracked state ∨
          calls = asyncExchanges schema connection dialect options tracked state →
        ∃ issues : List Issue,
          commandsOf calls = issues.map (fun issue => issue.statement.command dialect) ∧
          ∀ issue ∈ issues, (∃ found, issue.Renders schema dialect tracked found) ∧
            (issue.step.entity = id → old.state ≠ .deletePending ∧
              (issue.step.operation = .update →
                ∃ (assigned : List (String × Value)) (filled : List String),
                  issue.statement.Assigns entity.table assigned ∧
                  (∀ column ∈ filled, entity.present? column = none ∧
                    ∃ link ∈ entity.links, column ∈ link.relationship.foreignKeys) ∧
                  (∀ column, column ∈ assigned.map Prod.fst ↔
                    column ∉ issue.columns.primaryKeys ∧
                      (EditedSince context cleared actions id column ∨
                        NeverUnchanged context cleared actions id ∧
                          column ∈ old.state.modifiedColumns ∨ column ∈ filled)) ∧
                  ∀ column value, (column, value) ∈ assigned →
                    (id, column) ∉ context.writtenIn actions cleared →
                    ∀ held, old.present? column = some held → value = held)) := by
  intro cleared last tracked
  obtain ⟨htracked, hstill⟩ : cleared.trackedBy context.owner = ⟨start.store, .empty⟩ ∧
      (cleared.owner? context.owner).isSome = true := tracked_abandoned halive
  have hcleared : cleared.store.get? id = some old := by
    have hstore : cleared.store = start.store := congrArg Tracked.store htracked
    rw [hstore, hold]
  have hidle : id ∉ (cleared.trackedBy context.owner).pending.ids := by
    rw [htracked]
    exact List.not_mem_nil
  obtain ⟨entity, hentity, -⟩ := kept_session hstill actions hcleared
  have hgone : old.state = .deletePending → id ∉ tracked.pending.ids := fun hstate =>
    not_mem_pending_session hstill hcleared howner (.inl hstate) hidle actions
  refine ⟨entity, hentity, fun hloaded =>
    mem_pending_session hstill hcleared howner hloaded hidle actions hentity, hgone,
    fun calls hcalls => ?_⟩
  obtain ⟨result, hsubmitted⟩ := exists_submitted hcalls
  obtain ⟨issues, hcommands, -, hrenders⟩ := hsubmitted.issues
  refine ⟨issues, hcommands, fun issue hissue => ?_⟩
  obtain ⟨found, hissued⟩ := hrenders issue hissue
  refine ⟨⟨found, hissued.toRenders⟩, ?_⟩
  rintro rfl
  obtain rfl := Option.some.inj (hentity.symm.trans hissued.get)
  exact ⟨fun hstate => hgone hstate (PendingSet.mem_dirty_iff.1 hissued.dirty).1,
    update_after_session hstill hcleared actions hissued⟩

/-- A connection that answers every command with the rows of Ann and of Bob. -/
def answeringAnnAndBob : Connection Unit where
  start := fun _ => return .ok ()
  execute := fun _ => return .ok (.rows ⟨["Id", "Name"],
    [[.int 1, .text "Ann"], [.int 2, .text "Bob"]]⟩)
  commit := return .ok ()
  rollback := return .ok ()

/-- A context of that connection, in which every table has a key, a name and a city. -/
def ofCities : Context Unit :=
  { ofNames answeringAnnAndBob with
    catalog := { namesCatalog with
      columns := fun _ => return .ok (nameColumns ++ [⟨"City", "nvarchar", true, false, false⟩]) } }

/-- The context has read both rows, has renamed Ann and has marked Bob for deletion. -/
def annRenamed : Workspace Unit :=
  ofCities.session [.read (.rows (.ofTable "c" (Table.named "dbo" "Customers"))),
    .edit ⟨0⟩ (.set "Name" (some (.text "Eve"))), .edit ⟨1⟩ .delete] (alone ofCities)

/-- The first row is a row of the context that was renamed. -/
theorem get_ann_renamed : ∃ ann, annRenamed.store.get? ⟨0⟩ = some ann ∧
    ann.owner = some ofCities.owner ∧ ann.state = .modified ["Name"] ∧
    ann.present? "Name" = some (.text "Eve") := by
  have hnow : (annRenamed.store.get? ⟨0⟩).map
      (fun entity => (entity.owner, entity.state, entity.present? "Name"))
        = some (some ofCities.owner, .modified ["Name"], some (.text "Eve")) := by decide +kernel
  obtain ⟨ann, hann, hparts⟩ := Option.map_eq_some_iff.1 hnow
  simp only [Prod.mk.injEq] at hparts
  exact ⟨ann, hann, hparts⟩

/-- The second one is marked for deletion. -/
theorem get_bob_marked : ∃ bob, annRenamed.store.get? ⟨1⟩ = some bob ∧
    bob.owner = some ofCities.owner ∧ bob.state = .deletePending := by
  have hnow : (annRenamed.store.get? ⟨1⟩).map (fun entity => (entity.owner, entity.state))
        = some (some ofCities.owner, .deletePending) := by decide +kernel
  obtain ⟨bob, hbob, hparts⟩ := Option.map_eq_some_iff.1 hnow
  simp only [Prod.mk.injEq] at hparts
  exact ⟨bob, hbob, hparts⟩

/-- The city of the first row is edited and the second row is deleted once more. -/
def cityEdited : List ContextAction :=
  [.edit ⟨0⟩ (.set "City" (some (.text "Rome"))), .edit ⟨1⟩ .delete]

/-- What the context tracks then. -/
def cityTracked : Tracked :=
  (ofCities.session cityEdited (ofCities.abandoned annRenamed)).trackedBy ofCities.owner

/-- The first row is never unchanged meanwhile. -/
theorem ann_never_unchanged :
    NeverUnchanged ofCities (ofCities.abandoned annRenamed) cityEdited ⟨0⟩ := by
  intro part hpart
  have hparts : ∀ part ∈ cityEdited.inits,
      ((ofCities.session part (ofCities.abandoned annRenamed)).store.get? ⟨0⟩).any
        (fun entity => entity.state ≠ .unchanged) = true := by decide +kernel
  simpa [Option.any_eq_true] using hparts part ((List.mem_inits part cityEdited).2 hpart)

/-- What is issued for what the context tracks is an update of the first row. -/
theorem update_of_city_edited {issue : Issue} {found : Entity}
    (h : issue.Renders WritePlan.unrelated .brackets cityTracked found) :
    issue.step.entity = ⟨0⟩ ∧ issue.step.operation = .update ∧
      found.table = Table.named "dbo" "Customers" ∧ issue.columns.primaryKeys = ["Id"] := by
  have hdirty : cityTracked.pending.dirty cityTracked.store = [⟨0⟩] := by decide +kernel
  have hid : issue.step.entity = ⟨0⟩ := List.mem_singleton.1 (hdirty ▸ h.dirty)
  have hnow : (cityTracked.store.get? ⟨0⟩).map
      (fun entity => (entity.table, entity.columns.primaryKeys, entity.state.operation?))
        = some (Table.named "dbo" "Customers", ["Id"], some .update) := by decide +kernel
  rw [← hid, h.get, Option.map_some, Option.some.injEq, Prod.mk.injEq, Prod.mk.injEq] at hnow
  obtain ⟨htable, hkeys, hoperation⟩ := hnow
  exact ⟨hid, Option.some.inj (h.operation.symm.trans hoperation), htable,
    (congrArg ColumnMap.primaryKeys (h.columns_eq fun _ _ => rfl)).trans hkeys⟩

/-- Both changes are given up. Then the city of the first row is edited, and its update assigns the
abandoned name as well. The second row is deleted again, and does not wait for a submission. -/
theorem abandoned_name_assigned :
    let cleared := ofCities.abandoned annRenamed
    let actions : List ContextAction :=
      [.edit ⟨0⟩ (.set "City" (some (.text "Rome"))), .edit ⟨1⟩ .delete]
    let tracked := (ofCities.session actions cleared).trackedBy ofCities.owner
    let calls := exchanges WritePlan.unrelated answeringAnnAndBob .brackets default tracked ()
    (∃ (statement : WriteStatement) (assigned : List (String × Value)),
      commandsOf calls = [statement.command .brackets] ∧
      statement.Assigns (Table.named "dbo" "Customers") assigned ∧
      ("Name", .text "Eve") ∈ assigned) ∧ ⟨1⟩ ∉ tracked.pending.ids := by
  intro cleared actions tracked calls
  obtain ⟨ann, hann, hannOwner, hannState, hannName⟩ := get_ann_renamed
  obtain ⟨bob, hbob, hbobOwner, hbobState⟩ := get_bob_marked
  obtain ⟨-, -, -, hgone, -⟩ := abandoned_changes_return rfl hbob hbobOwner actions
    WritePlan.unrelated answeringAnnAndBob .brackets default ()
  refine ⟨?_, hgone hbobState⟩
  obtain ⟨entity, hentity, -, -, hissues⟩ := abandoned_changes_return rfl hann hannOwner actions
    WritePlan.unrelated answeringAnnAndBob .brackets default ()
  obtain ⟨issues, hcommands, hissues⟩ := hissues calls (.inl rfl)
  have hcount : (commandsOf calls).length = 1 := by decide +kernel
  rw [hcommands, List.length_map] at hcount
  obtain ⟨issue, rfl⟩ := List.length_eq_one_iff.1 hcount
  obtain ⟨⟨found, hrenders⟩, hissue⟩ := hissues issue List.mem_cons_self
  obtain ⟨hid, hupdate, htable, hkeys⟩ := update_of_city_edited hrenders
  obtain rfl : entity = found := Option.some.inj (hentity.symm.trans (hid ▸ hrenders.get))
  obtain ⟨-, hassigned⟩ := hissue hid
  obtain ⟨assigned, filled, hassigns, -, hcolumns, hvalues⟩ := hassigned hupdate
  refine ⟨issue.statement, assigned, hcommands, htable ▸ hassigns, ?_⟩
  have hname := (hcolumns "Name").2 ⟨by rw [hkeys]; decide,
    .inr (.inl ⟨ann_never_unchanged, by rw [hannState]; decide⟩)⟩
  obtain ⟨⟨_, value⟩, hmem, rfl⟩ := List.mem_map.1 hname
  have hsilent : (⟨0⟩, "Name") ∉ ofCities.writtenIn actions cleared := by decide +kernel
  rwa [hvalues "Name" value hmem hsilent (.text "Eve") hannName] at hmem

end Orm.Context
