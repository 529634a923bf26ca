import Orm.Proofs.Change.ParentKeys
import Orm.Proofs.Change.Settlement

/-!
# What the write of an entity stores

At its write an entity gets the keys of the parents that it is linked to, and then its statement
stores some of its columns. `Entry.heldWith` is what a column holds in between, `Entry.Valid.stores`
says which columns the statement stores, and `present_finish_of_entry` that what a column held after
its write is what it holds after the commit.
-/

namespace Orm

/-- Copying the keys of all parents copies those of the last one at the end. -/
theorem Batch.resolve_links_concat (id : EntityId) (links : List ParentLink) (link : ParentLink)
    (batch : Batch) (store : EntityStore) :
    (resolveLinks id (links ++ [link]) batch store).2
      = (fillKeys id link.parent link.relationship.keyPairs
          (resolveLinks id links batch store).2.1 (resolveLinks id links batch store).2.2).2 := by
  induction links generalizing batch store with
  | nil => rfl
  | cons head rest ih => exact ih _ _

namespace WriteStatement

/-! ## One statement -/

/-- A write can store a column: an insert stores what the model of the table has, or any column
without a model, and an update stores what is no key. -/
def HasPlace (operation : WriteOperation) (columns : ColumnMap) (column : String) : Prop :=
  match operation with
  | .insert => columns.isEmpty = true ∨ columns.contains column = true
  | .update => column ∉ columns.primaryKeys
  | .delete => False

/-- A statement inserts or updates a row of a table with some values in some columns. Where there is
no statement nothing is stored. -/
def Stores (dialect : Dialect) (table : Table) (stored : List (String × Value)) :
    Option WriteStatement → Prop
  | none => stored = []
  | some statement => statement.Inserts dialect table stored ∨ statement.Assigns table stored

variable {dialect : Dialect} {entity : Entity} {columns : ColumnMap} {filled : List String}

/-- The statement of an insert stores what is present where there is a place for it. -/
theorem statement_for_insert_stores {statement : Option WriteStatement}
    (h : Batch.statementFor dialect .insert entity columns filled = .ok statement) :
    Stores dialect entity.table (insertedValues entity columns) statement := by
  obtain ⟨inserted, hinsert, rfl⟩ := Action.map_eq_ok_iff.1 h
  exact .inl (insert_inserts hinsert)

/-- The statement of an update stores the changed columns with what they hold. -/
theorem statement_for_update_stores {statement : Option WriteStatement}
    (h : Batch.statementFor dialect .update entity columns filled = .ok statement) :
    ∃ stored, Stores dialect entity.table stored statement ∧ ∀ column held,
      entity.present? column = some held → ∀ value, (column, value) ∈ stored ↔
        value = held ∧ column ∈ changedColumns entity columns.primaryKeys filled := by
  cases statement with
  | none =>
      have hnothing := update_eq_none_iff.1 h
      refine ⟨[], rfl, fun column held _ value => ?_⟩
      rw [hnothing]
      exact iff_of_false List.not_mem_nil fun hstored => List.not_mem_nil hstored.2
  | some statement =>
      obtain ⟨assigned, hassigns, hcolumns, hvalues⟩ := statement_for_assigns h
      refine ⟨assigned, .inr hassigns, fun column held hheld value => ?_⟩
      have hvalue : ∀ other, (column, other) ∈ assigned → other = held := fun other hmem => by
        rw [hvalues column other hmem, (Entity.present_eq_some_iff.1 hheld).1, Option.getD_some]
      rw [← hcolumns]
      constructor
      · exact fun hmem => ⟨hvalue value hmem, List.mem_map_of_mem hmem⟩
      · rintro ⟨rfl, hcolumn⟩
        obtain ⟨⟨_, other⟩, hmem, rfl⟩ := List.mem_map.1 hcolumn
        exact hvalue other hmem ▸ hmem

/-- What a statement stores of the columns that are present: those that there is a place for, each
with what it holds. An update leaves out what was neither edited nor filled in. -/
theorem statement_for_stores {operation : WriteOperation} (hoperation : operation ≠ .delete)
    {statement : Option WriteStatement}
    (h : Batch.statementFor dialect operation entity columns filled = .ok statement) :
    ∃ stored, Stores dialect entity.table stored statement ∧ ∀ column held,
      entity.present? column = some held → ∀ value, (column, value) ∈ stored ↔
        value = held ∧ HasPlace operation columns column ∧
          (operation = .insert ∨ column ∈ entity.state.modifiedColumns ∨ column ∈ filled) := by
  cases operation with
  | delete => exact absurd rfl hoperation
  | insert =>
      refine ⟨_, statement_for_insert_stores h, fun column held hheld value => ?_⟩
      rw [mem_inserted_values, hheld, HasPlace, Option.some.injEq, eq_comm]
      exact and_congr_right fun _ => (and_iff_left (.inl rfl)).symm
  | update =>
      obtain ⟨stored, hstores, hstored⟩ := statement_for_update_stores h
      refine ⟨stored, hstores, fun column held hheld value => ?_⟩
      rw [hstored column held hheld, mem_changed_columns, HasPlace, and_comm (b := column ∉ _)]
      simp

end WriteStatement

namespace Submission

/-! ## One entry -/

/-- What a column of the entity of an entry holds at its write, once the keys of the parents of some
links are filled in. -/
def Entry.heldWith (entry : Entry) (links : List ParentLink) (column : String) : Option Value :=
  (Batch.resolveLinks entry.step.entity links entry.before.batch entry.before.store).2.2.present?
    entry.step.entity column

/-- The statement of an entry stores a value in a column of a table if and only if a condition
holds, and never another value. -/
def Entry.StoresIf (dialect : Dialect) (entry : Entry) (table : Table) (column : String)
    (value : Value) (condition : Prop) : Prop :=
  ∃ stored, WriteStatement.Stores dialect table stored (entry.answer.map Prod.fst) ∧
    ∀ other, (column, other) ∈ stored ↔ other = value ∧ condition

/-- The statement of an entry has a place for a column. -/
def Entry.HasPlace (entry : Entry) (column : String) : Prop :=
  WriteStatement.HasPlace entry.step.operation entry.columns column

variable {dialect : Dialect} {entry : Entry} {entity : Entity}

/-- What a column holds before a write it holds at the write. -/
theorem Entry.held_with_of_present
    (hentity : entry.before.store.get? entry.step.entity = some entity) (links : List ParentLink)
    {column : String} {value : Value} (hvalue : entity.present? column = some value) :
    entry.heldWith links column = some value := by
  obtain ⟨values, hget, hkept⟩ := (Batch.resolve_links_fills entry.step.entity links
    entry.before.batch entry.before.store).get_self hentity
  rw [heldWith, EntityStore.present?, hget, Option.bind_some]
  exact hkept column value hvalue

/-- One more link, to another entity, gives a column the first key that it has for it, if the other
links gave none. -/
theorem Entry.held_with_concat
    (hentity : entry.before.store.get? entry.step.entity = some entity) (links : List ParentLink)
    {link : ParentLink} (hne : entry.step.entity ≠ link.parent) (column : String) :
    entry.heldWith (links ++ [link]) column
      = (entry.heldWith links column).or
          (Batch.keyFor entry.before.store link.parent link.relationship.keyPairs column) := by
  have hfills := Batch.resolve_links_fills entry.step.entity links entry.before.batch
    entry.before.store
  obtain ⟨values, hget, -⟩ := hfills.get_self hentity
  rw [heldWith, Batch.resolve_links_concat,
    Batch.present_fill_keys hget hne link.relationship.keyPairs,
    Batch.key_for_congr (hfills.get_of_ne hne)]
  rfl

/-- The statement of a write is rendered for the entity as it is at the write. What it then holds it
still holds when the result was taken in. -/
theorem Entry.Valid.rendered (h : entry.Valid dialect)
    (hentity : entry.before.store.get? entry.step.entity = some entity)
    (hoperation : entry.step.operation ≠ .delete) :
    ∃ filled values,
      Batch.statementFor dialect entry.step.operation { entity with values := values }
          entry.columns filled = .ok (entry.answer.map Prod.fst) ∧
      (∀ column, entry.heldWith entity.links column
        = ({ entity with values := values } : Entity).present? column) ∧
      (∀ column held, entry.heldWith entity.links column = some held →
        (column ∈ filled ↔ entity.present? column = none) ∧
          entry.after.store.present? entry.step.entity column = some held) := by
  obtain ⟨rendered, hrender, habsorb⟩ := h
  obtain ⟨filled, values, hget, hstatement, -, -, hresolved⟩ := Batch.render_of_get
    entry.before.batch dialect entry.columns hentity
  have hresolved := (hresolved hoperation).symm
  rw [hrender] at hget hstatement hresolved
  dsimp only at hget hstatement
  have hheld : ∀ column, entry.heldWith entity.links column
      = ({ entity with values := values } : Entity).present? column := by
    intro column
    rw [heldWith, hresolved, EntityStore.present?, hget, Option.bind_some]
  refine ⟨filled, values, hstatement.symm, hheld, fun column held hcolumn => ⟨?_, ?_⟩⟩
  · obtain ⟨habsent, hkept⟩ := Batch.resolve_links_absent hentity entity.links entry.before.batch
    rw [heldWith] at hcolumn
    rw [hresolved] at habsent hkept hcolumn
    refine ⟨habsent column, fun hnone => ?_⟩
    by_contra hfilled
    cases hcolumn.symm.trans ((hkept column hfilled).trans hnone)
  · obtain ⟨-, batch, hfills, -⟩ := Batch.absorb_fills rendered.batch rendered.store entry.step
      entry.columns entry.answer
    rw [habsorb] at hfills
    obtain ⟨taken, htaken, hpresent⟩ := hfills.get_self hget
    rw [EntityStore.present?, htaken, Option.bind_some]
    exact hpresent column held ((hheld column).symm.trans hcolumn)

/-- What a column holds at a write it still holds when the write is done. -/
theorem Entry.Valid.present_after (h : entry.Valid dialect)
    (hentity : entry.before.store.get? entry.step.entity = some entity)
    (hoperation : entry.step.operation ≠ .delete) {column : String} {held : Value}
    (hcolumn : entry.heldWith entity.links column = some held) :
    entry.after.store.present? entry.step.entity column = some held := by
  obtain ⟨filled, values, -, -, hheld⟩ := h.rendered hentity hoperation
  exact (hheld column held hcolumn).2

/-- The statement of a write stores a column that holds something at the write with what it holds,
if there is a place for it. An update leaves out what was neither edited nor filled in. -/
theorem Entry.Valid.stores (h : entry.Valid dialect)
    (hentity : entry.before.store.get? entry.step.entity = some entity)
    (hoperation : entry.step.operation ≠ .delete) {column : String} {held : Value}
    (hcolumn : entry.heldWith entity.links column = some held) :
    entry.StoresIf dialect entity.table column held (entry.HasPlace column ∧
      (entry.step.operation = .insert ∨ column ∈ entity.state.modifiedColumns ∨
        entity.present? column = none)) := by
  obtain ⟨filled, values, hstatement, hheld, hfilled⟩ := h.rendered hentity hoperation
  obtain ⟨stored, hstores, hstored⟩ := WriteStatement.statement_for_stores hoperation hstatement
  refine ⟨stored, hstores, fun value => ?_⟩
  rw [hstored column held ((hheld column).symm.trans hcolumn), (hfilled column held hcolumn).1]
  rfl

/-! ## Entries of a committed submission -/

variable {σ : Type} {schema : SchemaSource σ} {tracked : Tracked} {state : σ} {plan : WritePlan}
  {entries : List Entry} {last : Progress}

/-- After the commit an entity holds what it held when its write was done. -/
theorem present_finish_of_entry
    (hplanned : Planned schema tracked state plan (entries.map Entry.write))
    (hledger : Ledger dialect ⟨.empty, tracked.store⟩ entries last) (hentry : entry ∈ entries)
    (column : String) :
    (last.batch.finish ⟨last.store, tracked.pending⟩).store.present? entry.step.entity column
      = entry.after.store.present? entry.step.entity column := by
  rw [Batch.present_finish, EntityStore.present?,
    hledger.get_after (nodup_of_planned hplanned) hentry]
  rfl

/-- A dirty entity has an entry, for the write that its state asks for. Up to its write it is as it
was at the beginning. -/
theorem entry_of_dirty (hplanned : Planned schema tracked state plan (entries.map Entry.write))
    (hledger : Ledger dialect ⟨.empty, tracked.store⟩ entries last) {id : EntityId}
    (hid : id ∈ tracked.pending.dirty tracked.store)
    (hentity : tracked.store.get? id = some entity) :
    ∃ entry ∈ entries, entry.step.entity = id ∧
      entity.state.operation? = some entry.step.operation ∧
      entry.before.store.get? id = some entity := by
  obtain ⟨step, hstep, rfl⟩ := hplanned.step_of_dirty hid
  have hoperation := hplanned.operation_of_step hstep hentity
  rw [← hplanned.steps, List.map_map] at hstep
  obtain ⟨entry, hentry, rfl⟩ := List.mem_map.1 hstep
  exact ⟨entry, hentry, rfl, hoperation,
    (get_before_of_entry hplanned hledger hentry).trans hentity⟩

/-- The insert of a new parent is a step of a plan before the insert or the update of an entity that
is linked to it. -/
theorem parent_step_before {writes : List (WritePlan.Step × ColumnMap)}
    (hplanned : Planned schema tracked state plan writes) {step : WritePlan.Step}
    (hstep : step ∈ plan.steps) (hoperation : step.operation ≠ .delete)
    (hentity : tracked.store.get? step.entity = some entity) {link : ParentLink}
    (hlink : link ∈ entity.links) (hparent : New tracked link.parent) :
    [⟨.insert, link.parent⟩, step].Sublist plan.steps := by
  obtain ⟨hinserts, -, -, -⟩ := WritePlan.arranges_of_build
    (tracked.pending.nodup_dirty tracked.store) (Prod.ext hplanned.build rfl)
  have hstate := hplanned.operation_of_step hstep hentity
  obtain ⟨operation, id⟩ := step
  cases operation with
  | delete => exact absurd rfl hoperation
  | insert =>
      have hdirty := hplanned.perm_dirty.mem_iff.1 (List.mem_map_of_mem hstep)
      have hchild : New tracked id := ⟨(PendingSet.mem_dirty_iff.1 hdirty).1, entity, hentity,
        EntityState.operation_eq_insert_iff.1 hstate⟩
      have hnew : NewLink tracked link.parent id :=
        ⟨hparent, hchild, entity, hentity, link, hlink, rfl⟩
      refine ((inserts_of_new_links hplanned (.single hnew)).map
        (WritePlan.Step.mk .insert)).trans ?_
      rw [WritePlan.steps, List.append_assoc]
      exact List.sublist_append_left _ _
  | update =>
      -- All inserts come before the updates.
      have hfirst : (⟨.insert, link.parent⟩ : WritePlan.Step)
          ∈ plan.inserts.map (WritePlan.Step.mk .insert) :=
        List.mem_map_of_mem (hinserts.perm.mem_iff.2 (mem_created_iff.2 hparent))
      have hsecond : (⟨.update, id⟩ : WritePlan.Step)
          ∈ plan.updates.map (WritePlan.Step.mk .update) := by
        simpa [WritePlan.steps] using hstep
      exact ((List.singleton_sublist.2 hfirst).append (List.singleton_sublist.2 hsecond)).trans
        (List.sublist_append_left _ _)

/-- The insert of a new parent has its entry before that of the insert or the update of an entity
that is linked to it. -/
theorem parent_entry_before
    (hplanned : Planned schema tracked state plan (entries.map Entry.write))
    (hentry : entry ∈ entries) (hoperation : entry.step.operation ≠ .delete)
    (hentity : tracked.store.get? entry.step.entity = some entity) {link : ParentLink}
    (hlink : link ∈ entity.links) (hparent : New tracked link.parent) :
    ∃ earlier, [earlier, entry].Sublist entries ∧ earlier.step = ⟨.insert, link.parent⟩ := by
  obtain ⟨earlier, later, hsublist, hearlier, hlater⟩ := entries_of_steps hplanned
    (parent_step_before hplanned (step_of_entry hplanned hentry) hoperation hentity hlink hparent)
  obtain rfl : later = entry := List.inj_on_of_nodup_map (nodup_of_planned hplanned)
    (hsublist.subset (by simp)) hentry (congrArg WritePlan.Step.entity hlater)
  exact ⟨earlier, hsublist, hearlier⟩

/-- An entity is not linked to itself as a new parent. -/
theorem entity_ne_parent
    (hplanned : Planned schema tracked state plan (entries.map Entry.write))
    (hentry : entry ∈ entries) (hoperation : entry.step.operation ≠ .delete)
    (hentity : tracked.store.get? entry.step.entity = some entity) {link : ParentLink}
    (hlink : link ∈ entity.links) (hparent : New tracked link.parent) :
    entry.step.entity ≠ link.parent := by
  obtain ⟨earlier, hsublist, hearlier⟩ :=
    parent_entry_before hplanned hentry hoperation hentity hlink hparent
  have hdistinct := (nodup_of_planned hplanned).sublist
    (hsublist.map fun entry => entry.step.entity)
  obtain hsame : earlier.step.entity = link.parent := congrArg WritePlan.Step.entity hearlier
  rw [← hsame]
  exact fun hequal => by simp [hequal] at hdistinct

/-- At its write an entity finds the keys of its new parents as they are after the commit. -/
theorem present_parent_at_write
    (hplanned : Planned schema tracked state plan (entries.map Entry.write))
    (hledger : Ledger dialect ⟨.empty, tracked.store⟩ entries last) (hentry : entry ∈ entries)
    (hoperation : entry.step.operation ≠ .delete)
    (hentity : tracked.store.get? entry.step.entity = some entity) {link : ParentLink}
    (hlink : link ∈ entity.links) (hparent : New tracked link.parent) (column : String) :
    entry.before.store.present? link.parent column
      = (last.batch.finish ⟨last.store, tracked.pending⟩).store.present? link.parent column := by
  obtain ⟨earlier, hsublist, hearlier⟩ :=
    parent_entry_before hplanned hentry hoperation hentity hlink hparent
  obtain hsame : earlier.step.entity = link.parent := congrArg WritePlan.Step.entity hearlier
  rw [← hsame, present_finish_of_entry hplanned hledger (hsublist.subset (by simp)),
    EntityStore.present?, hledger.get_between (nodup_of_planned hplanned) hsublist,
    EntityStore.present?]

/-- The last link of an entity is to a new parent that has a key for a column after the commit. At
the write of the entity the column holds what it held once the other links were filled in, or else
that key, and so it does after the commit. -/
theorem stored_of_last_link
    (hplanned : Planned schema tracked state plan (entries.map Entry.write))
    (hledger : Ledger dialect ⟨.empty, tracked.store⟩ entries last) (hentry : entry ∈ entries)
    (hoperation : entry.step.operation ≠ .delete)
    (hentity : tracked.store.get? entry.step.entity = some entity) {links : List ParentLink}
    {link : ParentLink} (hlinks : entity.links = links ++ [link])
    (hparent : New tracked link.parent) {column : String} {key : Value}
    (hkey : Batch.keyFor (last.batch.finish ⟨last.store, tracked.pending⟩).store link.parent
      link.relationship.keyPairs column = some key) :
    (last.batch.finish ⟨last.store, tracked.pending⟩).store.present? entry.step.entity column
        = some ((entry.heldWith links column).getD key) ∧
      entry.StoresIf dialect entity.table column ((entry.heldWith links column).getD key)
        (entry.HasPlace column ∧ (entry.step.operation = .insert ∨
          column ∈ entity.state.modifiedColumns ∨ entity.present? column = none)) := by
  have hlink : link ∈ entity.links := by simp [hlinks]
  have hne := entity_ne_parent hplanned hentry hoperation hentity hlink hparent
  have hbefore := (get_before_of_entry hplanned hledger hentry).trans hentity
  have hheld : entry.heldWith entity.links column
      = some ((entry.heldWith links column).getD key) := by
    have hsame : Batch.keyFor entry.before.store link.parent link.relationship.keyPairs column
        = some key := by
      rw [← hkey]
      simp only [Batch.keyFor, present_parent_at_write hplanned hledger hentry hoperation hentity
        hlink hparent]
    rw [hlinks, Entry.held_with_concat hbefore links hne, hsame, Option.or_some]
  have hvalid := hledger.valid_of_mem hentry
  refine ⟨?_, hvalid.stores hbefore hoperation hheld⟩
  rw [present_finish_of_entry hplanned hledger hentry]
  exact hvalid.present_after hbefore hoperation hheld

end Submission

end Orm
