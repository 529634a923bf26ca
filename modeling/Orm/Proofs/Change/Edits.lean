import Orm.Proofs.Change.Gains

/-!
# What becomes of edits

A commit accepts the edits of an entity. Before that the update of the entity stored those outside
the key of its table, together with the foreign keys that were filled in, as the entity holds them
afterwards: that is `Entry.StoresEdits`. Keys are never assigned, so there is no update of an entity
of which nothing else was edited or filled in. `Submitted.takes_in_edits` says so of every
submission that is committed.
-/

namespace Orm.Submission

variable {dialect : Dialect} {entry : Entry}

/-! ## One update -/

/-- The update of an entity has to store a column: one outside the key that was edited or filled
in. -/
def Entry.HasToStore (entry : Entry) (old new : Entity) (column : String) : Prop :=
  (column ∈ old.state.modifiedColumns ∨
      old.present? column = none ∧ new.hasValue column = true) ∧
    column ∉ entry.columns.primaryKeys

/-- The update of an entity by the model of its table. If there is a column that it has to store, a
statement was executed that assigns these columns, and no other ones, what the entity holds once all
is committed. -/
structure Entry.StoresEdits {σ : Type} (schema : SchemaSource σ) (entry : Entry)
    (old new : Entity) : Prop where
  operation : entry.step.operation = .update
  model : ∃ asked found, (schema.columns old.table asked).1 = .ok found ∧
    entry.columns = if found.isEmpty then old.columns else found
  unissued : entry.answer = none ↔ ∀ column, ¬ entry.HasToStore old new column
  assigns : ∀ statement result, entry.answer = some (statement, result) →
    ∃ assigned, statement.Assigns old.table assigned ∧
      (∀ column, column ∈ assigned.map Prod.fst ↔ entry.HasToStore old new column) ∧
      ∀ column value, (column, value) ∈ assigned → value = (new.values.find? column).getD .null

/-- The answer to an update gives nothing to the entity, which stays as its statement was rendered
for it. The columns that were filled in before are those that held nothing and hold something
then. -/
theorem Entry.Valid.rendered_update (h : entry.Valid dialect) {entity : Entity}
    (hentity : entry.before.store.get? entry.step.entity = some entity)
    (hoperation : entry.step.operation = .update) :
    ∃ filled values,
      Batch.statementFor dialect .update { entity with values := values } entry.columns filled
        = .ok (entry.answer.map Prod.fst) ∧
      entry.after.store.get? entry.step.entity = some { entity with values := values } ∧
      ∀ column, column ∈ filled ↔ entity.present? column = none ∧
        ({ entity with values := values } : Entity).hasValue column = true := by
  obtain ⟨rendered, hrender, habsorb⟩ := h
  obtain ⟨filled, values, hget, hstatement, -, hlinked, hresolved⟩ := Batch.render_of_get
    entry.before.batch dialect entry.columns hentity
  have hresolved := (hresolved (by rw [hoperation]; nofun)).symm
  rw [hrender] at hget hstatement hresolved
  dsimp only at hget hstatement
  rw [hoperation] at hstatement
  have hnothing : entry.answer.bind (fun answer =>
      Batch.identityOf answer.1 entry.columns answer.2) = none := by
    refine Option.bind_eq_none_iff.2 fun ⟨statement, result⟩ hanswer => ?_
    rw [Option.eq_none_iff_forall_ne_some]
    rintro ⟨key, value⟩ hidentity
    rw [hanswer] at hstatement
    cases WriteStatement.insert_of_reads_identity hstatement.symm
      (Batch.identity_of_eq_some hidentity).1
  have hstored : entry.after.store = rendered.store := by
    have hstores := congrArg Prod.snd habsorb
    simp only [Batch.absorb, hnothing] at hstores
    exact hstores.symm
  refine ⟨filled, values, hstatement.symm, by rw [hstored, hget], fun column => ⟨?_, ?_⟩⟩
  · intro hcolumn
    obtain ⟨-, -, -, value, -, hheld, -⟩ := Batch.resolve_links_source
      (show column ∈ (Batch.resolveLinks entry.step.entity entity.links entry.before.batch
        entry.before.store).1 by rw [hresolved]; exact hcolumn)
    rw [hresolved, EntityStore.present?, hget, Option.bind_some] at hheld
    exact ⟨(hlinked column hcolumn).1, by rw [Entity.hasValue, hheld]; rfl⟩
  · rintro ⟨habsent, hvalue⟩
    by_contra hcolumn
    obtain ⟨-, hkept⟩ := Batch.resolve_links_absent hentity entity.links entry.before.batch
    rw [hresolved] at hkept
    have hsame := hkept column hcolumn
    rw [EntityStore.present?, hget, Option.bind_some, habsent] at hsame
    rw [Entity.hasValue, hsame] at hvalue
    cases hvalue

/-! ## Updates of a committed submission -/

variable {σ : Type} {schema : SchemaSource σ} {options : TransactionOptions} {tracked : Tracked}
  {state : σ} {plan : WritePlan} {entries : List Entry} {last : Progress}

/-- The update of an entity stores its edits, which are accepted then. -/
theorem stores_edits_of_ledger
    (hplanned : Planned schema tracked state plan (entries.map Entry.write))
    (hledger : Ledger dialect ⟨.empty, tracked.store⟩ entries last) (hentry : entry ∈ entries)
    (hoperation : entry.step.operation = .update) {old : Entity}
    (hold : tracked.store.get? entry.step.entity = some old) :
    ∃ new, (last.batch.finish ⟨last.store, tracked.pending⟩).store.get? entry.step.entity
        = some new ∧ new.state = .unchanged ∧ entry.StoresEdits schema old new := by
  have hbefore := (get_before_of_entry hplanned hledger hentry).trans hold
  obtain ⟨filled, values, hstatement, hafter, hfilled⟩ :=
    (hledger.valid_of_mem hentry).rendered_update hbefore hoperation
  have hnew : (last.batch.finish ⟨last.store, tracked.pending⟩).store.get? entry.step.entity
      = some ({ old with values := values } : Entity).accepted := by
    rw [get_finish_of_entry hplanned hledger hentry, hafter, hoperation]
    rfl
  have hstores : ∀ column, (column ∈ old.state.modifiedColumns ∨ column ∈ filled) ∧
      column ∉ entry.columns.primaryKeys ↔
        entry.HasToStore old ({ old with values := values } : Entity).accepted column :=
    fun column => and_congr_left' (or_congr_right (hfilled column))
  refine ⟨_, hnew, rfl, hoperation, ?_, ?_, fun statement result hanswer => ?_⟩
  · exact model_of_mem hplanned.models (List.mem_map_of_mem hentry) hold
  · have hnone : entry.answer = none ↔ Batch.statementFor dialect .update
        { old with values := values } entry.columns filled = .ok none := by
      rw [hstatement]
      simp
    rw [hnone, WriteStatement.statement_for_eq_none_iff, and_iff_right rfl]
    refine forall_congr' fun column => ?_
    rw [← hstores, not_and, not_not]
  · rw [hanswer] at hstatement
    obtain ⟨assigned, hassigns, hcolumns, hvalues⟩ :=
      WriteStatement.statement_for_assigns hstatement
    refine ⟨assigned, hassigns, fun column => ?_, hvalues⟩
    rw [hcolumns, WriteStatement.mem_changed_columns]
    exact hstores column

/-! ## Submissions -/

/-- Writes leave the state of every entity as it is. -/
theorem state_of_ledger (hledger : Ledger dialect ⟨.empty, tracked.store⟩ entries last)
    (id : EntityId) :
    (last.store.get? id).map Entity.state = (tracked.store.get? id).map Entity.state := by
  have hfilled := hledger.filled_from (Batch.filled_from_empty _)
  cases hold : tracked.store.get? id with
  | none => rw [hfilled.missing id hold]
  | some old =>
      obtain ⟨new, hnew, hkept, -⟩ := hfilled.kept id old hold
      rw [hnew, Option.map_some, Option.map_some, hkept]

/-- As many commands are executed as there are entities if and only if every write has a
statement. -/
theorem Committed.count_eq_length_commands_iff {calls : List Exchange} {count : Nat}
    {after : Tracked}
    (h : Committed schema dialect options tracked state calls count after plan entries) :
    count = (commandsOf calls).length ↔ ∀ entry ∈ entries, entry.answer ≠ none := by
  have hsteps : plan.steps.length = entries.length := by
    rw [← h.planned.steps, List.length_map, List.length_map]
  have hcount : count = entries.length := by
    rw [h.count_eq, ← h.planned.perm_dirty.length_eq, List.length_map, hsteps]
  have hcommands : (commandsOf calls).length = (issuesOf entries).length := by
    rw [h.calls_eq, commands_of_transaction _ _ _ rfl, commands_of_executions, List.length_map]
  rw [hcount, hcommands, eq_comm]
  refine List.filterMap_length_eq_length.trans (forall₂_congr fun entry _ => ?_)
  rw [Entry.issue?, Option.isSome_map, Option.isSome_iff_ne_none]

/-- What a committed submission does with edits. Every entity keeps its state until the commit. An
entity that was modified is unchanged then, and its update stored its edits. As many commands are
executed as entities are counted if and only if every update has a column to store. -/
structure TakesInEdits (schema : SchemaSource σ) (dialect : Dialect) (options : TransactionOptions)
    (tracked : Tracked) (state : σ) (calls : List Exchange) (count : Nat) (after : Tracked)
    (plan : WritePlan) (entries : List Entry) (last : Progress) : Prop extends
    Committed schema dialect options tracked state calls count after plan entries where
  written : Ledger dialect ⟨.empty, tracked.store⟩ entries last
  after_eq : after = last.batch.finish ⟨last.store, tracked.pending⟩
  uncommitted : ∀ id,
    (last.store.get? id).map Entity.state = (tracked.store.get? id).map Entity.state
  stores : ∀ id ∈ tracked.pending.dirty tracked.store, ∀ old columns,
    tracked.store.get? id = some old → old.state = .modified columns →
      ∃ entry ∈ entries, entry.step.entity = id ∧ ∃ new, after.store.get? id = some new ∧
        new.state = .unchanged ∧ entry.StoresEdits schema old new
  counts : count = (commandsOf calls).length ↔
    ∀ entry ∈ entries, ∀ old new, tracked.store.get? entry.step.entity = some old →
      after.store.get? entry.step.entity = some new → entry.step.operation = .update →
        ∃ column, entry.HasToStore old new column

/-- Every submission that is committed takes in the edits of its entities. -/
theorem Submitted.takes_in_edits {calls : List Exchange}
    {result : Except PersistError Nat × Tracked}
    (h : Submitted schema dialect options tracked state calls result)
    (hdirty : tracked.pending.dirty tracked.store ≠ []) {count : Nat}
    (hcount : result.1 = .ok count) :
    ∃ plan entries last, TakesInEdits schema dialect options tracked state calls count result.2
      plan entries last := by
  obtain ⟨plan, entries, last, hcommitted, hledger, hresult⟩ := h.finished hdirty hcount
  have hplanned := hcommitted.planned
  have hstores : ∀ entry ∈ entries, entry.step.operation = .update → ∀ old,
      tracked.store.get? entry.step.entity = some old → ∃ new,
        result.2.store.get? entry.step.entity = some new ∧ new.state = .unchanged ∧
          entry.StoresEdits schema old new := by
    intro entry hentry hoperation old hold
    rw [hresult]
    exact stores_edits_of_ledger hplanned hledger hentry hoperation hold
  refine ⟨plan, entries, last, {
    toCommitted := hcommitted
    written := hledger
    after_eq := hresult
    uncommitted := state_of_ledger hledger
    stores := fun id hid old columns hold hmodified => ?_
    counts := hcommitted.count_eq_length_commands_iff.trans ⟨fun hanswered => ?_,
      fun hcolumns => ?_⟩ }⟩
  · obtain ⟨entry, hentry, rfl, hoperation, -⟩ := entry_of_dirty hplanned hledger hid hold
    rw [hmodified] at hoperation
    exact ⟨entry, hentry, rfl, hstores entry hentry (Option.some.inj hoperation).symm old hold⟩
  · intro entry hentry old new hold hnew hoperation
    obtain ⟨other, hother, -, hedits⟩ := hstores entry hentry hoperation old hold
    obtain rfl := Option.some.inj (hnew.symm.trans hother)
    by_contra hnothing
    exact hanswered entry hentry (hedits.unissued.2 (not_exists.1 hnothing))
  · intro entry hentry hnone
    obtain ⟨hoperation, -⟩ := (hcommitted.answer_eq_none_iff entry hentry).1 hnone
    obtain ⟨old, hold⟩ := get_of_planned hplanned (step_of_entry hplanned hentry)
    obtain ⟨new, hnew, -, hedits⟩ := hstores entry hentry hoperation old hold
    obtain ⟨column, hcolumn⟩ := hcolumns entry hentry old new hold hnew hoperation
    exact hedits.unissued.1 hnone column hcolumn

end Orm.Submission
