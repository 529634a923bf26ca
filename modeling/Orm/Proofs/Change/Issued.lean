import Orm.Proofs.Change.Settlement

/-!
# The statements that a submission issues

Every command of a submission executes the statement of one write, and each entity has at most one.
`Submitted.issues` lists these statements with the entities that they are rendered for, whether the
database answered them or not, and `Issue.Renders.addresses` says which row an update or a delete is
about: the one with the keys that the entity holds.
-/

namespace Orm.Submission

/-- A statement that was issued for a write, with the model of its table. -/
structure Issue where
  step : WritePlan.Step
  columns : ColumnMap
  statement : WriteStatement

/-- A statement was rendered for a dirty entity, as its state asks for and by the model of its
table, after some columns that held nothing were filled. -/
structure Issue.Renders {σ : Type} (schema : SchemaSource σ) (dialect : Dialect)
    (tracked : Tracked) (issue : Issue) (entity : Entity) : Prop where
  dirty : issue.step.entity ∈ tracked.pending.dirty tracked.store
  get : tracked.store.get? issue.step.entity = some entity
  operation : entity.state.operation? = some issue.step.operation
  model : ∃ asked found, (schema.columns entity.table asked).1 = .ok found ∧
    issue.columns = if found.isEmpty then entity.columns else found
  statement : ∃ values filled, entity.PresentIn { entity with values := values } ∧
    Batch.statementFor dialect issue.step.operation { entity with values := values }
      issue.columns filled = .ok (some issue.statement)

/-- A statement was rendered, and what was filled before are foreign keys of links of the entity, in
which it held nothing. -/
structure Issue.RendersLinked {σ : Type} (schema : SchemaSource σ) (dialect : Dialect)
    (tracked : Tracked) (issue : Issue) (entity : Entity) : Prop extends
    Issue.Renders schema dialect tracked issue entity where
  linked : ∃ values filled, entity.PresentIn { entity with values := values } ∧
    Batch.statementFor dialect issue.step.operation { entity with values := values }
      issue.columns filled = .ok (some issue.statement) ∧
    ∀ column ∈ filled, entity.present? column = none ∧
      ∃ link ∈ entity.links, column ∈ link.relationship.foreignKeys

/-- The commands that some calls execute. -/
def commandsOf (calls : List Exchange) : List Command :=
  calls.filterMap fun exchange =>
    match exchange.call with
    | .execute command => some command
    | .start _ | .commit | .rollback => none

/-- The statement that an entry of a ledger issued, if it has one. -/
def Entry.issue? (entry : Entry) : Option Issue :=
  entry.answer.map fun answer => ⟨entry.step, entry.columns, answer.1⟩

/-- The statements that the entries of a ledger issued. -/
def issuesOf (entries : List Entry) : List Issue := entries.filterMap Entry.issue?

variable {σ : Type} {schema : SchemaSource σ} {dialect : Dialect} {options : TransactionOptions}
  {tracked : Tracked} {state : σ} {plan : WritePlan}
  {writes : List (WritePlan.Step × ColumnMap)} {entries : List Entry} {last : Progress}

/-- The commands of a ledger are those of its statements. -/
theorem commands_of_executions (dialect : Dialect) (entries : List Entry) :
    commandsOf (executions dialect entries)
      = (issuesOf entries).map fun issue => issue.statement.command dialect := by
  rw [commandsOf, executions, issuesOf, List.filterMap_filterMap, List.map_filterMap]
  refine List.filterMap_congr fun entry _ => ?_
  cases hanswer : entry.answer <;> simp [Entry.exchange?, Entry.issue?, hanswer]

/-- The commands of a transaction are those of its writes. -/
theorem commands_of_transaction (options : TransactionOptions) (answer : DatabaseAnswer)
    (made : List Exchange) {closing : List Exchange} (hclosing : commandsOf closing = []) :
    commandsOf (⟨.start options, answer⟩ :: made ++ closing) = commandsOf made := by
  rw [commandsOf, List.cons_append, List.filterMap_cons, List.filterMap_append]
  exact (congrArg (commandsOf made ++ ·) hclosing).trans (List.append_nil _)

/-- Each entity with a statement has an entry. -/
theorem issues_sublist (entries : List Entry) :
    ((issuesOf entries).map fun issue => issue.step.entity).Sublist
      (entries.map fun entry => entry.step.entity) := by
  induction entries with
  | nil => exact List.Sublist.slnil
  | cons entry rest ih =>
      rw [issuesOf, List.filterMap_cons, Entry.issue?]
      cases entry.answer with
      | none => exact ih.cons _
      | some answer => exact ih.cons_cons _

/-- Up to its write an entity of the plan is as at the beginning, so the statement of the write is
rendered for it. -/
theorem renders_of_render (hplanned : Planned schema tracked state plan writes)
    {next : WritePlan.Step × ColumnMap} (hnext : next ∈ writes) {first rendered : Progress}
    (hfirst : first.store.get? next.1.entity = tracked.store.get? next.1.entity)
    {statement : WriteStatement}
    (hrender : first.batch.render first.store dialect next.1 next.2
      = (.ok (some statement), rendered.batch, rendered.store)) :
    ∃ entity, Issue.RendersLinked schema dialect tracked ⟨next.1, next.2, statement⟩ entity := by
  have hstep : next.1 ∈ plan.steps := hplanned.steps ▸ List.mem_map_of_mem hnext
  obtain ⟨entity, hentity⟩ := get_of_planned hplanned hstep
  obtain ⟨filled, values, hget, hstatement, -, hlinked, -⟩ :=
    Batch.render_of_get first.batch dialect next.2 (hfirst.trans hentity)
  obtain ⟨kept, hkept, hpresent⟩ := (Batch.render_fills first.batch first.store dialect next.1
    next.2).get_self (hfirst.trans hentity)
  have hsame : ({ entity with values := values } : Entity) = { entity with values := kept } :=
    Option.some.inj (hget.symm.trans hkept)
  rw [hrender] at hstatement
  exact ⟨entity, {
    dirty := hplanned.perm_dirty.mem_iff.1 (List.mem_map_of_mem hstep)
    get := hentity
    operation := hplanned.operation_of_step hstep hentity
    model := model_of_mem hplanned.models hnext hentity
    statement := ⟨kept, filled, hpresent, hsame ▸ hstatement.symm⟩
    linked := ⟨kept, filled, hpresent, hsame ▸ hstatement.symm, hlinked⟩ }⟩

/-- The statements of a ledger are rendered for the entities of its entries. -/
theorem renders_of_ledger (hplanned : Planned schema tracked state plan writes)
    (hwrites : entries.map Entry.write <+: writes)
    (hledger : Ledger dialect ⟨.empty, tracked.store⟩ entries last)
    (hnodup : (entries.map fun entry => entry.step.entity).Nodup) {issue : Issue}
    (hissue : issue ∈ issuesOf entries) :
    ∃ entity, issue.RendersLinked schema dialect tracked entity := by
  obtain ⟨entry, hentry, hissued⟩ := List.mem_filterMap.1 hissue
  obtain ⟨answer, hanswer, rfl⟩ := Option.map_eq_some_iff.1 hissued
  obtain ⟨rendered, hrender, -⟩ := hledger.valid_of_mem hentry
  obtain ⟨front, back, rfl⟩ := List.append_of_mem hentry
  rw [hanswer] at hrender
  exact renders_of_render hplanned (hwrites.subset (List.mem_map_of_mem hentry))
    (hledger.get_before hnodup) hrender

/-- The first writes of a plan are about different entities. -/
theorem nodup_of_prefix (hplanned : Planned schema tracked state plan writes)
    {front : List (WritePlan.Step × ColumnMap)} (hfront : front <+: writes) :
    (front.map fun write => write.1.entity).Nodup := by
  have hnodup := hplanned.nodup_entities
  rw [← hplanned.steps, List.map_map] at hnodup
  exact hnodup.sublist (hfront.sublist.map _)

/-- The statements of the first writes of a plan, all of which went well. -/
theorem issues_of_ledger (hplanned : Planned schema tracked state plan writes)
    (hwrites : entries.map Entry.write <+: writes)
    (hledger : Ledger dialect ⟨.empty, tracked.store⟩ entries last) :
    ((issuesOf entries).map fun issue => issue.step.entity).Nodup ∧
      ∀ issue ∈ issuesOf entries, ∃ entity, issue.RendersLinked schema dialect tracked entity := by
  have hnodup := nodup_of_prefix hplanned hwrites
  rw [List.map_map] at hnodup
  exact ⟨hnodup.sublist (issues_sublist entries), fun issue hissue =>
    renders_of_ledger hplanned hwrites hledger hnodup hissue⟩

/-- After the first writes of a plan the entity that comes next is as at the beginning. -/
theorem get_next (hplanned : Planned schema tracked state plan writes)
    {next : WritePlan.Step × ColumnMap} (hwrites : entries.map Entry.write ++ [next] <+: writes)
    (hledger : Ledger dialect ⟨.empty, tracked.store⟩ entries last) :
    last.store.get? next.1.entity = tracked.store.get? next.1.entity := by
  have hdistinct := nodup_of_prefix hplanned hwrites
  rw [List.map_append, List.map_map, List.map_singleton] at hdistinct
  exact hledger.get_of_not_mem fun hmem =>
    (List.nodup_append.1 hdistinct).2.2 _ hmem _ List.mem_cons_self rfl

/-- The statements of the first writes of a plan, and one more for the entity that comes next. -/
theorem issues_of_refused (hplanned : Planned schema tracked state plan writes)
    {next : WritePlan.Step × ColumnMap} (hwrites : entries.map Entry.write ++ [next] <+: writes)
    (hledger : Ledger dialect ⟨.empty, tracked.store⟩ entries last) {failed : Progress}
    {statement : WriteStatement}
    (hrender : last.batch.render last.store dialect next.1 next.2
      = (.ok (some statement), failed.batch, failed.store)) :
    ((issuesOf entries ++ [Issue.mk next.1 next.2 statement]).map
        fun issue => issue.step.entity).Nodup ∧
      ∀ issue ∈ issuesOf entries ++ [Issue.mk next.1 next.2 statement],
        ∃ entity, issue.RendersLinked schema dialect tracked entity := by
  obtain ⟨-, hrenders⟩ :=
    issues_of_ledger hplanned ((List.prefix_append _ _).trans hwrites) hledger
  have hdistinct := nodup_of_prefix hplanned hwrites
  rw [List.map_append, List.map_map, List.map_singleton] at hdistinct
  refine ⟨?_, fun issue hissue => ?_⟩
  · rw [List.map_append]
    exact hdistinct.sublist ((issues_sublist entries).append (.refl _))
  · rcases List.mem_append.1 hissue with hissue | hissue
    · exact hrenders issue hissue
    · rw [List.mem_singleton.1 hissue]
      exact renders_of_render hplanned (hwrites.subset (List.mem_append_right _ List.mem_cons_self))
        (get_next hplanned hwrites hledger) hrender

/-- The commands of a submission are those of statements that were rendered for its entities, each
for another one. -/
theorem Submitted.issues {calls : List Exchange} {result : Except PersistError Nat × Tracked}
    (h : Submitted schema dialect options tracked state calls result) :
    ∃ issues : List Issue,
      commandsOf calls = issues.map (fun issue => issue.statement.command dialect) ∧
      (issues.map fun issue => issue.step.entity).Nodup ∧
      ∀ issue ∈ issues, ∃ entity, issue.RendersLinked schema dialect tracked entity := by
  cases h with
  | idle => exact ⟨[], rfl, List.nodup_nil, nofun⟩
  | unprepared => exact ⟨[], rfl, List.nodup_nil, nofun⟩
  | ended _ hprepare hending =>
      obtain ⟨plan, hplanned⟩ := planned_of_prepare hprepare
      cases hending with
      | unopened => exact ⟨[], rfl, List.nodup_nil, nofun⟩
      | committed hledger hwrites =>
          refine ⟨_, ?_, issues_of_ledger hplanned (hwrites ▸ List.prefix_rfl) hledger⟩
          rw [commands_of_transaction _ _ _ rfl, commands_of_executions]
      | uncommitted answer hledger hwrites =>
          refine ⟨_, ?_, issues_of_ledger hplanned (hwrites ▸ List.prefix_rfl) hledger⟩
          rw [commands_of_transaction _ _ _ rfl, commands_of_executions]
      | interrupted answer houtcome =>
          cases houtcome with
          | stopped hledger hwrites hattempt =>
              cases hattempt with
              | unrendered _ hrender =>
                  refine ⟨_, ?_, issues_of_ledger hplanned ⟨_, hwrites⟩ hledger⟩
                  rw [List.append_nil, commands_of_transaction _ _ _ rfl, commands_of_executions]
              | refused _ hrender =>
                  refine ⟨_, ?_, issues_of_refused hplanned
                    ⟨_, (List.append_assoc ..).trans hwrites⟩ hledger hrender⟩
                  rw [commands_of_transaction _ _ _ rfl, List.map_append,
                    ← commands_of_executions]
                  exact List.filterMap_append

/-- An update or a delete is about the row with the keys that its entity holds. A key that held
something at the beginning still does. -/
theorem Issue.Renders.addresses {issue : Issue} {entity : Entity}
    (h : issue.Renders schema dialect tracked entity)
    (hoperation : issue.step.operation ≠ .insert) :
    ∃ keyed, issue.statement.Addresses entity.table keyed ∧
      keyed.map Prod.fst = issue.columns.primaryKeys ∧ issue.columns.primaryKeys ≠ [] ∧
      ∀ column value, (column, value) ∈ keyed → value.isNull = false ∧
        ∀ held, entity.present? column = some held → value = held := by
  obtain ⟨values, filled, hpresent, hstatement⟩ := h.statement
  obtain ⟨keyed, haddresses, hkeys, hsome, hvalues⟩ :=
    WriteStatement.statement_for_addresses hoperation hstatement
  refine ⟨keyed, haddresses, hkeys, hsome, fun column value hmem => ?_⟩
  have hvalue := hvalues column value hmem
  refine ⟨(Entity.present_eq_some_iff.1 hvalue).2, fun held hheld => ?_⟩
  exact Option.some.inj (hvalue.symm.trans (hpresent column held hheld))

/-- Where a schema describes no columns, the model of a table is what its entity holds of it. -/
theorem Issue.Renders.columns_eq {issue : Issue} {entity : Entity}
    (h : issue.Renders schema dialect tracked entity)
    (hempty : ∀ table state, (schema.columns table state).1 = .ok .empty) :
    issue.columns = entity.columns := by
  obtain ⟨asked, found, hfound, hmodel⟩ := h.model
  obtain rfl := Except.ok.inj ((hempty entity.table asked).symm.trans hfound)
  exact hmodel

/-- A row that waits for its delete is deleted. -/
theorem Issue.Renders.step_of_delete {issue : Issue} {entity : Entity}
    (h : issue.Renders schema dialect tracked entity) (hstate : entity.state = .deletePending) :
    issue.step = ⟨.delete, issue.step.entity⟩ := by
  have hoperation := h.operation
  rw [hstate] at hoperation
  exact congrArg (WritePlan.Step.mk · issue.step.entity) (Option.some.inj hoperation).symm

/-- What is updated was modified. -/
theorem Issue.Renders.modified_of_update {issue : Issue} {entity : Entity}
    (h : issue.Renders schema dialect tracked entity) (hupdate : issue.step.operation = .update) :
    ∃ columns, entity.state = .modified columns := by
  have hoperation := h.operation
  rw [hupdate] at hoperation
  cases hstate : entity.state <;> rw [hstate] at hoperation <;> cases hoperation
  exact ⟨_, rfl⟩

/-- The update of an entity assigns the columns outside the key that were edited and those that were
filled. A column that held something at the beginning is assigned that. -/
theorem Issue.RendersLinked.assigns {issue : Issue} {entity : Entity}
    (h : issue.RendersLinked schema dialect tracked entity)
    (hoperation : issue.step.operation = .update) :
    ∃ (assigned : List (String × Value)) (filled : List String),
      issue.statement.Assigns entity.table assigned ∧
      (∀ column ∈ filled, entity.present? column = none ∧
        ∃ link ∈ entity.links, column ∈ link.relationship.foreignKeys) ∧
      (∀ column, column ∈ assigned.map Prod.fst ↔
        (column ∈ entity.state.modifiedColumns ∨ column ∈ filled) ∧
          column ∉ issue.columns.primaryKeys) ∧
      ∀ column value, (column, value) ∈ assigned →
        ∀ held, entity.present? column = some held → value = held := by
  obtain ⟨values, filled, hpresent, hstatement, hlinked⟩ := h.linked
  rw [hoperation] at hstatement
  obtain ⟨assigned, hassigns, hcolumns, hvalues⟩ := WriteStatement.statement_for_assigns hstatement
  refine ⟨assigned, filled, hassigns, hlinked, fun column => ?_,
    fun column value hmem held hheld => ?_⟩
  · rw [hcolumns]
    exact WriteStatement.mem_changed_columns
  · obtain ⟨hfind, -⟩ := Entity.present_eq_some_iff.1 (hpresent column held hheld)
    rw [hvalues column value hmem, hfind, Option.getD_some]

end Orm.Submission
