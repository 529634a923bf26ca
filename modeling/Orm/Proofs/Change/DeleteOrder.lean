import Mathlib.Data.List.Induction
import Orm.Proofs.Change.Issued

/-!
# The order in which rows are deleted

The statements of a submission come in the order of its plan, and an insert or a delete of the plan
is never left out on the way to a later one (`Submitted.issues_as_planned`). So a row that refers to
another one is deleted first (`IssuesAsPlanned.deletes_child_before`): what counts are the values
that both entities hold when the plan is made.
-/

namespace Orm

namespace WritePlan

variable {σ : Type} {schema : SchemaSource σ} {store : EntityStore}

/-! ## Deletes of a plan -/

/-- If the references among some nodes are found, then the relationships of each of them were. -/
theorem mem_relationship_sets_of_ok {nodes ids : List EntityId} {first : Nat} {state after : σ}
    {edges : List (Nat × Nat)}
    (h : keyEdgesFrom schema store nodes first ids state = (.ok edges, after)) {id : EntityId}
    (hid : id ∈ ids) {entity : Entity} (hentity : store.get? id = some entity) :
    ∃ asked set, (schema.relationships entity.table asked).1 = .ok set ∧
      (id, set) ∈ (relationshipSets schema store ids state).1 := by
  induction ids generalizing first state edges with
  | nil => cases hid
  | cons head rest ih =>
      rw [keyEdgesFrom] at h
      rw [relationshipSets]
      cases hknown : store.get? head with
      | none =>
          simp only [hknown] at h
          have hother : id ≠ head := by
            rintro rfl
            cases hknown.symm.trans hentity
          exact ih h (List.mem_of_ne_of_mem hother hid)
      | some known =>
          simp only [hknown, Action.bind_apply] at h ⊢
          cases hanswer : (schema.relationships known.table state).1 with
          | error cause =>
              simp only [hanswer] at h
              cases h
          | ok set =>
              simp only [hanswer, Action.bind_apply, Action.pure_apply] at h ⊢
              obtain ⟨others, hothers, rfl⟩ := Action.map_eq_ok_iff.1 (congrArg Prod.fst h)
              have hlast := congrArg Prod.snd h
              rcases List.mem_cons.1 hid with rfl | hid
              · obtain rfl := Option.some.inj (hknown.symm.trans hentity)
                exact ⟨state, set, hanswer, List.mem_cons_self⟩
              · obtain ⟨asked, found, hfound, hmem⟩ := ih (Prod.ext hothers hlast) hid
                exact ⟨asked, found, hfound, List.mem_cons_of_mem _ hmem⟩

/-- A plan deletes a row before another one that it refers to through a relationship that the schema
has for it. -/
theorem deletes_child_before {ids : List EntityId} (hnodup : ids.Nodup) {state after : σ}
    {plan : WritePlan} (h : build schema store ids state = (.ok plan, after))
    {relationship : Relationship} {child parent : EntityId} (hne : child ≠ parent)
    (hchild : child ∈ plan.deletes) (hparent : parent ∈ plan.deletes)
    (hknown : ∀ entity, store.get? child = some entity → ∀ asked set,
      (schema.relationships entity.table asked).1 = .ok set → relationship ∈ set.parents)
    (hrefers : Refers store relationship child parent) :
    plan.deletes.idxOf child < plan.deletes.idxOf parent := by
  obtain ⟨-, -, -, hdeletes⟩ := arranges_of_build hnodup h
  obtain ⟨-, insertEdges, middle, deleteEdges, hinsertEdges, hdeleteEdges, -⟩ := build_ok h
  have hchild := hdeletes.perm.mem_iff.1 hchild
  obtain ⟨-, entity, hentity, -⟩ := mem_in_state.1 hchild
  obtain rfl := (key_edges_from_ok (nodup_in_state store hnodup needsInsert) hinsertEdges).1
  obtain ⟨asked, set, hset, hfound⟩ := mem_relationship_sets_of_ok hdeleteEdges hchild hentity
  exact hdeletes.earlier child hchild parent (hdeletes.perm.mem_iff.1 hparent)
    ⟨hne, set, hfound, relationship, hknown entity hentity asked set hset, hrefers⟩

/-- What a plan deletes before an entity stands before it among all writes of the plan. -/
theorem mem_before_of_idx_of_lt {plan : WritePlan}
    (hnodup : (plan.steps.map Step.entity).Nodup) {first second : EntityId}
    (hless : plan.deletes.idxOf first < plan.deletes.idxOf second) {before after : List Step}
    (hsteps : plan.steps = before ++ ⟨.delete, second⟩ :: after) :
    ⟨.delete, first⟩ ∈ before := by
  have hsecond : second ∈ plan.deletes := by
    have hmem : (⟨.delete, second⟩ : Step) ∈ plan.steps := by simp [hsteps]
    simpa [steps] using hmem
  obtain ⟨front, back, hdeletes, hfresh⟩ := List.eq_append_cons_of_mem hsecond
  have hfront : first ∈ front := by
    by_contra hlater
    rw [hdeletes, List.idxOf_append_of_notMem hlater, List.idxOf_append_of_notMem hfresh,
      List.idxOf_cons_self] at hless
    omega
  have hsplit : plan.steps = (plan.inserts.map (Step.mk .insert) ++
      plan.updates.map (Step.mk .update) ++ front.map (Step.mk .delete)) ++
        ⟨.delete, second⟩ :: back.map (Step.mk .delete) := by
    simp [steps, hdeletes]
  -- A step stands at one place only, so both ways to split the plan there are the same.
  have hdistinct := List.Nodup.of_map _ hnodup
  rw [hsteps, List.nodup_middle] at hdistinct
  obtain ⟨hunique, hlater⟩ := not_or.1 (mt List.mem_append.2 hdistinct.notMem)
  obtain ⟨rfl, -⟩ :=
    (List.append_cons_inj_of_notMem hunique hlater).1 (hsteps.symm.trans hsplit)
  exact List.mem_append_right _ (List.mem_map_of_mem hfront)

end WritePlan

namespace Submission

variable {σ : Type} {schema : SchemaSource σ} {dialect : Dialect} {options : TransactionOptions}
  {tracked : Tracked} {state : σ} {plan : WritePlan}
  {writes : List (WritePlan.Step × ColumnMap)} {entries : List Entry} {last : Progress}

/-! ## Statements in the order of a plan -/

/-- Statements come in the order of some steps. Of the steps before one of them only updates can
have no statement. -/
def InOrder (steps : List WritePlan.Step) (issues : List Issue) : Prop :=
  ∀ front issue back, issues = front ++ issue :: back →
    ∃ before after, steps = before ++ issue.step :: after ∧
      ∀ step ∈ before, step.operation ≠ .update → ∃ earlier ∈ front, earlier.step = step

/-- More steps may follow. -/
theorem InOrder.append {steps : List WritePlan.Step} {issues : List Issue}
    (h : InOrder steps issues) (more : List WritePlan.Step) : InOrder (steps ++ more) issues := by
  intro front issue back hissues
  obtain ⟨before, after, rfl, hearlier⟩ := h front issue back hissues
  exact ⟨before, after ++ more, by simp, hearlier⟩

/-- One more statement may follow for the next step if only updates were left out before. -/
theorem InOrder.concat {steps : List WritePlan.Step} {issues : List Issue}
    (h : InOrder steps issues)
    (hissued : ∀ step ∈ steps, step.operation ≠ .update → ∃ earlier ∈ issues, earlier.step = step)
    (issue : Issue) : InOrder (steps ++ [issue.step]) (issues ++ [issue]) := by
  intro front found back hissues
  rcases List.eq_nil_or_concat back with rfl | ⟨between, final, rfl⟩
  · obtain ⟨rfl, hsame⟩ := List.append_inj' hissues rfl
    obtain rfl := List.singleton_inj.1 hsame
    exact ⟨steps, [], rfl, hissued⟩
  · rw [List.concat_eq_append, ← List.cons_append, ← List.append_assoc] at hissues
    obtain ⟨rfl, -⟩ := List.append_inj' hissues rfl
    exact h.append [issue.step] front found between rfl

/-- Each entry of some entries that is no update has a statement. -/
theorem exists_issue_of_entry
    (hanswered : ∀ entry ∈ entries, entry.step.operation ≠ .update → entry.answer ≠ none)
    {step : WritePlan.Step} (hstep : step ∈ entries.map Entry.step)
    (hoperation : step.operation ≠ .update) : ∃ issue ∈ issuesOf entries, issue.step = step := by
  obtain ⟨entry, hentry, rfl⟩ := List.mem_map.1 hstep
  obtain ⟨answer, hanswer⟩ := Option.ne_none_iff_exists'.1 (hanswered entry hentry hoperation)
  refine ⟨⟨entry.step, entry.columns, answer.1⟩, List.mem_filterMap.2 ⟨entry, hentry, ?_⟩, rfl⟩
  rw [Entry.issue?, hanswer, Option.map_some]

/-- The statements of some entries come in the order of their steps. -/
theorem in_order_issues_of
    (hanswered : ∀ entry ∈ entries, entry.step.operation ≠ .update → entry.answer ≠ none) :
    InOrder (entries.map Entry.step) (issuesOf entries) := by
  induction entries using List.reverseRecOn with
  | nil =>
      intro front issue back hissues
      simp [issuesOf] at hissues
  | append_singleton rest entry ih =>
      have hrest : ∀ entry ∈ rest, entry.step.operation ≠ .update → entry.answer ≠ none :=
        fun other hother => hanswered other (List.mem_append_left _ hother)
      have hsplit : issuesOf (rest ++ [entry]) = issuesOf rest ++ issuesOf [entry] :=
        List.filterMap_append
      rw [List.map_append, List.map_singleton, hsplit]
      cases hanswer : entry.answer with
      | none =>
          have hsilent : issuesOf [entry] = [] := by simp [issuesOf, Entry.issue?, hanswer]
          rw [hsilent, List.append_nil]
          exact (ih hrest).append [entry.step]
      | some answer =>
          have hissue : issuesOf [entry] = [⟨entry.step, entry.columns, answer.1⟩] := by
            simp [issuesOf, Entry.issue?, hanswer]
          rw [hissue]
          exact (ih hrest).concat (fun step hstep => exists_issue_of_entry hrest hstep)
            ⟨entry.step, entry.columns, answer.1⟩

/-- Only an update that stores nothing has no answer. -/
theorem answered_of_ledger (hplanned : Planned schema tracked state plan writes)
    (hwrites : entries.map Entry.write <+: writes)
    (hledger : Ledger dialect ⟨.empty, tracked.store⟩ entries last) :
    ∀ entry ∈ entries, entry.step.operation ≠ .update → entry.answer ≠ none := by
  intro entry hentry hoperation hnone
  have hnodup := nodup_of_prefix hplanned hwrites
  rw [List.map_map] at hnodup
  have hwrite := hwrites.subset (List.mem_map_of_mem hentry)
  have hstep : entry.step ∈ plan.steps :=
    hplanned.steps ▸ List.mem_map_of_mem (f := Prod.fst) hwrite
  obtain ⟨entity, hentity⟩ := get_of_planned hplanned hstep
  obtain ⟨rendered, hrender, -⟩ := hledger.valid_of_mem hentry
  obtain ⟨front, back, rfl⟩ := List.append_of_mem hentry
  obtain ⟨filled, values, -, hstatement, -⟩ := Batch.render_of_get entry.before.batch dialect
    entry.columns ((hledger.get_before hnodup).trans hentity)
  rw [hrender, hnone] at hstatement
  exact hoperation (WriteStatement.statement_for_eq_none_iff.1 hstatement.symm).1

/-- The commands of some calls are those of statements that were rendered for submitted entities,
each for another one. If there are any, they come in the order of a plan. -/
structure IssuesAsPlanned (schema : SchemaSource σ) (dialect : Dialect) (tracked : Tracked)
    (state : σ) (calls : List Exchange) (issues : List Issue) : Prop where
  commands : commandsOf calls = issues.map fun issue => issue.statement.command dialect
  distinct : (issues.map fun issue => issue.step.entity).Nodup
  renders : ∀ issue ∈ issues, ∃ entity, issue.RendersLinked schema dialect tracked entity
  order : issues ≠ [] → ∃ plan writes, Planned schema tracked state plan writes ∧
    InOrder plan.steps issues

/-- Without commands there are no statements. -/
theorem issues_as_planned_nil {calls : List Exchange} (h : commandsOf calls = []) :
    IssuesAsPlanned schema dialect tracked state calls [] :=
  ⟨h, List.nodup_nil, nofun, fun hsome => absurd rfl hsome⟩

/-- The statements of the first writes of a plan, all of which went well. -/
theorem issues_as_planned_of_ledger (hplanned : Planned schema tracked state plan writes)
    (hwrites : entries.map Entry.write <+: writes)
    (hledger : Ledger dialect ⟨.empty, tracked.store⟩ entries last) {calls : List Exchange}
    (hcalls : commandsOf calls = commandsOf (executions dialect entries)) :
    IssuesAsPlanned schema dialect tracked state calls (issuesOf entries) := by
  obtain ⟨hdistinct, hrenders⟩ := issues_of_ledger hplanned hwrites hledger
  refine ⟨hcalls.trans (commands_of_executions dialect entries), hdistinct, hrenders,
    fun _ => ⟨plan, writes, hplanned, ?_⟩⟩
  have hanswered := answered_of_ledger hplanned hwrites hledger
  obtain ⟨later, rfl⟩ := hwrites
  have hsteps := hplanned.steps
  rw [List.map_append, List.map_map] at hsteps
  rw [← hsteps]
  exact (in_order_issues_of hanswered).append _

/-- The statements of the first writes of a plan, and one more for the write that comes next. -/
theorem issues_as_planned_of_refused (hplanned : Planned schema tracked state plan writes)
    {next : WritePlan.Step × ColumnMap} (hwrites : entries.map Entry.write ++ [next] <+: writes)
    (hledger : Ledger dialect ⟨.empty, tracked.store⟩ entries last) {failed : Progress}
    {statement : WriteStatement}
    (hrender : last.batch.render last.store dialect next.1 next.2
      = (.ok (some statement), failed.batch, failed.store)) {calls : List Exchange}
    (hcalls : commandsOf calls
      = commandsOf (executions dialect entries) ++ [statement.command dialect]) :
    IssuesAsPlanned schema dialect tracked state calls
      (issuesOf entries ++ [⟨next.1, next.2, statement⟩]) := by
  obtain ⟨hdistinct, hrenders⟩ := issues_of_refused hplanned hwrites hledger hrender
  refine ⟨?_, hdistinct, hrenders, fun _ => ⟨plan, writes, hplanned, ?_⟩⟩
  · rw [hcalls, commands_of_executions, List.map_append, List.map_singleton]
  · have hanswered :=
      answered_of_ledger hplanned ((List.prefix_append _ _).trans hwrites) hledger
    obtain ⟨later, rfl⟩ := hwrites
    have hsteps := hplanned.steps
    rw [List.map_append, List.map_append, List.map_map, List.map_singleton] at hsteps
    rw [← hsteps]
    have horder := (in_order_issues_of hanswered).concat
      (fun step hstep => exists_issue_of_entry hanswered hstep) ⟨next.1, next.2, statement⟩
    exact horder.append _

/-- The statements of a submission come in the order of its plan. -/
theorem Submitted.issues_as_planned {calls : List Exchange}
    {result : Except PersistError Nat × Tracked}
    (h : Submitted schema dialect options tracked state calls result) :
    ∃ issues, IssuesAsPlanned schema dialect tracked state calls issues := by
  cases h with
  | idle => exact ⟨[], issues_as_planned_nil rfl⟩
  | unprepared => exact ⟨[], issues_as_planned_nil rfl⟩
  | ended _ hprepare hending =>
      obtain ⟨plan, hplanned⟩ := planned_of_prepare hprepare
      cases hending with
      | unopened => exact ⟨[], issues_as_planned_nil rfl⟩
      | committed hledger hwrites =>
          exact ⟨_, issues_as_planned_of_ledger hplanned (hwrites ▸ List.prefix_rfl) hledger
            (commands_of_transaction _ _ _ rfl)⟩
      | uncommitted answer hledger hwrites =>
          exact ⟨_, issues_as_planned_of_ledger hplanned (hwrites ▸ List.prefix_rfl) hledger
            (commands_of_transaction _ _ _ rfl)⟩
      | interrupted answer houtcome =>
          cases houtcome with
          | stopped hledger hwrites hattempt =>
              cases hattempt with
              | unrendered _ hrender =>
                  refine ⟨_, issues_as_planned_of_ledger hplanned ⟨_, hwrites⟩ hledger ?_⟩
                  rw [List.append_nil, commands_of_transaction _ _ _ rfl]
              | refused _ hrender =>
                  refine ⟨_, issues_as_planned_of_refused hplanned
                    ⟨_, (List.append_assoc ..).trans hwrites⟩ hledger hrender ?_⟩
                  rw [commands_of_transaction _ _ _ rfl]
                  exact List.filterMap_append

/-- If a submitted row refers to another one through a relationship that the schema has for it, and
both are to be deleted, then the statement that deletes the row it refers to is not issued before
the one that deletes the row itself. -/
theorem IssuesAsPlanned.deletes_child_before {calls : List Exchange} {issues : List Issue}
    (h : IssuesAsPlanned schema dialect tracked state calls issues) {relationship : Relationship}
    {child parent : EntityId} (hne : child ≠ parent) {entity : Entity}
    (hdirty : child ∈ tracked.pending.dirty tracked.store)
    (hentity : tracked.store.get? child = some entity) (hstate : entity.state = .deletePending)
    (hknown : ∀ asked set, (schema.relationships entity.table asked).1 = .ok set →
      relationship ∈ set.parents)
    (hrefers : WritePlan.Refers tracked.store relationship child parent)
    {front back : List Issue} {issue : Issue} (hissues : issues = front ++ issue :: back)
    (hissue : issue.step = ⟨.delete, parent⟩) :
    ∃ earlier ∈ front, earlier.step = ⟨.delete, child⟩ := by
  obtain ⟨plan, writes, hplanned, horder⟩ := h.order (by rw [hissues]; simp)
  obtain ⟨before, after, hsteps, hearlier⟩ := horder front issue back hissues
  rw [hissue] at hsteps
  have hparent : parent ∈ plan.deletes := by
    have hmem : (⟨.delete, parent⟩ : WritePlan.Step) ∈ plan.steps := by simp [hsteps]
    simpa [WritePlan.steps] using hmem
  have hbuild : WritePlan.build schema tracked.store (tracked.pending.dirty tracked.store) state
      = (.ok plan, _) := Prod.ext hplanned.build rfl
  have hnodup := tracked.pending.nodup_dirty tracked.store
  obtain ⟨-, -, -, hdeletes⟩ := WritePlan.arranges_of_build hnodup hbuild
  have hchild : child ∈ plan.deletes := hdeletes.perm.mem_iff.2
    (WritePlan.mem_in_state.2 ⟨hdirty, entity, hentity, by rw [hstate]; rfl⟩)
  have hless := WritePlan.deletes_child_before hnodup hbuild hne hchild hparent
    (fun other hother => Option.some.inj (hentity.symm.trans hother) ▸ hknown) hrefers
  have hoperation : WriteOperation.delete ≠ .update := by decide
  exact hearlier ⟨.delete, child⟩
    (WritePlan.mem_before_of_idx_of_lt hplanned.nodup_entities hless hsteps) hoperation

end Submission

end Orm
