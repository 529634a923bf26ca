import Orm.Proofs.Change.Planned

/-!
# A submission is one transaction

The database sees a submission as a whole: `apply_pending_one_transaction` says which calls are made
in which order, and what becomes of the entities if all of them are answered well. What the commit
makes of an entity is `get_finish_of_mem`.
-/

namespace Orm

namespace Batch

/-! ## What a commit settles -/

/-- The first write is settled before the other ones. -/
theorem finish_cons (head : WritePlan.Step) (rest : List WritePlan.Step)
    (filled : List (EntityId × String)) (tracked : Tracked) :
    finish ⟨head :: rest, filled⟩ tracked
      = finish ⟨rest, filled⟩ ⟨tracked.store.modify head.entity (settled head.operation),
          tracked.pending.remove head.entity⟩ := rfl

/-- An entity without a write stays as it is. -/
theorem get_finish_of_not_mem {batch : Batch} {id : EntityId}
    (hid : id ∉ batch.written.map WritePlan.Step.entity) (tracked : Tracked) :
    (batch.finish tracked).store.get? id = tracked.store.get? id := by
  obtain ⟨written, filled⟩ := batch
  induction written generalizing tracked with
  | nil => rfl
  | cons head rest ih =>
      obtain ⟨hne, hid⟩ := not_or.1 (mt List.mem_cons.2 hid)
      rw [finish_cons, ih _ hid, EntityStore.get_modify_of_ne _ (Ne.symm hne)]

/-- An entity with one write is settled by it. -/
theorem get_finish_of_mem {batch : Batch} (hnodup : (batch.written.map WritePlan.Step.entity).Nodup)
    {step : WritePlan.Step} (hstep : step ∈ batch.written) (tracked : Tracked) :
    (batch.finish tracked).store.get? step.entity
      = (tracked.store.get? step.entity).map (settled step.operation) := by
  obtain ⟨written, filled⟩ := batch
  induction written generalizing tracked with
  | nil => exact absurd hstep List.not_mem_nil
  | cons head rest ih =>
      obtain ⟨hfresh, hrest⟩ := List.nodup_cons.1 hnodup
      rw [finish_cons]
      rcases List.mem_cons.1 hstep with rfl | hstep
      · rw [get_finish_of_not_mem hfresh, EntityStore.get_modify_self]
      · have hne : head.entity ≠ step.entity := fun hsame =>
          hfresh (hsame ▸ List.mem_map_of_mem hstep)
        rw [ih _ hrest hstep, EntityStore.get_modify_of_ne _ hne]

/-- What is present before a commit is settled is what is present afterwards. -/
theorem present_finish (batch : Batch) (tracked : Tracked) (id : EntityId) (column : String) :
    (batch.finish tracked).store.present? id column = tracked.store.present? id column := by
  obtain ⟨written, filled⟩ := batch
  induction written generalizing tracked with
  | nil => rfl
  | cons head rest ih =>
      rw [finish_cons, ih, EntityStore.present?, EntityStore.present?, EntityStore.get_modify]
      split
      · next hsame =>
        rw [hsame]
        cases tracked.store.get? id with
        | none => rfl
        | some entity => cases head.operation <;> rfl
      · rfl

/-- The entities that were written do not wait any more, the other ones still do. -/
theorem pending_finish (batch : Batch) (tracked : Tracked) :
    (batch.finish tracked).pending.ids
      = tracked.pending.ids.filter (· ∉ batch.written.map WritePlan.Step.entity) := by
  obtain ⟨written, filled⟩ := batch
  induction written generalizing tracked with
  | nil => exact (List.filter_eq_self.2 fun id _ => rfl).symm
  | cons head rest ih =>
      rw [finish_cons, ih, PendingSet.remove, List.filter_filter]
      refine List.filter_congr fun id _ => ?_
      by_cases hsame : id = head.entity <;> simp [hsame]

end Batch

namespace Submission

variable {σ : Type}

/-! ## What becomes of a submission -/

/-- A committed submission: the database saw the start of the transaction, the statements of the
plan in order and the commit, and every written entity is settled as its write left it. -/
structure Committed (schema : SchemaSource σ) (dialect : Dialect) (options : TransactionOptions)
    (tracked : Tracked) (state : σ) (calls : List Exchange) (count : Nat) (after : Tracked)
    (plan : WritePlan) (entries : List Entry) : Prop where
  planned : Planned schema tracked state plan (entries.map Entry.write)
  ledger : ∃ last, Ledger dialect ⟨.empty, tracked.store⟩ entries last
  calls_eq : calls
    = ⟨.start options, .ok none⟩ :: executions dialect entries ++ [⟨.commit, .ok none⟩]
  answer_eq_none_iff : ∀ entry ∈ entries, entry.answer = none ↔ entry.NothingToWrite
  perm_dirty : (plan.inserts ++ plan.updates ++ plan.deletes).Perm
    (tracked.pending.dirty tracked.store)
  count_eq : count = (tracked.pending.dirty tracked.store).length
  settled : ∀ entry ∈ entries, after.store.get? entry.step.entity
    = (entry.after.store.get? entry.step.entity).map (Batch.settled entry.step.operation)
  accepted : ∀ id ∈ plan.inserts ++ plan.updates, ∃ entity, after.store.get? id = some entity ∧
    entity.state = .unchanged ∧ entity.links = []
  deleted : ∀ id ∈ plan.deletes, ∃ entity, after.store.get? id = some entity ∧
    entity.state = .deleted
  pending_eq : after.pending.ids
    = tracked.pending.ids.filter (· ∉ tracked.pending.dirty tracked.store)
  others : ∀ id ∉ tracked.pending.dirty tracked.store,
    after.store.get? id = tracked.store.get? id

/-- A submission that was rolled back: the database saw the start of the transaction, the statements
of the first writes of the plan, what failed, and one rollback. What failed is the next write, which
has no statement or whose statement was refused, or the commit after the last write. -/
structure RolledBack (schema : SchemaSource σ) (dialect : Dialect) (options : TransactionOptions)
    (tracked : Tracked) (state : σ) (calls : List Exchange) (error : PersistError)
    (plan : WritePlan) (entries : List Entry) (rest : List (WritePlan.Step × ColumnMap))
    (failed : Progress) : Prop where
  planned : Planned schema tracked state plan (entries.map Entry.write ++ rest)
  ended : ∃ last failing answer, Ledger dialect ⟨.empty, tracked.store⟩ entries last ∧
    calls = ⟨.start options, .ok none⟩ :: executions dialect entries ++ failing ++
      [⟨.rollback, answer⟩] ∧
    ((∃ next later, rest = next :: later ∧
        Attempt dialect next last failing (.error error, failed)) ∨
      rest = [] ∧ failed = last ∧
        ∃ cause, error = .transaction cause ∧ failing = [⟨.commit, .error cause⟩])

/-- How far a submission came that failed: it wrote nothing and no transaction was opened, or what
it wrote was rolled back. -/
def FailedAt (schema : SchemaSource σ) (dialect : Dialect) (options : TransactionOptions)
    (tracked : Tracked) (state : σ) (calls : List Exchange) (error : PersistError)
    (failed : Progress) : Prop :=
  (calls = [] ∨ ∃ cause, calls = [⟨.start options, .error cause⟩]) ∧
      failed = ⟨.empty, tracked.store⟩ ∨
    ∃ plan entries rest,
      RolledBack schema dialect options tracked state calls error plan entries rest failed

variable {schema : SchemaSource σ} {dialect : Dialect} {tracked : Tracked} {state : σ}
  {plan : WritePlan} {entries : List Entry} {last : Progress}

/-- The books of a ledger note the steps of its plan. -/
theorem written_of_planned (hplanned : Planned schema tracked state plan (entries.map Entry.write))
    (hledger : Ledger dialect ⟨.empty, tracked.store⟩ entries last) :
    last.batch.written = plan.steps := by
  rw [hledger.written_eq, ← hplanned.steps, List.map_map]
  rfl

/-- Every dirty entity has one entry. -/
theorem nodup_of_planned (hplanned : Planned schema tracked state plan (entries.map Entry.write)) :
    (entries.map fun entry => entry.step.entity).Nodup := by
  have hnodup := hplanned.nodup_entities
  rwa [← hplanned.steps, List.map_map, List.map_map] at hnodup

/-- The write of an entry is a step of its plan. -/
theorem step_of_entry (hplanned : Planned schema tracked state plan (entries.map Entry.write))
    {entry : Entry} (hentry : entry ∈ entries) : entry.step ∈ plan.steps := by
  rw [← hplanned.steps, List.map_map]
  exact List.mem_map_of_mem hentry

/-- The entity of an entry is dirty. -/
theorem dirty_of_entry (hplanned : Planned schema tracked state plan (entries.map Entry.write))
    {entry : Entry} (hentry : entry ∈ entries) :
    entry.step.entity ∈ tracked.pending.dirty tracked.store :=
  hplanned.perm_dirty.mem_iff.1 (List.mem_map_of_mem (step_of_entry hplanned hentry))

/-- The entity of a planned step exists. -/
theorem get_of_planned {writes : List (WritePlan.Step × ColumnMap)}
    (hplanned : Planned schema tracked state plan writes) {step : WritePlan.Step}
    (hstep : step ∈ plan.steps) : ∃ entity, tracked.store.get? step.entity = some entity := by
  have hdirty := hplanned.perm_dirty.mem_iff.1 (List.mem_map_of_mem hstep)
  obtain ⟨-, entity, hentity, -⟩ := PendingSet.mem_dirty_iff.1 hdirty
  exact ⟨entity, hentity⟩

/-- Up to its write the entity of an entry is as it was at the beginning. -/
theorem get_before_of_entry
    (hplanned : Planned schema tracked state plan (entries.map Entry.write))
    (hledger : Ledger dialect ⟨.empty, tracked.store⟩ entries last) {entry : Entry}
    (hentry : entry ∈ entries) :
    entry.before.store.get? entry.step.entity = tracked.store.get? entry.step.entity := by
  have hnodup := nodup_of_planned hplanned
  obtain ⟨front, back, rfl⟩ := List.append_of_mem hentry
  exact hledger.get_before hnodup

/-- The entity of an entry is settled as its write left it. -/
theorem get_finish_of_entry
    (hplanned : Planned schema tracked state plan (entries.map Entry.write))
    (hledger : Ledger dialect ⟨.empty, tracked.store⟩ entries last) {entry : Entry}
    (hentry : entry ∈ entries) :
    (last.batch.finish ⟨last.store, tracked.pending⟩).store.get? entry.step.entity
      = (entry.after.store.get? entry.step.entity).map (Batch.settled entry.step.operation) := by
  have hwritten := written_of_planned hplanned hledger
  rw [Batch.get_finish_of_mem (hwritten ▸ hplanned.nodup_entities)
    (hwritten ▸ step_of_entry hplanned hentry),
    hledger.get_after (nodup_of_planned hplanned) hentry]

/-- Columns of an entity are filled at its own write only. -/
theorem filled_at_entry
    (hplanned : Planned schema tracked state plan (entries.map Entry.write))
    (hledger : Ledger dialect ⟨.empty, tracked.store⟩ entries last) {entry : Entry}
    (hentry : entry ∈ entries) (column : String) :
    (entry.step.entity, column) ∉ entry.before.batch.filled ∧
      ((entry.step.entity, column) ∈ last.batch.filled →
        (entry.step.entity, column) ∈ entry.after.batch.filled) := by
  have hnodup := nodup_of_planned hplanned
  obtain ⟨front, back, rfl⟩ := List.append_of_mem hentry
  obtain ⟨middle, hfront, hback⟩ := hledger.split
  obtain ⟨rfl, -, hrest⟩ := Ledger.cons_iff.1 hback
  rw [List.map_append, List.map_cons] at hnodup
  obtain ⟨-, hlater, hearlier⟩ := List.nodup_append.1 hnodup
  constructor
  · intro hmem
    rcases hfront.mem_filled hmem with hmem | hnone
    · exact hearlier _ hmem _ List.mem_cons_self rfl
    · exact absurd hnone List.not_mem_nil
  · exact fun hmem => (hrest.mem_filled hmem).resolve_left (List.nodup_cons.1 hlater).1

/-- Among planned writes there is no answer exactly where there is nothing to write. -/
theorem answer_eq_none_iff_of_planned
    (hplanned : Planned schema tracked state plan (entries.map Entry.write))
    (hledger : Ledger dialect ⟨.empty, tracked.store⟩ entries last) {entry : Entry}
    (hentry : entry ∈ entries) : entry.answer = none ↔ entry.NothingToWrite := by
  obtain ⟨entity, hentity⟩ := get_of_planned hplanned (step_of_entry hplanned hentry)
  exact (hledger.valid_of_mem hentry).answer_eq_none_iff
    ((get_before_of_entry hplanned hledger hentry).trans hentity)
    fun column => (filled_at_entry hplanned hledger hentry column).1

/-- The entity of a planned step is settled once all is written and committed; before that, columns
of it were filled. -/
theorem get_finish_of_planned
    (hplanned : Planned schema tracked state plan (entries.map Entry.write))
    (hledger : Ledger dialect ⟨.empty, tracked.store⟩ entries last) {step : WritePlan.Step}
    (hstep : step ∈ plan.steps) :
    ∃ old new, tracked.store.get? step.entity = some old ∧
      Batch.KeptBut last.batch.filled step.entity old new ∧
      (last.batch.finish ⟨last.store, tracked.pending⟩).store.get? step.entity
        = some (Batch.settled step.operation new) := by
  have hwritten := written_of_planned hplanned hledger
  obtain ⟨old, hold⟩ := get_of_planned hplanned hstep
  obtain ⟨new, hnew, hkept⟩ := (hledger.filled_from (Batch.filled_from_empty _)).kept _ old hold
  refine ⟨old, new, hold, hkept, ?_⟩
  rw [Batch.get_finish_of_mem (hwritten ▸ hplanned.nodup_entities) (hwritten ▸ hstep), hnew,
    Option.map_some]

/-- What is written and committed is settled. -/
theorem committed_of_ledger {options : TransactionOptions}
    (hplanned : Planned schema tracked state plan (entries.map Entry.write))
    (hledger : Ledger dialect ⟨.empty, tracked.store⟩ entries last) :
    Committed schema dialect options tracked state
      (⟨.start options, .ok none⟩ :: executions dialect entries ++ [⟨.commit, .ok none⟩])
      last.batch.written.length (last.batch.finish ⟨last.store, tracked.pending⟩) plan entries := by
  have hwritten := written_of_planned hplanned hledger
  have hperm := hplanned.perm_dirty
  refine ⟨hplanned, ⟨last, hledger⟩, rfl,
    fun entry hentry => answer_eq_none_iff_of_planned hplanned hledger hentry,
    entities_of_steps plan ▸ hperm, ?_,
    fun entry hentry => get_finish_of_entry hplanned hledger hentry, fun id hid => ?_,
    fun id hid => ?_, ?_, fun id hid => ?_⟩
  · rw [hwritten, ← hperm.length_eq, List.length_map]
  · have hstep : (⟨.insert, id⟩ : WritePlan.Step) ∈ plan.steps ∨
        (⟨.update, id⟩ : WritePlan.Step) ∈ plan.steps := by
      simpa [WritePlan.steps] using hid
    rcases hstep with hstep | hstep
    · obtain ⟨-, entity, -, -, hentity⟩ := get_finish_of_planned hplanned hledger hstep
      exact ⟨entity.accepted, hentity, rfl, rfl⟩
    · obtain ⟨-, entity, -, -, hentity⟩ := get_finish_of_planned hplanned hledger hstep
      exact ⟨entity.accepted, hentity, rfl, rfl⟩
  · have hstep : (⟨.delete, id⟩ : WritePlan.Step) ∈ plan.steps := by
      simpa [WritePlan.steps] using hid
    obtain ⟨-, entity, -, -, hentity⟩ := get_finish_of_planned hplanned hledger hstep
    exact ⟨entity.markedDeleted, hentity, rfl⟩
  · rw [Batch.pending_finish, hwritten]
    exact List.filter_congr fun id _ => decide_eq_decide.2 (not_congr hperm.mem_iff)
  · -- Neither a write nor the commit is about an entity that is not dirty.
    have hnone : id ∉ plan.steps.map WritePlan.Step.entity := fun hmem =>
      hid (hperm.mem_iff.1 hmem)
    rw [Batch.get_finish_of_not_mem (hwritten ▸ hnone)]
    refine hledger.get_of_not_mem fun hmem => hnone ?_
    rw [← hplanned.steps, List.map_map, List.map_map]
    exact hmem

variable {options : TransactionOptions} {calls : List Exchange}
  {result : Except PersistError Nat × Tracked}

/-- A submission that succeeds with something to write is committed: its ledger is finished. -/
theorem Submitted.finished (h : Submitted schema dialect options tracked state calls result)
    (hdirty : tracked.pending.dirty tracked.store ≠ []) {count : Nat}
    (hcount : result.1 = .ok count) :
    ∃ plan entries last,
      Committed schema dialect options tracked state calls count result.2 plan entries ∧
      Ledger dialect ⟨.empty, tracked.store⟩ entries last ∧
      result.2 = last.batch.finish ⟨last.store, tracked.pending⟩ := by
  cases h with
  | idle hidle => exact absurd hidle hdirty
  | unprepared => cases hcount
  | ended _ hprepare hending =>
      cases hending with
      | committed hledger hwrites =>
          obtain ⟨plan, hplanned⟩ := planned_of_prepare hprepare
          cases hcount
          exact ⟨plan, _, _, committed_of_ledger (hwrites ▸ hplanned) hledger, hledger, rfl⟩
      | unopened => cases hcount
      | interrupted => cases hcount
      | uncommitted => cases hcount

/-- A submission that succeeds with something to write is committed. -/
theorem Submitted.committed (h : Submitted schema dialect options tracked state calls result)
    (hdirty : tracked.pending.dirty tracked.store ≠ []) {count : Nat}
    (hcount : result.1 = .ok count) :
    ∃ plan entries,
      Committed schema dialect options tracked state calls count result.2 plan entries := by
  obtain ⟨plan, entries, -, hcommitted, -⟩ := h.finished hdirty hcount
  exact ⟨plan, entries, hcommitted⟩

/-- A submission that fails takes back what it filled up to its failure. -/
theorem Submitted.failed (h : Submitted schema dialect options tracked state calls result)
    {error : PersistError} (herror : result.1 = .error error) :
    ∃ failed, FailedAt schema dialect options tracked state calls error failed ∧
      Batch.FilledFrom tracked.store failed ∧
      result.2 = { tracked with store := failed.batch.revert failed.store } := by
  have hinitial := Batch.filled_from_empty tracked.store
  cases h with
  | idle => cases herror
  | unprepared => exact ⟨_, .inl ⟨.inl rfl, rfl⟩, hinitial, rfl⟩
  | ended _ hprepare hending =>
      obtain ⟨plan, hplanned⟩ := planned_of_prepare hprepare
      cases hending with
      | unopened => exact ⟨_, .inl ⟨.inr ⟨_, rfl⟩, rfl⟩, hinitial, rfl⟩
      | committed => cases herror
      | interrupted answer houtcome =>
          cases herror
          cases houtcome with
          | stopped hledger hwrites hattempt =>
              refine ⟨_, .inr ⟨plan, _, _, hwrites ▸ hplanned, _, _, answer, hledger, ?_,
                .inl ⟨_, _, rfl, hattempt⟩⟩, hattempt.filled_from (hledger.filled_from hinitial),
                rfl⟩
              simp only [List.cons_append]
      | uncommitted answer hledger hwrites =>
          cases herror
          refine ⟨_, .inr ⟨plan, _, [], ?_, _, _, answer, hledger, ?_,
            .inr ⟨rfl, rfl, _, rfl, rfl⟩⟩, hledger.filled_from hinitial, rfl⟩
          · rw [List.append_nil, hwrites]
            exact hplanned
          · simp only [List.cons_append, List.append_assoc, List.nil_append]

/-- A submission of any entities through any connection, which is the same if its calls are noted.
Without dirty entities it makes no call. If it succeeds otherwise, all is written in one transaction
that is committed. If it fails, no transaction was opened, or all of it was rolled back. -/
theorem apply_pending_one_transaction (schema : SchemaSource σ) (connection : Connection σ)
    (dialect : Dialect) (options : TransactionOptions) (tracked : Tracked) (state : σ) :
    let dirty := tracked.pending.dirty tracked.store
    let run := applyPending schema connection dialect options tracked state
    let calls := exchanges schema connection dialect options tracked state
    applyPending schema.recorded connection.recorded dialect options tracked ⟨state, []⟩
      = (run.1, ⟨run.2, calls⟩) ∧
    (dirty = [] → run = ((.ok 0, tracked), state) ∧ calls = []) ∧
    (dirty ≠ [] → ∀ count, run.1.1 = .ok count → ∃ plan entries,
      Committed schema dialect options tracked state calls count run.1.2 plan entries) ∧
    ∀ error, run.1.1 = .error error → calls = [] ∨
      (∃ cause, calls = [⟨.start options, .error cause⟩]) ∨ ∃ plan entries rest failed,
        RolledBack schema dialect options tracked state calls error plan entries rest failed := by
  intro dirty run calls
  have hsubmitted : Submitted schema dialect options tracked state calls run.1 :=
    submitted_exchanges schema connection dialect options tracked state
  refine ⟨apply_pending_recorded schema connection dialect options tracked state,
    fun hidle => ?_, fun hdirty count hcount => hsubmitted.committed hdirty hcount,
    fun error herror => ?_⟩
  · have hempty : (tracked.pending.dirty tracked.store).isEmpty = true := List.isEmpty_iff.2 hidle
    constructor
    · simp only [run, applyPending, hempty, if_true]
      rfl
    · simp only [calls, exchanges, applyPending, hempty, if_true]
      rfl
  · obtain ⟨failed, ⟨hunopened | hunopened, -⟩ | ⟨plan, entries, rest, hrolled⟩, -, -⟩ :=
      hsubmitted.failed herror
    · exact .inl hunopened
    · exact .inr (.inl hunopened)
    · exact .inr (.inr ⟨plan, entries, rest, failed, hrolled⟩)

/-- A connection that assigns the key seven to every row and answers a commit as told. -/
def assigningSeven (commit : Except DriverError Unit) : Connection Unit where
  start := fun _ => return .ok ()
  execute := fun _ => return .ok (.scalar (.int 7))
  commit := return commit
  rollback := return .ok ()

/-- A new order and its new customer, both of which wait for their inserts. -/
def orderWithCustomer : Tracked :=
  ⟨WritePlan.orderBeforeCustomer, (PendingSet.empty.mark ⟨0⟩).mark ⟨1⟩⟩

/-- The two inserts of an order and its customer are committed, or rolled back if the commit is
refused. -/
theorem order_committed_or_rolled_back :
    let cause := DriverError.transaction "down"
    (∃ plan entries after,
      Committed WritePlan.unrelated .brackets default orderWithCustomer ()
        (exchanges WritePlan.unrelated (assigningSeven (.ok ())) .brackets default
          orderWithCustomer ()) 2 after plan entries) ∧
    ∃ plan entries rest failed,
      RolledBack WritePlan.unrelated .brackets default orderWithCustomer ()
        (exchanges WritePlan.unrelated (assigningSeven (.error cause)) .brackets default
          orderWithCustomer ()) (.transaction cause) plan entries rest failed := by
  intro cause
  obtain ⟨-, -, hcommitted, -⟩ := apply_pending_one_transaction WritePlan.unrelated
    (assigningSeven (.ok ())) .brackets default orderWithCustomer ()
  obtain ⟨-, -, -, hfailed⟩ := apply_pending_one_transaction WritePlan.unrelated
    (assigningSeven (.error cause)) .brackets default orderWithCustomer ()
  obtain ⟨plan, entries, hentries⟩ := hcommitted (by decide) 2 (by decide)
  have hcalls : (exchanges WritePlan.unrelated (assigningSeven (.error cause)) .brackets default
      orderWithCustomer ()).length = 5 := by decide
  obtain hnone | ⟨refusal, hone⟩ | hrolled := hfailed (.transaction cause) (by decide)
  · simp [hnone] at hcalls
  · simp [hone] at hcalls
  · exact ⟨⟨plan, entries, _, hentries⟩, hrolled⟩

end Submission

end Orm
