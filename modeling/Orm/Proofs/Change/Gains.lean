import Orm.Proofs.Change.Issued
import Orm.Proofs.Change.Retry
import Orm.Proofs.Change.Written

/-!
# The values that a submission gives to entities

No submission changes a value that is present. One that succeeds gives values to two kinds of
columns that held none: the key of a new row, which the database assigned and the insert read back
(`ReadBack`), and the foreign keys of a row that is written, which are those of a parent that it is
linked to (`CopiedKey`). `submission_keeps_values` says so of every entity, whether it is written or
not.
-/

namespace Orm

open Submission

namespace Batch

/-! ## Where filled values come from -/

/-- What is present before something is filled is present afterwards. -/
theorem Fills.present_of_present {id : EntityId} {first second : Progress}
    (h : Fills id first second) {other : EntityId} {column : String} {value : Value}
    (hvalue : first.store.present? other column = some value) :
    second.store.present? other column = some value := by
  by_cases hother : id = other
  · subst hother
    obtain ⟨entity, hentity, hpresent⟩ := Option.bind_eq_some_iff.1 hvalue
    obtain ⟨values, hvalues, hkept⟩ := h.get_self hentity
    rw [EntityStore.present?, hvalues, Option.bind_some]
    exact hkept column value hpresent
  · rw [EntityStore.present?, h.get_of_ne hother]
    exact hvalue

/-- A column that copying the keys of a parent fills holds the key of the parent that it is paired
with. -/
theorem fill_keys_source {id parent : EntityId} {pairs : List (String × String)} {batch : Batch}
    {store : EntityStore} {column : String}
    (h : column ∈ (fillKeys id parent pairs batch store).1) :
    ∃ primary value, (primary, column) ∈ pairs ∧
      (fillKeys id parent pairs batch store).2.2.present? id column = some value ∧
      (fillKeys id parent pairs batch store).2.2.present? parent primary = some value := by
  induction pairs generalizing batch store with
  | nil => cases h
  | cons pair rest ih =>
      obtain ⟨first, foreign⟩ := pair
      cases hfound : (store.get? parent).bind fun entity => entity.values.find? first with
      | none =>
          simp only [fillKeys, hfound] at h ⊢
          obtain ⟨primary, value, hpair, hheld⟩ := ih h
          exact ⟨primary, value, List.mem_cons_of_mem _ hpair, hheld⟩
      | some key =>
          rcases hfill : batch.fill store id foreign key with ⟨filled, taken, entities⟩
          simp only [fillKeys, hfound, hfill] at h ⊢
          by_cases hrest : column ∈ (fillKeys id parent rest taken entities).1
          · obtain ⟨primary, value, hpair, hheld⟩ := ih hrest
            exact ⟨primary, value, List.mem_cons_of_mem _ hpair, hheld⟩
          · -- The column is the one that this pair filled; what follows keeps it.
            have hkept := fill_keys_fills id parent rest taken entities
            have hstored := fill_fills batch store id foreign key
            rcases fill_cases batch store id foreign key with
              ⟨entity, hentity, hvalue, -, hdone⟩ | ⟨hdone, -⟩
            · rw [hdone] at hfill hstored
              cases hfill
              obtain rfl : column = foreign := by
                simpa [hrest] using h
              refine ⟨first, key, List.mem_cons_self, hkept.present_of_present ?_,
                hkept.present_of_present (hstored.present_of_present ?_)⟩
              · rw [EntityStore.present?, EntityStore.get_modify_self, hentity, Option.map_some,
                  Option.bind_some, Entity.present_store _ _ _ hvalue, if_pos rfl]
              · rw [EntityStore.present_eq_filter, hfound]
                exact Option.filter_some_pos (by rw [hvalue]; rfl)
            · rw [hdone] at hfill
              cases hfill
              exact absurd h hrest

/-- A column that copying the keys of all parents fills holds the key of one of the parents that a
link pairs it with. -/
theorem resolve_links_source {id : EntityId} {links : List ParentLink} {batch : Batch}
    {store : EntityStore} {column : String} (h : column ∈ (resolveLinks id links batch store).1) :
    ∃ link ∈ links, ∃ primary value, (primary, column) ∈ link.relationship.keyPairs ∧
      (resolveLinks id links batch store).2.2.present? id column = some value ∧
      (resolveLinks id links batch store).2.2.present? link.parent primary = some value := by
  induction links generalizing batch store with
  | nil => cases h
  | cons link rest ih =>
      rw [resolveLinks] at h ⊢
      rcases List.mem_append.1 h with h | h
      · obtain ⟨primary, value, hpair, hheld, hparent⟩ := fill_keys_source h
        have hkept := resolve_links_fills id rest
          (fillKeys id link.parent link.relationship.keyPairs batch store).2.1
          (fillKeys id link.parent link.relationship.keyPairs batch store).2.2
        exact ⟨link, List.mem_cons_self, primary, value, hpair, hkept.present_of_present hheld,
          hkept.present_of_present hparent⟩
      · obtain ⟨other, hother, hsource⟩ := ih h
        exact ⟨other, List.mem_cons_of_mem _ hother, hsource⟩

/-- A key is read back from the result of a statement that asks for it, for a table with a single
key. -/
theorem identity_of_eq_some {statement : WriteStatement} {columns : ColumnMap}
    {result : CommandResult} {column : String} {value : Value}
    (h : identityOf statement columns result = some (column, value)) :
    statement.readsIdentity = true ∧ columns.primaryKeys = [column] ∧
      ∃ assigned, assignedKey result = some assigned ∧
        value = coercedKey columns column assigned := by
  unfold identityOf at h
  split at h
  · next key hreads hkeys =>
    obtain ⟨assigned, hassigned, hsame⟩ := Option.map_eq_some_iff.1 h
    cases hsame
    exact ⟨hreads, hkeys, assigned, hassigned, rfl⟩
  · cases h

/-- A column that is filled for the rendering of a write is copied from a parent. -/
theorem render_source {batch : Batch} {store : EntityStore} {dialect : Dialect}
    {step : WritePlan.Step} {columns : ColumnMap} {entity : Entity}
    (hentity : store.get? step.entity = some entity) {column : String}
    (hbefore : (step.entity, column) ∉ batch.filled)
    (hafter : (step.entity, column) ∈ (batch.render store dialect step columns).2.1.filled) :
    step.operation ≠ .delete ∧
      ∃ link ∈ entity.links, ∃ primary value, (primary, column) ∈ link.relationship.keyPairs ∧
        (batch.render store dialect step columns).2.2.present? step.entity column = some value ∧
        (batch.render store dialect step columns).2.2.present? link.parent primary
          = some value := by
  by_cases hdelete : step.operation = .delete
  · simp only [render, hentity, if_pos hdelete] at hafter
    exact absurd hafter hbefore
  obtain ⟨filled, values, -, -, hfilled, -, hresolved⟩ :=
    render_of_get batch dialect columns hentity
  have hresolved := (hresolved hdelete).symm
  have hcolumn : column ∈ filled := by
    rcases List.mem_append.1 (hfilled ▸ hafter) with hearlier | hcolumn
    · exact absurd hearlier hbefore
    · simpa using hcolumn
  have hsource := resolve_links_source (show column ∈ (resolveLinks step.entity entity.links batch
    store).1 by rw [hresolved]; exact hcolumn)
  rw [hresolved] at hsource
  exact ⟨hdelete, hsource⟩

/-- A column that is filled when an answer is taken in holds the key that was read back. -/
theorem absorb_source {batch : Batch} {store : EntityStore} {step : WritePlan.Step}
    {columns : ColumnMap} {answer : Option (WriteStatement × CommandResult)} {column : String}
    (hbefore : (step.entity, column) ∉ batch.filled)
    (hafter : (step.entity, column) ∈ (batch.absorb store step columns answer).1.filled) :
    ∃ statement result value, answer = some (statement, result) ∧
      identityOf statement columns result = some (column, value) ∧
      (batch.absorb store step columns answer).2.present? step.entity column = some value := by
  cases answer with
  | none => exact absurd hafter hbefore
  | some answered =>
      obtain ⟨statement, result⟩ := answered
      simp only [absorb, Option.bind_some] at hafter ⊢
      cases hidentity : identityOf statement columns result with
      | none =>
          rw [hidentity] at hafter
          exact absurd hafter hbefore
      | some assigned =>
          obtain ⟨key, value⟩ := assigned
          simp only [hidentity] at hafter
          rcases fill_cases batch store step.entity key value with
            ⟨current, hcurrent, hvalue, -, hfill⟩ | ⟨hfill, -⟩
          · rw [hfill] at hafter
            obtain rfl : column = key := by simpa [hbefore] using hafter
            refine ⟨statement, result, value, rfl, hidentity, ?_⟩
            simp only [hfill]
            rw [EntityStore.present?, EntityStore.get_modify_self, hcurrent, Option.map_some,
              Option.bind_some, Entity.present_store _ _ _ hvalue, if_pos rfl]
          · rw [hfill] at hafter
            exact absurd hafter hbefore

end Batch

/-- Only the insert of an entity reads a key back. -/
theorem WriteStatement.insert_of_reads_identity {dialect : Dialect} {operation : WriteOperation}
    {entity : Entity} {columns : ColumnMap} {filled : List String} {statement : WriteStatement}
    (h : Batch.statementFor dialect operation entity columns filled = .ok (some statement))
    (hreads : statement.readsIdentity = true) : operation = .insert := by
  cases operation with
  | insert => rfl
  | update =>
      simp only [Batch.statementFor, update] at h
      split at h
      · cases h
      · obtain ⟨keyed, -, hupdate⟩ := Action.bind_eq_ok_iff.1 h
        cases hupdate
        cases hreads
  | delete =>
      obtain ⟨deleted, hdelete, hsame⟩ := Action.map_eq_ok_iff.1 h
      obtain ⟨keyed, -, hdelete⟩ := Action.bind_eq_ok_iff.1 hdelete
      cases hsame
      cases hdelete
      cases hreads

namespace Submission

/-! ## One entry -/

/-- The database answered the statement of an entry with a key, which the entry reads back for a
column. -/
def Entry.ReadsBack (entry : Entry) (column : String) (value : Value) : Prop :=
  ∃ statement result assigned, entry.answer = some (statement, result) ∧
    statement.readsIdentity = true ∧ entry.columns.primaryKeys = [column] ∧
    Batch.assignedKey result = some assigned ∧
    value = Batch.coercedKey entry.columns column assigned

/-- The entity of an entry is inserted or updated, and a link pairs a column with a key of a
parent. -/
def Entry.CopiesKey (entry : Entry) (entity : Entity) (column : String) (value : Value) : Prop :=
  entry.step.operation ≠ .delete ∧ ∃ link ∈ entity.links, ∃ primary,
    (primary, column) ∈ link.relationship.keyPairs ∧
    entry.after.store.present? link.parent primary = some value

variable {dialect : Dialect}

/-- A column that a write fills was read back, or copied from a parent. -/
theorem Entry.Valid.gained {entry : Entry} (h : entry.Valid dialect) {entity : Entity}
    (hentity : entry.before.store.get? entry.step.entity = some entity) {column : String}
    (hbefore : (entry.step.entity, column) ∉ entry.before.batch.filled)
    (hafter : (entry.step.entity, column) ∈ entry.after.batch.filled) :
    ∃ value, entry.after.store.present? entry.step.entity column = some value ∧
      (entry.ReadsBack column value ∨ entry.CopiesKey entity column value) := by
  obtain ⟨rendered, hrender, habsorb⟩ := h
  by_cases hlinked : (entry.step.entity, column) ∈ rendered.batch.filled
  · -- The column was filled when the statement was rendered.
    obtain ⟨hdelete, link, hlink, primary, value, hpair, hheld, hparent⟩ :=
      Batch.render_source hentity hbefore (by rw [hrender]; exact hlinked)
    rw [hrender] at hheld hparent
    obtain ⟨-, batch, habsorbed, -⟩ := Batch.absorb_fills rendered.batch rendered.store
      entry.step entry.columns entry.answer
    rw [habsorb] at habsorbed
    exact ⟨value, habsorbed.present_of_present hheld, .inr ⟨hdelete, link, hlink, primary, hpair,
      habsorbed.present_of_present hparent⟩⟩
  · -- The column was filled when the answer was taken in.
    obtain ⟨statement, result, value, hanswer, hidentity, hheld⟩ :=
      Batch.absorb_source hlinked (by rw [habsorb]; exact hafter)
    obtain ⟨hreads, hkeys, assigned, hassigned, hvalue⟩ := Batch.identity_of_eq_some hidentity
    rw [habsorb] at hheld
    exact ⟨value, hheld, .inl ⟨statement, result, assigned, hanswer, hreads, hkeys, hassigned,
      hvalue⟩⟩

/-- What is present before some writes is present after them. -/
theorem Ledger.present_of_present {first last : Progress} {entries : List Entry}
    (h : Ledger dialect first entries last) {id : EntityId} {column : String} {value : Value}
    (hvalue : first.store.present? id column = some value) :
    last.store.present? id column = some value := by
  induction h with
  | nil progress => exact hvalue
  | cons hentry _ ih =>
      obtain ⟨-, filled, hfills, -⟩ := hentry.fills
      exact ih (hfills.present_of_present hvalue)

/-! ## Submissions -/

variable {σ : Type} {schema : SchemaSource σ} {options : TransactionOptions} {tracked : Tracked}
  {state : σ}

/-- A new row got the key that the database assigned: its insert was executed, and the key in the
result was read back for the single key of the table. -/
def ReadBack (schema : SchemaSource σ) (dialect : Dialect) (tracked : Tracked)
    (calls : List Exchange) (id : EntityId) (entity : Entity) (column : String) (value : Value) :
    Prop :=
  ∃ (issue : Issue) (result : CommandResult) (assigned : Value),
    issue.Renders schema dialect tracked entity ∧ issue.step = ⟨.insert, id⟩ ∧
    ⟨.execute (issue.statement.command dialect), .ok (some result)⟩ ∈ calls ∧
    issue.statement.readsIdentity = true ∧ issue.columns.primaryKeys = [column] ∧
    Batch.assignedKey result = some assigned ∧
    value = Batch.coercedKey issue.columns column assigned

/-- A row that was inserted or updated got a key of a parent that it was linked to. -/
def CopiedKey (tracked after : Tracked) (id : EntityId) (entity : Entity) (column : String)
    (value : Value) : Prop :=
  id ∈ tracked.pending.dirty tracked.store ∧ entity.state ≠ .deletePending ∧
    ∃ link ∈ entity.links, ∃ primary, (primary, column) ∈ link.relationship.keyPairs ∧
      after.store.present? link.parent primary = some value

/-- What a submission does to the values of the entities. Whatever is present stays, and if the
submission fails nothing else is present afterwards. If it succeeds, a column holds something else
only if nothing was present in it and it got the key that the database assigned or that of a
parent. -/
structure KeepsValues (schema : SchemaSource σ) (dialect : Dialect) (tracked : Tracked)
    (calls : List Exchange) (result : Except PersistError Nat × Tracked) : Prop where
  missing : ∀ id, tracked.store.get? id = none → result.2.store.get? id = none
  present : ∀ id column value, tracked.store.present? id column = some value →
    result.2.store.present? id column = some value
  failed : ∀ error, result.1 = .error error → ∀ id column,
    result.2.store.present? id column = tracked.store.present? id column
  gained : ∀ count, result.1 = .ok count → ∀ id old new column,
    tracked.store.get? id = some old → result.2.store.get? id = some new →
      new.values.find? column ≠ old.values.find? column → old.present? column = none ∧
        ∃ value, new.present? column = some value ∧
          (ReadBack schema dialect tracked calls id old column value ∨
            CopiedKey tracked result.2 id old column value)

/-- A column that holds something else after a commit was filled at the write of its entity. -/
theorem gained_of_ledger {plan : WritePlan} {entries : List Entry} {last : Progress}
    (hplanned : Planned schema tracked state plan (entries.map Entry.write))
    (hledger : Ledger dialect ⟨.empty, tracked.store⟩ entries last) {id : EntityId}
    {old new : Entity} (hold : tracked.store.get? id = some old)
    (hnew : (last.batch.finish ⟨last.store, tracked.pending⟩).store.get? id = some new)
    {column : String} (hother : new.values.find? column ≠ old.values.find? column) :
    ∃ entry ∈ entries, entry.step.entity = id ∧
      old.state.operation? = some entry.step.operation ∧ old.present? column = none ∧
      ∃ value, new.present? column = some value ∧
        (entry.ReadsBack column value ∨ entry.CopiesKey old column value) := by
  have hdirty : id ∈ tracked.pending.dirty tracked.store := by
    by_contra hclean
    have hcommitted : Committed schema dialect default tracked state _ _ _ plan entries :=
      committed_of_ledger hplanned hledger
    rw [hcommitted.others id hclean, hold] at hnew
    exact hother (by rw [Option.some.inj hnew])
  obtain ⟨entry, hentry, rfl, hoperation, hbefore⟩ :=
    entry_of_dirty hplanned hledger hdirty hold
  obtain ⟨found, kept, hfound, ⟨-, hcolumns⟩, hsettled⟩ :=
    get_finish_of_planned hplanned hledger (step_of_entry hplanned hentry)
  obtain rfl := Option.some.inj (hold.symm.trans hfound)
  have hvalues : new.values = kept.values := by
    rw [← Option.some.inj (hsettled.symm.trans hnew)]
    cases entry.step.operation <;> rfl
  have hcolumn := hcolumns column
  rw [hvalues] at hother
  have hfilled : (entry.step.entity, column) ∈ last.batch.filled := by
    by_contra hfree
    rw [if_neg hfree] at hcolumn
    exact hother hcolumn
  rw [if_pos hfilled] at hcolumn
  obtain ⟨hfresh, hafter⟩ := filled_at_entry hplanned hledger hentry column
  obtain ⟨value, hvalue, hsource⟩ :=
    (hledger.valid_of_mem hentry).gained hbefore hfresh (hafter hfilled)
  refine ⟨entry, hentry, rfl, hoperation, hcolumn.1, value, ?_, hsource⟩
  rw [← present_finish_of_entry hplanned hledger hentry, EntityStore.present?, hnew,
    Option.bind_some] at hvalue
  exact hvalue

/-- A submission that succeeds gives values to keys that the database assigned and to keys that are
copied from parents. -/
theorem Submitted.gained {calls : List Exchange} {result : Except PersistError Nat × Tracked}
    (h : Submitted schema dialect options tracked state calls result) {count : Nat}
    (hcount : result.1 = .ok count) {id : EntityId} {old new : Entity}
    (hold : tracked.store.get? id = some old) (hnew : result.2.store.get? id = some new)
    {column : String} (hother : new.values.find? column ≠ old.values.find? column) :
    old.present? column = none ∧ ∃ value, new.present? column = some value ∧
      (ReadBack schema dialect tracked calls id old column value ∨
        CopiedKey tracked result.2 id old column value) := by
  by_cases hdirty : tracked.pending.dirty tracked.store = []
  · -- Nothing was written, so nothing changed.
    cases h with
    | idle => cases hold.symm.trans hnew; exact absurd rfl hother
    | unprepared hsome => exact absurd hdirty hsome
    | ended hsome => exact absurd hdirty hsome
  obtain ⟨plan, entries, last, hcommitted, hledger, hresult⟩ := h.finished hdirty hcount
  have hplanned := hcommitted.planned
  rw [hresult] at hnew ⊢
  obtain ⟨entry, hentry, rfl, hoperation, habsent, value, hvalue, hsource⟩ :=
    gained_of_ledger hplanned hledger hold hnew hother
  refine ⟨habsent, value, hvalue, hsource.imp ?_ ?_⟩
  · rintro ⟨statement, answer, assigned, hanswer, hreads, hkeys, hassigned, hkey⟩
    have hissue : (⟨entry.step, entry.columns, statement⟩ : Issue) ∈ issuesOf entries :=
      List.mem_filterMap.2 ⟨entry, hentry, by rw [Entry.issue?, hanswer]; rfl⟩
    obtain ⟨entity, hrenders⟩ := renders_of_ledger hplanned List.prefix_rfl hledger
      (nodup_of_planned hplanned) hissue
    obtain rfl : entity = old := Option.some.inj (hrenders.get.symm.trans hold)
    obtain ⟨values, filled, -, hstatement⟩ := hrenders.statement
    have hinsert : entry.step.operation = .insert :=
      WriteStatement.insert_of_reads_identity hstatement hreads
    have hexchange : (⟨.execute (statement.command dialect), .ok (some answer)⟩ : Exchange)
        ∈ executions dialect entries :=
      List.mem_filterMap.2 ⟨entry, hentry, by rw [Entry.exchange?, hanswer]; rfl⟩
    refine ⟨_, answer, assigned, hrenders.toRenders, ?_, ?_, hreads, hkeys, hassigned, hkey⟩
    · rw [← hinsert]
    · rw [hcommitted.calls_eq]
      simp [hexchange]
  · rintro ⟨hdelete, link, hlink, primary, hpair, hparent⟩
    refine ⟨dirty_of_entry hplanned hentry, fun hstate => ?_, link, hlink, primary, hpair, ?_⟩
    · rw [hstate] at hoperation
      exact hdelete (Option.some.inj hoperation).symm
    · -- The key of the parent stays as it was at the write.
      obtain ⟨front, back, rfl⟩ := List.append_of_mem hentry
      obtain ⟨middle, -, hrest⟩ := hledger.split
      obtain ⟨-, -, hback⟩ := Ledger.cons_iff.1 hrest
      rw [Batch.present_finish]
      exact hback.present_of_present hparent

/-- Every submission does to the values of the entities what `KeepsValues` says. -/
theorem Submitted.keeps_values {calls : List Exchange}
    {result : Except PersistError Nat × Tracked}
    (h : Submitted schema dialect options tracked state calls result) :
    KeepsValues schema dialect tracked calls result where
  missing := h.submits.missing
  present := fun id column value hvalue => by
    obtain ⟨old, hold, hpresent⟩ := Option.bind_eq_some_iff.1 hvalue
    obtain ⟨new, hnew, -, hkept, -⟩ := h.submits.kept id old hold
    rw [EntityStore.present?, hnew, Option.bind_some]
    exact hkept column value hpresent
  failed := fun error herror id column => by
    have hsame := congrArg Tracked.store (h.taken_back herror).without_nulls
    have hpresent := congrFun (congrArg (fun store => store.present? id) hsame) column
    simpa only [Tracked.withoutNulls, EntityStore.present_without_nulls] using hpresent
  gained := fun _ hcount _ _ _ _ hold hnew hother => h.gained hcount hold hnew hother

/-- A submission, blocking or asynchronous and however it ends, changes no value that is present, in
whichever entity. One that succeeds gives values to nothing but the single key of a new row, which
its insert read back, and foreign keys of rows that it wrote, which are those of their parents. -/
theorem submission_keeps_values (schema : SchemaSource σ) (connection : Connection σ)
    (dialect : Dialect) (options : TransactionOptions) (tracked : Tracked) (state : σ) :
    KeepsValues schema dialect tracked (exchanges schema connection dialect options tracked state)
        (applyPending schema connection dialect options tracked state).1 ∧
      KeepsValues schema dialect tracked
        (asyncExchanges schema connection dialect options tracked state)
        (applyPendingAsync schema connection dialect options tracked state).1 :=
  ⟨(submitted_exchanges schema connection dialect options tracked state).keeps_values,
    (async_submitted_exchanges schema connection dialect options tracked state).keeps_values⟩

/-- A new order and its new customer get the keys that the database assigns, and the order that of
the customer. -/
theorem keys_of_order_gained :
    let tracked : Tracked :=
      ⟨WritePlan.orderBeforeCustomer, (PendingSet.empty.mark ⟨0⟩).mark ⟨1⟩⟩
    let connection := assigningSeven (.ok ())
    let run := applyPending WritePlan.unrelated connection .brackets default tracked ()
    KeepsValues WritePlan.unrelated .brackets tracked
      (exchanges WritePlan.unrelated connection .brackets default tracked ()) run.1 ∧
    run.1.1 = .ok 2 ∧ run.1.2.store.present? ⟨1⟩ "Id" = some (.int 7) ∧
    run.1.2.store.present? ⟨0⟩ "CustomerId" = some (.int 7) := by
  intro tracked connection run
  exact ⟨(submission_keeps_values WritePlan.unrelated connection .brackets default tracked ()).1,
    by decide, by decide, by decide⟩

end Submission

end Orm
