import Orm.Proofs.Change.Issued
import Orm.Proofs.Context.Tracking

/-!
# What a context says of a refused statement

The database may refuse any statement of a submission. The failure of the context then names the
entity, the table and the operation of that very statement, with one exception: an insert that
violates a constraint, where its entity wants a conflict to fail, is a conflict that names no write
in its detail (`refused_statement_reported`).
-/

namespace Orm

namespace Submission

variable {σ : Type} {schema : SchemaSource σ} {dialect : Dialect} {options : TransactionOptions}
  {tracked : Tracked} {state : σ}

/-! ## Refused statements -/

/-- The commands that the database refused, each with its error. -/
def refusalsOf (calls : List Exchange) : List (Command × DriverError) :=
  calls.filterMap fun exchange =>
    match exchange.call, exchange.answer with
    | .execute command, .error cause => some (command, cause)
    | _, _ => none

/-- The statements of a ledger were all answered. -/
theorem refusals_of_executions (dialect : Dialect) (entries : List Entry) :
    refusalsOf (executions dialect entries) = [] := by
  rw [refusalsOf, executions, List.filterMap_filterMap, List.filterMap_eq_nil_iff]
  intro entry _
  cases hanswer : entry.answer <;> simp [Entry.exchange?, hanswer]

/-- Of the calls of a transaction those behind its start are about its statements. -/
theorem refusals_of_transaction (options : TransactionOptions) (answer : DatabaseAnswer)
    (dialect : Dialect) (entries : List Entry) (closing : List Exchange) :
    refusalsOf (⟨.start options, answer⟩ :: executions dialect entries ++ closing)
      = refusalsOf closing := by
  rw [refusalsOf, List.cons_append, List.filterMap_cons_none rfl, List.filterMap_append,
    ← refusalsOf, refusals_of_executions]
  rfl

/-- The database refused the statement of a write. The writes before it in the plan went well, those
behind it were not tried, and a rollback followed. -/
structure Refused (schema : SchemaSource σ) (dialect : Dialect) (options : TransactionOptions)
    (tracked : Tracked) (state : σ) (calls : List Exchange) (issue : Issue) (entity : Entity)
    (cause : DriverError) : Prop where
  renders : issue.RendersLinked schema dialect tracked entity
  position : ∃ plan entries last later answer,
    Planned schema tracked state plan
      (entries.map Entry.write ++ (issue.step, issue.columns) :: later) ∧
    Ledger dialect ⟨.empty, tracked.store⟩ entries last ∧
    calls = ⟨.start options, .ok none⟩ :: executions dialect entries ++
      [⟨.execute (issue.statement.command dialect), .error cause⟩, ⟨.rollback, answer⟩]

/-- An entity takes a refusal for a conflict: its insert violates a constraint, and it wants a
conflict to fail. -/
def Issue.MeetsConflict (issue : Issue) (entity : Entity) (cause : DriverError) : Prop :=
  issue.step.operation = .insert ∧ entity.onConflict = .throw ∧
    ∃ message, cause = .constraint message

/-- A failure is what is said of a refused statement: of a conflict that it is one, and of any other
refusal the entity, the table and the operation of the statement. -/
structure Issue.Reported (issue : Issue) (entity : Entity) (cause : DriverError)
    (failure : Failure) : Prop where
  conflict : issue.MeetsConflict entity cause → failure.kind = .conflict ∧ failure.write = none
  named : ¬ issue.MeetsConflict entity cause →
    failure.write = some ⟨issue.step.entity, entity.table, issue.statement.operation⟩

/-- A statement is one of the operation that it was asked for. -/
theorem operation_of_statement_for {operation : WriteOperation} {entity : Entity}
    {columns : ColumnMap} {filled : List String} {statement : WriteStatement}
    (h : Batch.statementFor dialect operation entity columns filled = .ok (some statement)) :
    statement.operation = operation := by
  cases operation with
  | insert =>
      obtain ⟨inserted, hinsert, hsame⟩ := Action.map_eq_ok_iff.1 h
      cases hsame
      simp only [WriteStatement.insert, WriteStatement.upsert, WriteStatement.plainInsert]
        at hinsert
      grind
  | update =>
      simp only [Batch.statementFor, WriteStatement.update] at h
      split at h
      · cases h
      · obtain ⟨keyed, -, hupdate⟩ := Action.bind_eq_ok_iff.1 h
        cases hupdate
        rfl
  | delete =>
      obtain ⟨deleted, hdelete, hsame⟩ := Action.map_eq_ok_iff.1 h
      cases hsame
      obtain ⟨keyed, -, hdelete⟩ := Action.bind_eq_ok_iff.1 hdelete
      cases hdelete
      rfl

/-- The error for a statement that was rendered and refused is reported with its entity, but for a
conflict. -/
theorem Issue.reported_of_render (issue : Issue) {batch : Batch} {store : EntityStore}
    {rendered : Progress} {entity : Entity}
    (hentity : store.get? issue.step.entity = some entity)
    (hrender : batch.render store dialect issue.step issue.columns
      = (.ok (some issue.statement), rendered.batch, rendered.store)) (cause : DriverError) :
    issue.Reported entity cause
      (Batch.statementError rendered.store issue.step cause).failure := by
  obtain ⟨filled, values, hkept, hstatement, -⟩ :=
    Batch.render_of_get batch dialect issue.columns hentity
  rw [hrender] at hkept hstatement
  have hoperation := operation_of_statement_for hstatement.symm
  simp only [Batch.statementError, hkept]
  cases cause with
  | constraint message =>
      by_cases hplain : issue.step.operation = .insert ∧ entity.onConflict = .throw
      · simp only [if_pos hplain]
        exact ⟨fun _ => ⟨rfl, rfl⟩, fun hother => absurd ⟨hplain.1, hplain.2, message, rfl⟩ hother⟩
      · simp only [if_neg hplain]
        exact ⟨fun ⟨hinsert, hthrow, _⟩ => absurd ⟨hinsert, hthrow⟩ hplain,
          fun _ => by rw [hoperation]; rfl⟩
  | connect | execute | transaction | discovery =>
      exact ⟨fun ⟨_, _, _, hcause⟩ => (nomatch hcause), fun _ => by rw [hoperation]; rfl⟩

/-- A submission of which a statement is refused ends with what is said of that statement. -/
theorem Submitted.refused {calls : List Exchange} {result : Except PersistError Nat × Tracked}
    (h : Submitted schema dialect options tracked state calls result) {command : Command}
    {cause : DriverError} (hrefused : (command, cause) ∈ refusalsOf calls) :
    ∃ issue entity error, Refused schema dialect options tracked state calls issue entity cause ∧
      command = issue.statement.command dialect ∧ result.1 = .error error ∧
      issue.Reported entity cause error.failure := by
  cases h with
  | idle => cases hrefused
  | unprepared => cases hrefused
  | ended _ hprepare hending =>
      obtain ⟨plan, hplanned⟩ := planned_of_prepare hprepare
      cases hending with
      | unopened => cases hrefused
      | committed hledger hwrites =>
          rw [refusals_of_transaction] at hrefused
          cases hrefused
      | uncommitted answer hledger hwrites =>
          rw [refusals_of_transaction] at hrefused
          cases hrefused
      | interrupted answer houtcome =>
          cases houtcome with
          | @stopped entries last _ next rest _ _ hledger hwrites hattempt =>
              rw [← List.cons_append, List.append_assoc, refusals_of_transaction] at hrefused
              cases hattempt with
              | unrendered => cases hrefused
              | refused _ hrender =>
                  obtain ⟨rfl, rfl⟩ : command = _ ∧ cause = _ := by
                    simpa [refusalsOf] using hrefused
                  have hnext := (List.append_assoc _ [_] _).trans hwrites
                  have hget := get_next hplanned ⟨_, hnext⟩ hledger
                  obtain ⟨entity, hrenders⟩ := renders_of_render hplanned
                    (hwrites ▸ List.mem_append_right _ List.mem_cons_self) hget hrender
                  refine ⟨_, entity, _, ⟨hrenders, plan, entries, last, rest, answer, ?_, hledger,
                    ?_⟩, rfl, rfl, Issue.reported_of_render _ (hget.trans hrenders.get) hrender _⟩
                  · rw [hwrites]
                    exact hplanned
                  · simp only [List.cons_append, List.append_assoc, List.nil_append]

end Submission

open Submission

namespace Context

variable {σ : Type}

/-! ## Submissions of a context -/

/-- The calls of a submission of a context: none if nothing is pending or no connection opens, and
those of the submission over its connection otherwise. -/
def callsBy (context : Context σ) (calls : Surroundings σ → List Exchange) (desk : Desk σ) :
    List Exchange :=
  if desk.tracked.pending.isEmpty then []
  else
    match context.connect desk.around with
    | (.error _, _) => []
    | (.ok (), around) => calls around

/-- The calls that `submitUpdates` makes, with their answers. -/
def exchanges (context : Context σ) (desk : Desk σ) : List Exchange :=
  context.callsBy (Submission.exchanges (Surroundings.schemaSource context.catalog)
    context.connection context.dialect context.transaction desk.tracked) desk

/-- The calls that `submitUpdatesAsync` makes, with their answers. -/
def asyncExchanges (context : Context σ) (desk : Desk σ) : List Exchange :=
  context.callsBy (Submission.asyncExchanges (Surroundings.schemaSource context.catalog)
    context.connection context.dialect context.transaction desk.tracked) desk

/-- A submission of a context reports every statement that the database refuses: it fails with what
is said of that statement. -/
def ReportsRefusals (context : Context σ) (desk : Desk σ) (calls : List Exchange)
    (result : Except Failure Nat) : Prop :=
  ∀ command cause, (command, cause) ∈ refusalsOf calls →
    ∃ around issue entity failure,
      Refused (Surroundings.schemaSource context.catalog) context.dialect context.transaction
        desk.tracked around calls issue entity cause ∧
      command = issue.statement.command context.dialect ∧ result = .error failure ∧
      issue.Reported entity cause failure

/-- A submission of a context reports refusals, in whichever of the two ways it is made. -/
theorem reports_refusals_of_submit_by {context : Context σ} {desk : Desk σ}
    {apply : SchemaSource (Surroundings σ) → Connection (Surroundings σ) → Dialect →
      TransactionOptions → Tracked →
      StateM (Surroundings σ) (Except PersistError Nat × Tracked)}
    {calls : Surroundings σ → List Exchange}
    (hsubmitted : ∀ around,
      Submitted (Surroundings.schemaSource context.catalog) context.dialect context.transaction
        desk.tracked around (calls around) (apply (Surroundings.schemaSource context.catalog)
          context.connection context.dialect context.transaction desk.tracked around).1) :
    context.ReportsRefusals desk (context.callsBy calls desk)
      (context.submitBy apply desk).1 := by
  intro command cause hrefused
  obtain ⟨hempty, -⟩ | ⟨error, around, hopen, -⟩ | ⟨around, hopen, hresult⟩ :=
    context.submit_by_cases apply desk
  · rw [callsBy, if_pos hempty] at hrefused
    cases hrefused
  · rw [callsBy, hopen] at hrefused
    simp [refusalsOf] at hrefused
  · by_cases hempty : desk.tracked.pending.isEmpty = true
    · rw [callsBy, if_pos hempty] at hrefused
      cases hrefused
    · have hcalls : context.callsBy calls desk = calls around := by
        rw [callsBy, if_neg hempty, hopen]
      rw [hcalls] at hrefused ⊢
      obtain ⟨issue, entity, error, hrefusal, hcommand, herror, hreported⟩ :=
        (hsubmitted around).refused hrefused
      rw [hresult]
      exact ⟨around, issue, entity, _, hrefusal, hcommand, by rw [herror]; rfl, hreported⟩

/-- Whatever statement the database refuses in a submission, blocking or asynchronous, and with
whichever error: the context fails, and its failure names the entity, the table and the operation of
that statement, unless it was an insert that violates a constraint and whose entity wants a conflict
to fail. Then the failure is a conflict that names no write. -/
theorem refused_statement_reported (context : Context σ) (desk : Desk σ) :
    context.ReportsRefusals desk (context.exchanges desk) (context.submitUpdates desk).1 ∧
      context.ReportsRefusals desk (context.asyncExchanges desk)
        (context.submitUpdatesAsync desk).1 :=
  ⟨reports_refusals_of_submit_by fun _ => submitted_exchanges ..,
    reports_refusals_of_submit_by fun _ => async_submitted_exchanges ..⟩

/-- A connection that refuses every command. -/
def refusing (cause : DriverError) : Connection Unit where
  start _ := return .ok ()
  execute _ := return .error cause
  commit := return .ok ()
  rollback := return .ok ()

/-- The desk of a context that has a new customer with a key. -/
def customerCreated (context : Context Unit) : Desk Unit :=
  let actions : List ContextAction := [.create (Table.named "dbo" "Customers"),
    .edit ⟨0⟩ (.set "Id" (some (.int 1)))]
  ⟨(context.session actions (alone context)).trackedBy ⟨0⟩,
    ⟨.empty, .empty, .empty, [], .empty, ()⟩⟩

/-- The insert of a customer is named if the database cannot execute it, and not if there is one
with its key. -/
theorem duplicate_customer_unnamed :
    let down := ofNames (refusing (.execute "down"))
    let taken := ofNames (refusing (.constraint "duplicate"))
    ((refusalsOf (down.exchanges (customerCreated down))).map Prod.snd = [.execute "down"] ∧
      (down.submitUpdates (customerCreated down)).1.mapError Failure.write
        = .error (some ⟨⟨0⟩, Table.named "dbo" "Customers", .insert⟩)) ∧
    (refusalsOf (taken.exchanges (customerCreated taken))).map Prod.snd
        = [.constraint "duplicate"] ∧
      (taken.submitUpdates (customerCreated taken)).1.mapError Failure.write = .error none ∧
      taken.ReportsRefusals (customerCreated taken) (taken.exchanges (customerCreated taken))
        (taken.submitUpdates (customerCreated taken)).1 := by
  intro down taken
  exact ⟨by decide +kernel, by decide +kernel, by decide +kernel,
    (refused_statement_reported taken (customerCreated taken)).1⟩

end Context

end Orm
