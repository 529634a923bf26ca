import Orm.Proofs.Change.Edits
import Orm.Proofs.Context.Announcement
import Orm.Proofs.Context.LoadedKeys

/-!
# What a context accepts

A context that submits its changes accepts the edits of its entities. `edits_taken_in` says which of
them were stored before, of every submission and of those of a context, whose journal has the
commands (`journaled_apply_pending`). A row of which only the key was edited is accepted without a
command (`name_stored_and_key_dropped`).
-/

namespace Orm

open Orm.Action (Along)
open Submission

variable {σ : Type}

/-! ## Commands in the journal -/

/-- Nothing was executed in between. -/
def Surroundings.Quiet (before after : Surroundings σ) : Prop :=
  ∃ made, after.journal = before.journal ++ made ∧ executed made = []

instance : IsPreorder (Surroundings σ) Surroundings.Quiet where
  refl := fun around => ⟨[], (List.append_nil around.journal).symm, rfl⟩
  trans := by
    rintro first second third ⟨made, hjournal, hmade⟩ ⟨more, hmore, hnone⟩
    refine ⟨made ++ more, by rw [hmore, hjournal, List.append_assoc], ?_⟩
    exact List.filterMap_append.trans (congrArg₂ (· ++ ·) hmade hnone)

/-- Questions to a catalog execute nothing. -/
theorem Surroundings.allows_questions_quiet (catalog : Catalog σ) :
    AllowsQuestions catalog Quiet where
  columns := fun _ _ => ⟨_, rfl, rfl⟩
  relationships := fun _ _ => ⟨_, rfl, rfl⟩
  procedures := fun _ => ⟨_, rfl, rfl⟩
  learn := fun around _ => ⟨[], (List.append_nil around.journal).symm, rfl⟩

/-- What was executed in between are the commands of the calls that were recorded, each as it is
sent. -/
def Recorded.Journaled (timeout : Option Nat) (before after : Recorded (Surroundings σ)) : Prop :=
  ∃ made calls, after.state.journal = before.state.journal ++ made ∧
    after.exchanges = before.exchanges ++ calls ∧
    executed made = (commandsOf calls).map (Surroundings.timed timeout)

namespace Recorded.Journaled

variable {timeout : Option Nat} {α : Type}

instance : IsPreorder (Recorded (Surroundings σ)) (Journaled timeout) where
  refl := fun recorded => ⟨[], [], (List.append_nil recorded.state.journal).symm,
    (List.append_nil recorded.exchanges).symm, rfl⟩
  trans := by
    rintro first second third ⟨made, calls, hjournal, hcalls, hmade⟩
      ⟨more, others, hmore, hothers, hexecuted⟩
    refine ⟨made ++ more, calls ++ others, by rw [hmore, hjournal, List.append_assoc],
      by rw [hothers, hcalls, List.append_assoc], ?_⟩
    have hcommands : commandsOf (calls ++ others) = commandsOf calls ++ commandsOf others :=
      List.filterMap_append
    rw [hcommands, List.map_append, ← hmade, ← hexecuted]
    exact List.filterMap_append

/-- Where nothing is executed no call is recorded. -/
theorem along_lift {action : StateM (Surroundings σ) α} (h : Along Surroundings.Quiet action) :
    Along (Journaled timeout) (lift action) := fun recorded => by
  obtain ⟨made, hjournal, hmade⟩ := h recorded.state
  exact ⟨made, [], hjournal, (List.append_nil recorded.exchanges).symm, hmade⟩

/-- The questions of a submission. -/
theorem along_schema {schema : SchemaSource (Surroundings σ)}
    (h : schema.Along Surroundings.Quiet) : schema.recorded.Along (Journaled timeout) where
  columns := fun table => along_lift (h.columns table)
  relationships := fun table => along_lift (h.relationships table)

/-- The calls of a connection, each of which is published and noted. -/
theorem along_connection (connection : Connection σ) (hash : String) :
    (Surroundings.announced connection hash timeout).recorded.Along (Journaled timeout) where
  start := fun options _ => ⟨[.start options], _, rfl, rfl, rfl⟩
  execute := fun _ recorded =>
    ⟨_, _, List.append_assoc recorded.state.journal _ _, rfl, executed_of_sent _ _ _⟩
  commit := fun _ => ⟨[.commit], _, rfl, rfl, rfl⟩
  rollback := fun _ => ⟨[.rollback], _, rfl, rfl, rfl⟩

end Recorded.Journaled

/-! ## Submissions of a context -/

variable (catalog : Catalog σ) (connection : Connection σ) (hash : String) (timeout : Option Nat)
  (dialect : Dialect) (options : TransactionOptions) (tracked : Tracked) (around : Surroundings σ)

/-- The commands that a submission in some surroundings executes are those of its calls, as they are
sent. -/
theorem journaled_apply_pending :
    let schema := Surroundings.schemaSource catalog
    let announced := Surroundings.announced connection hash timeout
    ∃ made, (applyPending schema announced dialect options tracked around).2.journal
        = around.journal ++ made ∧
      executed made = (commandsOf (exchanges schema announced dialect options tracked around)).map
        (Surroundings.timed timeout) := by
  intro schema announced
  have hschema := (Surroundings.allows_questions_quiet catalog).schema_source
  obtain ⟨made, calls, hjournal, hcalls, hmade⟩ :=
    along_apply_pending (Recorded.Journaled.along_schema hschema)
      (Recorded.Journaled.along_connection connection hash) dialect options tracked ⟨around, []⟩
  rw [apply_pending_recorded] at hjournal hcalls
  obtain rfl : exchanges schema announced dialect options tracked around = calls := hcalls
  exact ⟨made, hjournal, hmade⟩

/-- So are those of an asynchronous submission. -/
theorem journaled_apply_pending_async :
    let schema := Surroundings.schemaSource catalog
    let announced := Surroundings.announced connection hash timeout
    ∃ made, (applyPendingAsync schema announced dialect options tracked around).2.journal
        = around.journal ++ made ∧
      executed made = (commandsOf (asyncExchanges schema announced dialect options tracked
        around)).map (Surroundings.timed timeout) := by
  intro schema announced
  rw [apply_pending_async_eq, async_exchanges_eq]
  exact journaled_apply_pending catalog connection.awaited hash timeout dialect options tracked
    around

/-- What is dirty is pending. -/
theorem PendingSet.is_empty_of_dirty {tracked : Tracked}
    (hdirty : tracked.pending.dirty tracked.store ≠ []) :
    tracked.pending.isEmpty = false := by
  rw [Bool.eq_false_iff]
  intro hempty
  rw [isEmpty, List.isEmpty_iff] at hempty
  exact hdirty (by rw [dirty, hempty]; rfl)

namespace Context

variable {context : Context σ} {desk : Desk σ} {count : Nat}

/-- A submission of a context that succeeds with something pending opened a connection first. What
it answers, and what it makes of the entities, is what the submission over that connection does. -/
theorem submit_by_eq_ok
    {apply : SchemaSource (Surroundings σ) → Connection (Surroundings σ) → Dialect →
      TransactionOptions → Tracked →
      StateM (Surroundings σ) (Except PersistError Nat × Tracked)}
    (hpending : desk.tracked.pending.isEmpty = false)
    (hcount : (context.submitBy apply desk).1 = .ok count) :
    ∃ around,
      around.journal = desk.around.journal ++ [JournalEntry.connect context.connectionString] ∧
      let run := apply (Surroundings.schemaSource context.catalog) context.connection
        context.dialect context.transaction desk.tracked around
      run.1.1 = .ok count ∧ (context.submitBy apply desk).2 = ⟨run.1.2, run.2⟩ := by
  have hnoted : (context.connect desk.around).2.journal
      = desk.around.journal ++ [JournalEntry.connect context.connectionString] := rfl
  obtain ⟨hempty, -⟩ | ⟨error, around, -, hresult⟩ | ⟨around, hopen, hresult⟩ :=
    context.submit_by_cases apply desk
  · rw [hpending] at hempty
    cases hempty
  · rw [hresult] at hcount
    cases hcount
  · rw [hopen] at hnoted
    rw [hresult] at hcount ⊢
    exact ⟨around, hnoted, Action.map_error_eq_ok_iff.1 hcount, rfl⟩

/-- A submission of a context that is committed takes in the edits of its entities. The commands of
its calls are those that the journal says were executed, as they were sent. -/
def TakesInEdits (context : Context σ) (desk after : Desk σ) (count : Nat) : Prop :=
  ∃ around calls made plan entries last,
    Submission.TakesInEdits (Surroundings.schemaSource context.catalog) context.dialect
      context.transaction desk.tracked around calls count after.tracked plan entries last ∧
    after.around.journal = desk.around.journal ++ made ∧
    executed made = (commandsOf calls).map (Surroundings.timed context.transaction.timeout)

/-- A submission of a context takes in edits, in whichever of the two ways it is made. -/
theorem takes_in_edits_of_submit_by
    {apply : SchemaSource (Surroundings σ) → Connection (Surroundings σ) → Dialect →
      TransactionOptions → Tracked →
      StateM (Surroundings σ) (Except PersistError Nat × Tracked)}
    {calls : Surroundings σ → List Exchange}
    (hsubmitted : ∀ around,
      Submitted (Surroundings.schemaSource context.catalog) context.dialect context.transaction
        desk.tracked around (calls around) (apply (Surroundings.schemaSource context.catalog)
          context.connection context.dialect context.transaction desk.tracked around).1)
    (hjournaled : ∀ around, ∃ made,
      (apply (Surroundings.schemaSource context.catalog) context.connection context.dialect
        context.transaction desk.tracked around).2.journal = around.journal ++ made ∧
      executed made
        = (commandsOf (calls around)).map (Surroundings.timed context.transaction.timeout))
    (hdirty : desk.tracked.pending.dirty desk.tracked.store ≠ [])
    (hcount : (context.submitBy apply desk).1 = .ok count) :
    context.TakesInEdits desk (context.submitBy apply desk).2 count := by
  obtain ⟨around, hconnected, hresult, hafter⟩ := submit_by_eq_ok
    (PendingSet.is_empty_of_dirty hdirty) hcount
  obtain ⟨plan, entries, last, htaken⟩ := (hsubmitted around).takes_in_edits hdirty hresult
  obtain ⟨made, hjournal, hmade⟩ := hjournaled around
  rw [hafter]
  refine ⟨around, calls around, .connect context.connectionString :: made, plan, entries, last,
    htaken, ?_, hmade⟩
  rw [hjournal, hconnected, List.append_assoc]
  rfl

/-- A submission that is committed, blocking or asynchronous, takes in the edits of its entities.
Before an entity is unchanged its update stores the columns outside the key that were edited, and no
update stores a key. So the answer counts the commands if and only if every update has a column to
store. So it is with the submissions of a context, and what was executed is in its journal. -/
theorem edits_taken_in :
    (∀ (schema : SchemaSource σ) (connection : Connection σ) (dialect : Dialect)
      (options : TransactionOptions) (tracked : Tracked) (state : σ) (count : Nat),
      tracked.pending.dirty tracked.store ≠ [] →
        let run := applyPending schema connection dialect options tracked state
        let awaited := applyPendingAsync schema connection dialect options tracked state
        (run.1.1 = .ok count → ∃ plan entries last,
          Submission.TakesInEdits schema dialect options tracked state
            (exchanges schema connection dialect options tracked state) count run.1.2
            plan entries last) ∧
        (awaited.1.1 = .ok count → ∃ plan entries last,
          Submission.TakesInEdits schema dialect options tracked state
            (asyncExchanges schema connection dialect options tracked state) count awaited.1.2
            plan entries last)) ∧
    ∀ (context : Context σ) (desk : Desk σ) (count : Nat),
      desk.tracked.pending.dirty desk.tracked.store ≠ [] →
        ((context.submitUpdates desk).1 = .ok count →
          context.TakesInEdits desk (context.submitUpdates desk).2 count) ∧
        ((context.submitUpdatesAsync desk).1 = .ok count →
          context.TakesInEdits desk (context.submitUpdatesAsync desk).2 count) := by
  constructor
  · intro schema connection dialect options tracked state count hdirty
    exact ⟨(submitted_exchanges schema connection dialect options tracked state).takes_in_edits
        hdirty,
      (async_submitted_exchanges schema connection dialect options tracked state).takes_in_edits
        hdirty⟩
  · intro context desk count hdirty
    exact ⟨takes_in_edits_of_submit_by (fun _ => submitted_exchanges ..)
        (fun _ => journaled_apply_pending ..) hdirty,
      takes_in_edits_of_submit_by (fun _ => async_submitted_exchanges ..)
        (fun _ => journaled_apply_pending_async ..) hdirty⟩

/-- The desk of a context that has read the row of Ann and made an edit of it, with a cache that is
empty again. -/
def annEdited (column : String) (value : Value) : Desk Unit :=
  let actions : List ContextAction := [.edit ⟨0⟩ (.set column (some value))]
  ⟨((ofNames answeringAnnByKey).session actions annRead).trackedBy ⟨0⟩,
    ⟨.empty, .empty, .empty, [], .empty, ()⟩⟩

/-- A row that was renamed is accepted with a command, whether its context submits it or not. One of
which only the key was edited is accepted and counted without a command. -/
theorem name_stored_and_key_dropped :
    let context := ofNames answeringAnnByKey
    let renamed := annEdited "Name" (.text "Eve")
    let rekeyed := annEdited "Id" (.int 2)
    let schema := WritePlan.unrelated
    let connection := answeringAnnByKey
    ((context.submitUpdates renamed).1 = .ok 1 ∧
        context.TakesInEdits renamed (context.submitUpdates renamed).2 1 ∧
        (executed (context.submitUpdates renamed).2.around.journal).length = 1) ∧
      ((context.submitUpdates rekeyed).1 = .ok 1 ∧
        context.TakesInEdits rekeyed (context.submitUpdates rekeyed).2 1 ∧
        executed (context.submitUpdates rekeyed).2.around.journal = []) ∧
      (applyPending schema connection .brackets default renamed.tracked ()).1.1 = .ok 1 ∧
      ∃ plan entries last,
        Submission.TakesInEdits schema .brackets default renamed.tracked ()
          (exchanges schema connection .brackets default renamed.tracked ()) 1
          (applyPending schema connection .brackets default renamed.tracked ()).1.2
          plan entries last := by
  intro context renamed rekeyed schema connection
  have hrenamed : renamed.tracked.pending.dirty renamed.tracked.store ≠ [] := by decide +kernel
  have hrekeyed : rekeyed.tracked.pending.dirty rekeyed.tracked.store ≠ [] := by decide +kernel
  have hstored : (context.submitUpdates renamed).1 = .ok 1 := by decide +kernel
  have hdropped : (context.submitUpdates rekeyed).1 = .ok 1 := by decide +kernel
  have hrun :
      (applyPending schema connection .brackets default renamed.tracked ()).1.1 = .ok 1 := by
    decide +kernel
  obtain ⟨hname, -⟩ := edits_taken_in.2 context renamed 1 hrenamed
  obtain ⟨hkey, -⟩ := edits_taken_in.2 context rekeyed 1 hrekeyed
  obtain ⟨hplain, -⟩ :=
    edits_taken_in.1 schema connection .brackets default renamed.tracked () 1 hrenamed
  exact ⟨⟨hstored, hname hstored, by decide +kernel⟩, ⟨hdropped, hkey hdropped, by decide +kernel⟩,
    hrun, hplain hrun⟩

end Context

end Orm
