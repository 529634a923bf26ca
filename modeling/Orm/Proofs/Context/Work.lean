import Orm.Proofs.Change.Calls
import Orm.Proofs.Context.Session

/-!
# What a context does to its surroundings

All that a context does is made of questions to its cache, calls of its connection and notices to
its owner. A preorder on surroundings that holds along each of these (`AllowsWork`) holds along
every read, edit, procedure call and submission.
-/

namespace Orm

open Orm.Action (Along)

variable {σ α : Type}

/-! ## Notices -/

/-- Whether an entry of the journal says what an owner or a watcher was told of an entity. -/
def JournalEntry.isNotice : JournalEntry → Bool
  | .tracked _ | .forgotten _ | .changed _ _ | .property _ _ _ => true
  | .connect _ | .start _ | .commit | .rollback | .execute _ | .discover _ _ | .event _ _ => false

namespace Desk

/-- A relation holds between the surroundings of two desks. -/
def Around (R : Surroundings σ → Surroundings σ → Prop) (desk after : Desk σ) : Prop :=
  R desk.around after.around

instance (R : Surroundings σ → Surroundings σ → Prop) [IsPreorder (Surroundings σ) R] :
    IsPreorder (Desk σ) (Around R) where
  refl := fun desk => Std.Refl.refl desk.around
  trans := fun first second third => IsTrans.trans first.around second.around third.around

/-- What holds along an action in the surroundings holds along it on the desk. -/
theorem along_surroundings {R : Surroundings σ → Surroundings σ → Prop}
    {action : StateM (Surroundings σ) α} (h : Along R action) :
    Along (Around R) (surroundings action) :=
  fun desk => h desk.around

/-- What an owner is told of its entities only adds notices to the journal. -/
theorem around_receive_all (announces : Bool) (notices : List Notice) (desk : Desk σ) :
    ∃ made, (notices.foldl (receive announces) desk).around
        = { desk.around with journal := desk.around.journal ++ made } ∧
      ∀ entry ∈ made, entry.isNotice = true := by
  induction notices generalizing desk with
  | nil => exact ⟨[], by rw [List.append_nil]; rfl, fun _ hentry => by cases hentry⟩
  | cons notice rest ih =>
      obtain ⟨made, haround, hmade⟩ := ih (receive announces desk notice)
      refine ⟨(if announces then [announcement notice] else []) ++
        watched desk.around.watchers notice ++ made, ?_, fun entry hentry => ?_⟩
      · rw [List.foldl_cons, haround]
        simp only [receive, List.append_assoc]
      · rcases List.mem_append.1 hentry with hentry | hentry
        · rcases List.mem_append.1 hentry with hentry | hentry
          · split at hentry
            · rw [List.mem_singleton.1 hentry]
              cases notice <;> rfl
            · cases hentry
          · cases notice with
            | changed id column =>
                obtain ⟨watcher, -, rfl⟩ := List.mem_map.1 hentry
                rfl
            | track | forget => cases hentry
        · exact hmade entry hentry

end Desk

namespace Context

/-- A relation holds along the questions of a context to its cache, the calls of its connection, and
when something is noted of its entities. -/
structure AllowsWork (context : Context σ) (R : Surroundings σ → Surroundings σ → Prop) :
    Prop where
  columns : ∀ table, Along R (Surroundings.columns context.catalog table)
  relationships : ∀ table, Along R (Surroundings.relationships context.catalog table)
  procedures : Along R (Surroundings.procedures context.catalog)
  connect : Along R context.connect
  connection : context.connection.Along R
  awaited : context.connection.awaited.Along R
  recordIndividual : ∀ table, Along R (modify fun around =>
    { around with cache := around.cache.recordIndividual table })
  notices : ∀ (around : Surroundings σ) (made : List JournalEntry),
    (∀ entry ∈ made, entry.isNotice = true) →
      R around { around with journal := around.journal ++ made }

namespace AllowsWork

variable {context : Context σ} {R : Surroundings σ → Surroundings σ → Prop}
  [IsPreorder (Surroundings σ) R] (h : context.AllowsWork R)

include h

/-- A submission asks for columns and relationships. -/
theorem schema_source : (Surroundings.schemaSource context.catalog).Along R where
  columns := h.columns
  relationships := fun table => by
    refine .bind (h.relationships table) fun answer => ?_
    split <;> exact .pure _

omit [IsPreorder (Surroundings σ) R] in
/-- What an owner is told of its entities is noted. -/
theorem receive_all (announces : Bool) (notices : List Notice) (desk : Desk σ) :
    Desk.Around R desk (notices.foldl (Desk.receive announces) desk) := by
  obtain ⟨made, haround, hmade⟩ := Desk.around_receive_all announces notices desk
  rw [Desk.Around, haround]
  exact h.notices desk.around made hmade

omit [IsPreorder (Surroundings σ) R] in
/-- An edit is noted. -/
theorem edit (announces : Bool) (change : EntityStore → Edited) :
    Along (Desk.Around R) (Desk.edit announces change : StateM (Desk σ) _) := by
  intro desk
  let edited := change desk.tracked.store
  let stored : Desk σ := { desk with tracked := { desk.tracked with store := edited.store } }
  exact h.receive_all announces edited.notices stored

omit [IsPreorder (Surroundings σ) R] in
/-- A new entity is noted. -/
theorem add_tracked (announces : Bool) (entity : Entity) :
    Along (Desk.Around R) (Desk.addTracked announces entity : StateM (Desk σ) _) := by
  intro desk
  let added := desk.tracked.store.add entity
  let stored : Desk σ := { desk with tracked := { desk.tracked with store := added.2 } }
  exact h.receive_all announces [.track added.1] stored

/-- The question for the columns of a table. -/
theorem columns_at_desk (table : Table) : Along (Desk.Around R) (context.columns table) :=
  .bind (Desk.along_surroundings (h.columns table)) fun _ => .pure _

/-- A new row needs the columns of its table, and is noted. -/
theorem create_entity (table : Table) :
    Along (Desk.Around R) (context.createEntity table) := by
  refine .bind (h.columns_at_desk table) fun answer => ?_
  cases answer with
  | error failure => exact .pure _
  | ok columns => exact .bind (h.add_tracked false _) fun _ => .pure _

/-- A command is sent over a connection that was opened. -/
theorem send_by
    {execute : Command → StateM (Surroundings σ) (Except DriverError CommandResult)}
    (hexecute : ∀ command, Along R (execute command)) (command : Command) :
    Along (Desk.Around R) (context.sendBy execute command) := by
  refine Desk.along_surroundings (.bind h.connect fun answer => ?_)
  cases answer with
  | error error => exact .pure _
  | ok opened => exact .bind (hexecute command) fun _ => .pure _

/-- Every read of a context is made of such steps. -/
theorem allows_reads : context.AllowsReads (Desk.Around R) where
  columns := h.columns_at_desk
  send := h.send_by h.connection.execute
  sendAsync := h.send_by h.awaited.execute
  recordIndividual := fun table => Desk.along_surroundings (h.recordIndividual table)
  add := fun _ _ desk => Std.Refl.refl desk.around

/-- A procedure call needs the procedures of the schema, and sends its command. -/
theorem call_by
    {execute : Command → StateM (Surroundings σ) (Except DriverError CommandResult)}
    (hexecute : ∀ command, Along R (execute command)) (name : String) (arguments : List Value) :
    Along (Desk.Around R) (context.callBy execute name arguments) := by
  have hdefinition : Along (Desk.Around R) (context.procedureDefinition name) := by
    refine .bind (Desk.along_surroundings h.procedures) fun answer => ?_
    cases answer with
    | error error => exact .pure _
    | ok nodes =>
        dsimp only
        split <;> exact .pure _
  refine .bind hdefinition fun answer => ?_
  cases answer with
  | error failure => exact .pure _
  | ok definition =>
      refine Desk.along_surroundings (.bind h.connect fun answer => ?_)
      cases answer with
      | error error => exact .pure _
      | ok opened =>
          dsimp only
          cases definition.call arguments with
          | error cause => exact .pure _
          | ok command =>
              refine .bind (hexecute command) fun answer => ?_
              cases answer <;> exact .pure _

/-- A submission opens a connection and does what it is made of. -/
theorem submit_by
    {apply : SchemaSource (Surroundings σ) → Connection (Surroundings σ) → Dialect →
      TransactionOptions → Tracked →
      StateM (Surroundings σ) (Except PersistError Nat × Tracked)}
    (happly : ∀ dialect options tracked, Along R
      (apply (Surroundings.schemaSource context.catalog) context.connection dialect options
        tracked)) :
    Along (Desk.Around R) (context.submitBy apply) := by
  intro desk
  have hconnected := h.connect desk.around
  obtain ⟨-, hresult⟩ | ⟨error, around, hopen, hresult⟩ | ⟨around, hopen, hresult⟩ :=
    context.submit_by_cases apply desk
  · rw [hresult]
    exact Std.Refl.refl desk
  · rw [hopen] at hconnected
    rw [hresult]
    exact hconnected
  · rw [hopen] at hconnected
    rw [hresult]
    have happlied := happly context.dialect context.transaction desk.tracked around
    exact IsTrans.trans desk.around around _ hconnected happlied

/-- A submission by blocking calls. -/
theorem submit_updates : Along (Desk.Around R) context.submitUpdates :=
  h.submit_by (along_apply_pending h.schema_source h.connection)

/-- A submission by asynchronous calls. -/
theorem submit_updates_async : Along (Desk.Around R) context.submitUpdatesAsync :=
  h.submit_by (along_apply_pending_async h.schema_source h.awaited)

end AllowsWork

end Context

end Orm
