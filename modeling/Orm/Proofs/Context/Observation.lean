import Orm.Proofs.Context.Announcement
import Orm.Proofs.Context.Tracking
import Orm.Proofs.Context.Work

/-!
# Sessions as a subscriber sees them

A `Request` is whatever a context is asked for: what it does with its entities, a number, a
procedure call, or a change of its subscribers. Along every request a subscriber that stays is told
of the commands that the database is asked to execute (`Request.along_perform`), and so it is in
every session (`session_announced`).
-/

namespace Orm

open Orm.Action (Along)

variable {σ α : Type}

/-! ## Desks -/

/-- The surroundings change in nothing that concerns a subscriber but in the rest of the journal. -/
def Surroundings.Silent (subscriber : Nat) (before after : Surroundings σ) : Prop :=
  (∃ made, after.journal = before.journal ++ made ∧
    ∀ entry ∈ made, entry.concerns subscriber = false) ∧
  after.events = before.events ∧ after.outside = before.outside

instance (subscriber : Nat) : IsPreorder (Surroundings σ) (Surroundings.Silent subscriber) where
  refl := fun _ => ⟨⟨[], (List.append_nil _).symm, nofun⟩, rfl, rfl⟩
  trans := by
    rintro first second third ⟨⟨made, hjournal, hmade⟩, hevents, houtside⟩
      ⟨⟨more, hthird, hmore⟩, hlast, hafter⟩
    refine ⟨⟨made ++ more, by rw [hthird, hjournal, List.append_assoc], ?_⟩,
      hlast.trans hevents, hafter.trans houtside⟩
    exact fun entry hentry => (List.mem_append.1 hentry).elim (hmade entry) (hmore entry)

/-- A notice concerns no subscriber to commands. -/
theorem JournalEntry.not_concerns_of_notice {subscriber : Nat} {entry : JournalEntry}
    (h : entry.isNotice = true) : entry.concerns subscriber = false := by
  cases entry with
  | tracked | forgotten | changed | property => rfl
  | connect | start | commit | rollback | execute | discover | event => cases h

namespace Desk

variable (subscriber : Nat)

/-- What an owner is told of its entities concerns no subscriber to commands. -/
theorem silent_receive_all (announces : Bool) (notices : List Notice) (desk : Desk σ) :
    Surroundings.Silent subscriber desk.around
      (notices.foldl (receive announces) desk).around := by
  obtain ⟨made, haround, hmade⟩ := around_receive_all announces notices desk
  rw [haround]
  exact ⟨⟨made, rfl, fun entry hentry =>
    JournalEntry.not_concerns_of_notice (hmade entry hentry)⟩, rfl, rfl⟩

/-- An edit concerns no subscriber to commands. -/
theorem silent_edit (announces : Bool) (change : EntityStore → Edited) (desk : Desk σ) :
    Surroundings.Silent subscriber desk.around (edit announces change desk).2.around :=
  silent_receive_all subscriber announces (change desk.tracked.store).notices
    { desk with tracked := { desk.tracked with store := (change desk.tracked.store).store } }

/-- A new entity concerns no subscriber to commands. -/
theorem silent_add_tracked (announces : Bool) (entity : Entity) (desk : Desk σ) :
    Surroundings.Silent subscriber desk.around (addTracked announces entity desk).2.around :=
  silent_receive_all subscriber announces [.track (desk.tracked.store.add entity).1]
    { desk with tracked := { desk.tracked with store := (desk.tracked.store.add entity).2 } }

end Desk

namespace Context

/-- On a desk a subscriber that hears of commands was told of all that was executed meanwhile. -/
def DeskAnnounced (context : Context σ) (subscriber : Nat) (desk after : Desk σ) : Prop :=
  context.Announced subscriber desk.around after.around

instance (context : Context σ) (subscriber : Nat) :
    IsPreorder (Desk σ) (context.DeskAnnounced subscriber) where
  refl := fun desk => Std.Refl.refl desk.around
  trans := fun first second third => IsTrans.trans first.around second.around third.around

variable {context : Context σ} {subscriber : Nat}

/-- Where nothing concerns a subscriber, it is told of all that is executed. -/
theorem Announced.of_silent {before after : Surroundings σ}
    (h : Surroundings.Silent subscriber before after) :
    context.Announced subscriber before after := by
  obtain ⟨⟨made, hjournal, hmade⟩, hevents, houtside⟩ := h
  intro hears
  have hstill : after.events.Hears subscriber := hevents ▸ hears
  refine ⟨made, hjournal, hstill, .of_others hmade fun log _ => ?_⟩
  rw [houtside]

/-- All that a context does announces its commands. -/
theorem allows_work_announced : context.AllowsWork (context.Announced subscriber) where
  columns := Announced.allows_questions.lookup_columns
  relationships := Announced.allows_questions.lookup_relationships
  procedures := Announced.allows_questions.lookup_procedures
  connect := Announced.along_connect
  connection := Announced.along_connection
  awaited := Announced.along_awaited
  recordIndividual := fun _ _ hears =>
    ⟨[], (List.append_nil _).symm, hears, .of_others nofun fun _ _ => rfl⟩
  notices := fun _ made hmade => .of_silent ⟨⟨made, rfl, fun entry hentry =>
    JournalEntry.not_concerns_of_notice (hmade entry hentry)⟩, rfl, rfl⟩

end Context

/-! ## Workspaces -/

/-- The owner with an identity is alive and a subscriber hears of its commands. -/
def Workspace.Listens (workspace : Workspace σ) (id : OwnerId) (subscriber : Nat) : Prop :=
  ∃ owner, workspace.owner? id = some owner ∧ owner.events.Hears subscriber

/-- An owner that leaves its desk still has the subscribers there. -/
theorem Workspace.listens_leave {workspace : Workspace σ} {id : OwnerId} {owner : Owner σ}
    (howner : workspace.owner? id = some owner) {desk : Desk σ} {subscriber : Nat}
    (hears : desk.around.events.Hears subscriber) :
    (workspace.leave id desk).Listens id subscriber := by
  rw [Listens, owner_leave, if_pos rfl, howner]
  exact ⟨_, rfl, hears⟩

/-- When another owner leaves its desk the subscribers of an owner stay. -/
theorem Workspace.listens_leave_of_ne {workspace : Workspace σ} {id other : OwnerId}
    (hne : other ≠ id) {desk : Desk σ} {subscriber : Nat}
    (hlistens : workspace.Listens id subscriber) :
    (workspace.leave other desk).Listens id subscriber := by
  rw [Listens, owner_leave, if_neg hne]
  exact hlistens

namespace Context

/-- In a workspace a subscriber that hears of the commands of a context was told of all that was
executed meanwhile. -/
abbrev WorkspaceAnnounced (context : Context σ) (subscriber : Nat) :
    Workspace σ → Workspace σ → Prop :=
  context.AnnouncedBy subscriber (fun workspace => workspace.Listens context.owner subscriber)
    Workspace.journal Workspace.outside

namespace WorkspaceAnnounced

variable {context : Context σ} {subscriber : Nat}

/-- What is announced on the desk of a context is announced in the workspace. -/
theorem along_act {action : Owner σ → StateM (Desk σ) α}
    (h : ∀ owner, Along (context.DeskAnnounced subscriber) (action owner)) :
    Along (context.WorkspaceAnnounced subscriber) (Workspace.act context.owner action) := by
  rintro workspace ⟨owner, howner, hears⟩
  obtain ⟨made, hjournal, hstill, hannounces⟩ := h owner (workspace.desk owner) hears
  rw [Workspace.act, howner]
  exact ⟨made, hjournal, Workspace.listens_leave howner hstill, hannounces⟩

/-- An edit of an entity, of whichever owner, is no execution. -/
theorem along_edit (id : EntityId) (change : EntityStore → Edited) :
    Along (context.WorkspaceAnnounced subscriber) (Workspace.edit id change) := by
  rintro workspace ⟨listening, hlistening, hears⟩
  cases howner : workspace.ownerOf? id with
  | none =>
      rw [Workspace.edit_of_none howner]
      exact ⟨[], (List.append_nil _).symm, ⟨listening, hlistening, hears⟩,
        .of_others nofun fun _ _ => rfl⟩
  | some known =>
      obtain ⟨known, owner⟩ := known
      obtain ⟨-, hfound⟩ := Workspace.owner_of_eq_some_iff.1 howner
      obtain ⟨⟨made, hjournal, hmade⟩, hevents, houtside⟩ :=
        Desk.silent_edit subscriber owner.kind.announces change (workspace.desk owner)
      rw [Workspace.edit_of_owner howner]
      refine ⟨made, hjournal, ?_, .of_others hmade fun log _ => congrArg log houtside⟩
      by_cases hsame : known = context.owner
      · subst hsame
        obtain rfl := Option.some.inj (hlistening.symm.trans hfound)
        exact Workspace.listens_leave hlistening (hevents ▸ hears)
      · exact Workspace.listens_leave_of_ne hsame ⟨listening, hlistening, hears⟩

/-- A clone for the context is no execution. -/
theorem along_clone_for (mode : CloneMode) (id : EntityId) :
    Along (context.WorkspaceAnnounced subscriber)
      (Workspace.cloneFor (some context.owner) mode id) := by
  intro workspace hlistens
  cases hsource : workspace.store.get? id with
  | none =>
      rw [Workspace.clone_for_of_none hsource]
      exact (Std.Refl.refl workspace : context.WorkspaceAnnounced subscriber _ _) hlistens
  | some source =>
      obtain ⟨owner, howner, hears⟩ := hlistens
      rw [Workspace.clone_for_of_get hsource, Workspace.add_tracked_of_owner howner rfl]
      exact along_act (fun owner desk => .of_silent
        (Desk.silent_add_tracked subscriber owner.kind.announces _ desk)) workspace
        ⟨owner, howner, hears⟩

end WorkspaceAnnounced

end Context

/-! ## Requests -/

/-- What a context is asked for. -/
inductive Request : Type 1
  | act (action : ContextAction)
  | scalar (α : Type) [Readable α] (query : Query)
  | call (name : String) (arguments : List Value)
  | callAsync (name : String) (arguments : List Value)
  | clear
  | save (path : String)
  | listen (kind : ListenerKind)
  | unlisten (number : Nat)

namespace Request

/-- Performs a request in a workspace. What it answers, an error included, is not needed. -/
def perform (context : Context σ) : Request → StateM (Workspace σ) Unit
  | .act action => action.perform context
  | @scalar α _ query => do
      let _ ← Workspace.act context.owner fun _ =>
        (context.executeScalar query : StateM (Desk σ) (Except Failure α))
  | .call name arguments => do
      let _ ← Workspace.act context.owner fun _ => context.executeProcedure name arguments
  | .callAsync name arguments => do
      let _ ← Workspace.act context.owner fun _ => context.executeProcedureAsync name arguments
  | .clear => do
      let _ ← Workspace.act context.owner fun _ => Context.clearPendingChanges
  | .save path => do
      let _ ← Workspace.act context.owner fun _ => Context.saveCacheTo path
  | .listen kind => do
      let _ ← Workspace.act context.owner fun _ => Desk.surroundings (modify fun around =>
        { around with events := (Subscriptions.subscribe around.events kind).2 })
  | .unlisten number => do
      let _ ← Workspace.act context.owner fun _ => Desk.surroundings (modify fun around =>
        { around with events := (Subscriptions.unsubscribe around.events number).2 })

variable {context : Context σ} {subscriber : Nat}

/-- Every action of a context announces its commands. -/
theorem along_action (action : ContextAction) :
    Along (context.WorkspaceAnnounced subscriber) (action.perform context) := by
  have hwork : context.AllowsWork (context.Announced subscriber) := Context.allows_work_announced
  cases action with
  | create table => exact .bind (.along_act fun _ => hwork.create_entity table) fun _ => .pure _
  | read kind =>
      exact .bind (.along_act fun _ => kind.along hwork.allows_reads) fun _ => .pure _
  | edit id change => exact .bind (.along_edit id _) fun _ => .pure _
  | clone mode id => exact .bind (.along_clone_for mode id) fun _ => .pure _
  | submit => exact .bind (.along_act fun _ => hwork.submit_updates) fun _ => .pure _
  | submitAsync => exact .bind (.along_act fun _ => hwork.submit_updates_async) fun _ => .pure _

/-- Every request that leaves a subscriber its subscription announces its commands to it. -/
theorem along_perform (request : Request) (hstays : request ≠ .unlisten subscriber) :
    Along (context.WorkspaceAnnounced subscriber) (request.perform context) := by
  have hwork : context.AllowsWork (context.Announced subscriber) := Context.allows_work_announced
  cases request with
  | act action => exact along_action action
  | scalar α query =>
      exact .bind (.along_act fun _ => hwork.allows_reads.execute_scalar query)
        fun _ => .pure _
  | call name arguments =>
      exact .bind (.along_act fun _ => hwork.call_by hwork.connection.execute name arguments)
        fun _ => .pure _
  | callAsync name arguments =>
      exact .bind (.along_act fun _ => hwork.call_by hwork.awaited.execute name arguments)
        fun _ => .pure _
  | clear =>
      exact .bind (.along_act fun _ desk => Std.Refl.refl desk.around) fun _ => .pure _
  | save path =>
      refine .bind (.along_act fun _ desk hears => ?_) fun _ => .pure _
      unfold Context.saveCacheTo
      split <;> exact ⟨[], (List.append_nil _).symm, hears, .of_others nofun fun _ _ => rfl⟩
  | listen kind =>
      refine .bind (.along_act fun _ desk hears => ?_) fun _ => .pure _
      exact ⟨[], (List.append_nil _).symm, hears.subscribe kind,
        .of_others nofun fun _ _ => rfl⟩
  | unlisten number =>
      refine .bind (.along_act fun _ desk hears => ?_) fun _ => .pure _
      have hother : number ≠ subscriber := fun hsame => hstays (hsame ▸ rfl)
      exact ⟨[], (List.append_nil _).symm, hears.unsubscribe hother,
        .of_others nofun fun _ _ => rfl⟩

end Request

/-! ## Sessions -/

namespace Context

variable {context : Context σ} {subscriber : Nat} {workspace : Workspace σ}
  {requests : List Request}

/-- A workspace after its context was asked for one thing after the other. -/
def served (context : Context σ) (requests : List Request) (workspace : Workspace σ) :
    Workspace σ :=
  requests.foldl (fun workspace request => (request.perform context workspace).2) workspace

/-- Requests that leave a subscriber its subscription announce their commands to it. -/
theorem announced_served (hstays : ∀ request ∈ requests, request ≠ .unlisten subscriber) :
    context.WorkspaceAnnounced subscriber workspace (context.served requests workspace) := by
  induction requests generalizing workspace with
  | nil => exact Std.Refl.refl workspace
  | cons request rest ih =>
      have hfirst : context.WorkspaceAnnounced subscriber workspace
          (request.perform context workspace).2 :=
        request.along_perform (hstays request List.mem_cons_self) workspace
      have hrest : context.WorkspaceAnnounced subscriber (request.perform context workspace).2
          (context.served rest (request.perform context workspace).2) :=
        ih fun other hother => hstays other (List.mem_cons_of_mem request hother)
      exact IsTrans.trans workspace (request.perform context workspace).2 _ hfirst hrest

/-- However the requests of a session end, a subscriber that stays is told of the commands that the
database is asked to execute: of each once, in this order, with the text and the parameters of the
command, and right before its execution. A database that logs the commands which it is asked to
execute logs just these. -/
theorem session_announced (hlistens : workspace.Listens context.owner subscriber)
    (hstays : ∀ request ∈ requests, request ≠ .unlisten subscriber) :
    ∃ made, (context.served requests workspace).journal = workspace.journal ++ made ∧
      toldTo subscriber made = (executed made).map (Command.event · context.hash) ∧
      made.filter (JournalEntry.concerns subscriber)
        = announcements subscriber context.hash (executed made) ∧
      ∀ log, context.Logs log →
        log (context.served requests workspace).outside
          = log workspace.outside ++ executed made := by
  obtain ⟨made, hjournal, -, hannounces⟩ := announced_served hstays hlistens
  exact ⟨made, hjournal, told_to_of_announcements hannounces.concerns_eq, hannounces.concerns_eq,
    hannounces.log_eq⟩

/-- A connection that logs the commands which it is asked to execute, and executes none. -/
def failingLog : Connection (List Command) where
  start := fun _ => return .ok ()
  execute := fun command log => (.error (.execute "no"), log ++ [command])
  commit := return .ok ()
  rollback := return .ok ()

/-- A context of that connection, for which every table has a key and a name. -/
def failing : Context (List Command) where
  owner := ⟨0⟩
  dialect := .brackets
  database := ⟨fun _ => return .ok (), failingLog⟩
  catalog :=
    { tables := return .ok []
      columns := fun _ => return .ok nameColumns
      relationships := fun _ => return .ok []
      procedures := return .ok []
      descriptions := fun _ => return .ok ⟨none, .empty⟩ }
  connectionString := "Server=failing"
  transaction := default
  defaultConflict := .throw
  cachePath := none

/-- A workspace in which that context was just opened. -/
def failingAlone : Workspace (List Command) :=
  ⟨.empty, #[.fresh (.context failing) .empty], [], .empty, []⟩

/-- A query and an insert, which both fail, with another subscriber that only stays for the first of
them: a subscriber that stays is told of both. -/
theorem failing_commands_announced :
    let requests : List Request := [.listen .once,
      .act (.read (.rows (.ofTable "c" (Table.named "dbo" "Customers")))),
      .act (.create (Table.named "dbo" "Customers")), .act .submit]
    let start := failing.served [.listen .steady] failingAlone
    let after := failing.served requests start
    start.Listens failing.owner 0 ∧ after.outside.length = 2 ∧
      toldTo 0 after.journal = after.outside.map (Command.event · failing.hash) := by
  intro requests start after
  have hnone : ∀ entry ∈ (Subscriptions.empty : EventRegistry).entries, entry.1 < 0 := nofun
  have hlistens : start.Listens failing.owner 0 := ⟨_, rfl, EventRegistry.hears_subscribe hnone⟩
  have hstays : ∀ request ∈ requests, request ≠ .unlisten 0 := by simp [requests]
  have hcount : after.outside.length = 2 := by decide +kernel
  obtain ⟨made, hjournal, htold, -, hlogs⟩ := session_announced hlistens hstays
  have hlog : after.outside = executed made :=
    hlogs id ⟨fun _ _ => rfl, fun _ _ => rfl, fun _ _ => rfl, fun _ => rfl, fun _ => rfl,
      fun _ _ => rfl, fun _ _ => rfl, fun _ => rfl, fun _ => rfl, fun _ _ => rfl,
      fun _ _ => rfl, fun _ => rfl⟩
  have hmade : after.journal = made := hjournal
  exact ⟨hlistens, hcount, by rw [hmade, hlog, htold]⟩

end Context

end Orm
