import Orm.Proofs.Change.Calls
import Orm.Proofs.Context.Session

/-!
# What a subscriber is told

A context publishes every command right before the database is asked to execute it. `Announced` says
so of what an action adds to the journal, for a subscriber that stays: the entries that concern it
are events and executions in turns, each event with the text and the parameters of the command that
follows. It holds along every question, every call and so along every request, whether that succeeds
or not (`session_announced`).
-/

namespace Orm

open Orm.Action (Along)

variable {σ α : Type}

/-! ## Entries of the journal -/

/-- What subscribers are told of a command. -/
def Command.event (command : Command) (hash : String) : CommandEvent :=
  ⟨command.text, command.paramPairs, hash⟩

namespace JournalEntry

/-- The command that the database was asked to execute. -/
def command? : JournalEntry → Option Command
  | .execute command => some command
  | _ => none

/-- The event that a subscriber was told of. -/
def eventFor? (subscriber : Nat) : JournalEntry → Option CommandEvent
  | .event number told => if number = subscriber then some told else none
  | _ => none

/-- Whether an entry is an event for a subscriber, or the execution of a command. -/
def concerns (subscriber : Nat) (entry : JournalEntry) : Bool :=
  entry.command?.isSome || (entry.eventFor? subscriber).isSome

end JournalEntry

/-- The commands that the database was asked to execute, in order. -/
def executed (journal : List JournalEntry) : List Command :=
  journal.filterMap JournalEntry.command?

/-- The events that a subscriber was told of, in order. -/
def toldTo (subscriber : Nat) (journal : List JournalEntry) : List CommandEvent :=
  journal.filterMap (JournalEntry.eventFor? subscriber)

/-- The entries by which a subscriber is told of each of some commands before it is executed. -/
def announcements (subscriber : Nat) (hash : String) (commands : List Command) :
    List JournalEntry :=
  commands.flatMap fun command => [.event subscriber (command.event hash), .execute command]

/-- Of entries that announce some commands the events are those of the commands. -/
theorem told_to_of_announcements {subscriber : Nat} {hash : String} {journal : List JournalEntry}
    {commands : List Command}
    (h : journal.filter (JournalEntry.concerns subscriber)
      = announcements subscriber hash commands) :
    toldTo subscriber journal = commands.map (Command.event · hash) := by
  have hconcerns : toldTo subscriber (journal.filter (JournalEntry.concerns subscriber))
      = toldTo subscriber journal := by
    rw [toldTo, toldTo, List.filterMap_filter]
    refine List.filterMap_congr fun entry _ => ?_
    cases hevent : entry.eventFor? subscriber <;> simp [JournalEntry.concerns, hevent]
  rw [← hconcerns, h, announcements, toldTo, List.filterMap_flatMap, List.map_eq_flatMap]
  refine List.flatMap_congr fun command _ => ?_
  have htold : (JournalEntry.event subscriber (command.event hash)).eventFor? subscriber
      = some (command.event hash) := if_pos rfl
  rw [List.filterMap_cons_some htold]
  rfl

/-- Of the entries of a command that is told to some and then executed one is its execution. -/
theorem executed_of_sent (subscribers : List Nat) (event : CommandEvent) (command : Command) :
    executed (subscribers.map (JournalEntry.event · event) ++ [JournalEntry.execute command])
      = [command] := by
  have htold : (subscribers.map (JournalEntry.event · event)).filterMap JournalEntry.command?
      = [] := by
    refine List.filterMap_eq_nil_iff.2 fun entry hentry => ?_
    obtain ⟨subscriber, -, rfl⟩ := List.mem_map.1 hentry
    rfl
  rw [executed, List.filterMap_append, htold, List.nil_append]
  rfl

/-! ## Subscribers that stay -/

namespace EventRegistry

/-- A subscriber is told of every command, each time once. -/
def Hears (registry : EventRegistry) (subscriber : Nat) : Prop :=
  registry.entries.filter (fun entry => entry.1 = subscriber) = [(subscriber, .steady)] ∧
    subscriber < registry.next

variable {registry : EventRegistry} {subscriber : Nat}

/-- Who subscribes gets a number that no other has, and stays. -/
theorem hears_subscribe (h : ∀ entry ∈ registry.entries, entry.1 < registry.next) :
    Hears (registry.subscribe .steady).2 (registry.subscribe .steady).1 := by
  have hothers : registry.entries.filter (fun entry => entry.1 = registry.next) = [] :=
    List.filter_eq_nil_iff.2 fun entry hentry => by simpa using Nat.ne_of_lt (h entry hentry)
  refine ⟨?_, Nat.lt_succ_self _⟩
  rw [Subscriptions.subscribe, List.filter_append, hothers]
  simp

/-- One that stays is still told when others subscribe. -/
theorem Hears.subscribe (h : registry.Hears subscriber) (kind : ListenerKind) :
    Hears (Subscriptions.subscribe registry kind).2 subscriber := by
  obtain ⟨hentries, hnext⟩ := h
  constructor
  · simp [Subscriptions.subscribe, List.filter_append, hentries, Nat.ne_of_gt hnext]
  · exact Nat.lt_succ_of_lt hnext

/-- One that stays is still told when others leave. -/
theorem Hears.unsubscribe (h : registry.Hears subscriber) {number : Nat}
    (hother : number ≠ subscriber) :
    Hears (Subscriptions.unsubscribe registry number).2 subscriber := by
  obtain ⟨hentries, hnext⟩ := h
  refine ⟨?_, hnext⟩
  rw [Subscriptions.unsubscribe, List.filter_filter, ← hentries]
  refine List.filter_congr fun entry _ => ?_
  by_cases hsame : entry.1 = subscriber <;> simp [hsame, Ne.symm hother]

/-- One that stays is still told after a command was published. -/
theorem Hears.after_publish (h : registry.Hears subscriber) :
    registry.afterPublish.Hears subscriber := by
  obtain ⟨hentries, hnext⟩ := h
  refine ⟨?_, hnext⟩
  have hcommute : registry.afterPublish.entries.filter (fun entry => entry.1 = subscriber)
      = (registry.entries.filter fun entry => entry.1 = subscriber).filter
          fun entry => entry.2 ≠ .once := by
    rw [EventRegistry.afterPublish, List.filter_filter, List.filter_filter]
    exact List.filter_congr fun entry _ => Bool.and_comm _ _
  rw [hcommute, hentries]
  rfl

/-- A published command is told to one that stays. -/
theorem Hears.receivers (h : registry.Hears subscriber) (event : CommandEvent) :
    (registry.receivers.map fun number => JournalEntry.event number event).filter
        (JournalEntry.concerns subscriber)
      = [.event subscriber event] := by
  rw [EventRegistry.receivers, List.map_map, List.filter_map]
  have hconcerns : (JournalEntry.concerns subscriber ∘
        (fun number => JournalEntry.event number event) ∘ Prod.fst)
      = fun entry : Nat × ListenerKind => decide (entry.1 = subscriber) := by
    funext entry
    by_cases hsame : entry.1 = subscriber <;>
      simp [JournalEntry.concerns, JournalEntry.command?, JournalEntry.eventFor?, hsame]
  rw [hconcerns, h.1]
  rfl

end EventRegistry

/-! ## Questions -/

namespace Surroundings

/-- A relation holds along every question to a catalog, and when something is put into the cache. -/
structure AllowsQuestions (catalog : Catalog σ) (R : Surroundings σ → Surroundings σ → Prop) :
    Prop where
  columns : ∀ table, Along R (discover "columns" table.fullName (catalog.columns table))
  relationships : ∀ table,
    Along R (discover "relationships" table.fullName (catalog.relationships table))
  procedures : Along R (discover "sprocs" "" catalog.procedures)
  learn : ∀ around cache, R around { around with cache := cache }

namespace AllowsQuestions

variable {catalog : Catalog σ} {R : Surroundings σ → Surroundings σ → Prop}
  [IsPreorder (Surroundings σ) R] (h : AllowsQuestions catalog R)

include h

/-- A look-up loads what is not in the cache, and puts it there. -/
theorem lookup {what target : String} {known : SchemaCache → Option α}
    {learn : SchemaCache → α → SchemaCache}
    {load : StateM (Surroundings σ) (Except ProviderError α)} (hload : Along R load) :
    Along R (Surroundings.lookup what target known learn load) := by
  intro around
  unfold Surroundings.lookup SchemaCache.consult
  split
  · split <;> exact Std.Refl.refl around
  · cases known around.cache with
    | some answer => exact h.learn around _
    | none =>
        have hloaded := hload around
        rcases hresult : load around with ⟨error | answer, after⟩
        · rw [hresult] at hloaded
          exact IsTrans.trans around after _ hloaded (h.learn after _)
        · rw [hresult] at hloaded
          exact IsTrans.trans around after _ hloaded (h.learn after _)

/-- The columns of a table are looked up by one question. -/
theorem lookup_columns (table : Table) : Along R (Surroundings.columns catalog table) := by
  refine h.lookup (.bind (h.columns table) fun answer => ?_)
  rcases answer with error | _ | ⟨raw, rest⟩ <;> exact .pure _

/-- The relationships of a table are looked up by one question. -/
theorem lookup_relationships (table : Table) :
    Along R (Surroundings.relationships catalog table) :=
  h.lookup (.bind (h.relationships table) fun _ => .pure _)

/-- The procedures are looked up by one question. -/
theorem lookup_procedures : Along R (Surroundings.procedures catalog) := h.lookup h.procedures

/-- A submission asks questions to a catalog. -/
theorem schema_source : (Surroundings.schemaSource catalog).Along R where
  columns := h.lookup_columns
  relationships := fun table => by
    refine .bind (h.lookup_relationships table) fun answer => ?_
    split <;> exact .pure _

end AllowsQuestions

end Surroundings

/-! ## What is announced -/

namespace Context

/-- The database of a context keeps a log of the commands that it is asked to execute. -/
structure Logs (context : Context σ) (log : σ → List Command) : Prop where
  connect : ∀ text state, log (context.database.connect text state).2 = log state
  start : ∀ options state,
    log (context.database.connection.start options state).2 = log state
  execute : ∀ command state,
    log (context.database.connection.execute command state).2 = log state ++ [command]
  commit : ∀ state, log (context.database.connection.commit state).2 = log state
  rollback : ∀ state, log (context.database.connection.rollback state).2 = log state
  startAsync : ∀ options state,
    log (context.database.connection.startAsync options state).2 = log state
  executeAsync : ∀ command state,
    log (context.database.connection.executeAsync command state).2 = log state ++ [command]
  commitAsync : ∀ state, log (context.database.connection.commitAsync state).2 = log state
  rollbackAsync : ∀ state, log (context.database.connection.rollbackAsync state).2 = log state
  columns : ∀ table state, log (context.catalog.columns table state).2 = log state
  relationships : ∀ table state, log (context.catalog.relationships table state).2 = log state
  procedures : ∀ state, log (context.catalog.procedures state).2 = log state

/-- What was added to a journal announces the commands of a context to a subscriber, and is all that
the database was asked to execute meanwhile. -/
structure Announces (context : Context σ) (subscriber : Nat) (before after : σ)
    (made : List JournalEntry) : Prop where
  concerns_eq : made.filter (JournalEntry.concerns subscriber)
    = announcements subscriber context.hash (executed made)
  log_eq : ∀ log, context.Logs log → log after = log before ++ executed made

namespace Announces

variable {context : Context σ} {subscriber : Nat} {first second third : σ}

/-- Entries of other kinds announce nothing. -/
theorem of_others {made : List JournalEntry}
    (hmade : ∀ entry ∈ made, entry.concerns subscriber = false)
    (hlog : ∀ log, context.Logs log → log second = log first) :
    context.Announces subscriber first second made := by
  have hexecuted : executed made = [] := by
    refine List.filterMap_eq_nil_iff.2 fun entry hentry => ?_
    have hother := hmade entry hentry
    rw [JournalEntry.concerns, Bool.or_eq_false_iff] at hother
    simpa using hother.1
  constructor
  · rw [hexecuted]
    exact List.filter_eq_nil_iff.2 fun entry hentry => by simp [hmade entry hentry]
  · intro log hlogs
    rw [hlog log hlogs, hexecuted, List.append_nil]

/-- Announcements go on where they ended. -/
theorem append {made more : List JournalEntry}
    (hfirst : context.Announces subscriber first second made)
    (hsecond : context.Announces subscriber second third more) :
    context.Announces subscriber first third (made ++ more) := by
  have hexecuted : executed (made ++ more) = executed made ++ executed more :=
    List.filterMap_append
  constructor
  · rw [List.filter_append, hfirst.concerns_eq, hsecond.concerns_eq, hexecuted]
    exact List.flatMap_append.symm
  · intro log hlogs
    rw [hsecond.log_eq log hlogs, hfirst.log_eq log hlogs, hexecuted, List.append_assoc]

end Announces

/-- Between two states of something with a journal: if a subscriber hears of commands in the first
one, it was told of all that was executed meanwhile, and still hears. -/
def AnnouncedBy {ρ : Type} (context : Context σ) (subscriber : Nat) (hears : ρ → Prop)
    (journal : ρ → List JournalEntry) (outside : ρ → σ) (before after : ρ) : Prop :=
  hears before → ∃ made, journal after = journal before ++ made ∧ hears after ∧
    context.Announces subscriber (outside before) (outside after) made

instance {ρ : Type} (context : Context σ) (subscriber : Nat) (hears : ρ → Prop)
    (journal : ρ → List JournalEntry) (outside : ρ → σ) :
    IsPreorder ρ (context.AnnouncedBy subscriber hears journal outside) where
  refl := fun _ hears => ⟨[], (List.append_nil _).symm, hears, .of_others nofun fun _ _ => rfl⟩
  trans := by
    intro first second third hfirst hsecond hears
    obtain ⟨made, hjournal, hstill, hannounces⟩ := hfirst hears
    obtain ⟨more, hmore, hlast, hothers⟩ := hsecond hstill
    exact ⟨made ++ more, by rw [hmore, hjournal, List.append_assoc], hlast,
      hannounces.append hothers⟩

/-- In some surroundings a subscriber that hears of commands was told of all that was executed
meanwhile. -/
abbrev Announced (context : Context σ) (subscriber : Nat) :
    Surroundings σ → Surroundings σ → Prop :=
  context.AnnouncedBy subscriber (fun around => around.events.Hears subscriber)
    Surroundings.journal Surroundings.outside

namespace Announced

variable {context : Context σ} {subscriber : Nat}

/-! ### Steps in the surroundings -/

/-- An entry of another kind is no announcement. -/
theorem along_note {entry : JournalEntry} (hentry : entry.concerns subscriber = false) :
    Along (context.Announced subscriber) (Surroundings.note entry) :=
  fun _ hears => ⟨[entry], rfl, hears, .of_others (by simpa using hentry) fun _ _ => rfl⟩

/-- The outside may be asked for anything but the execution of a command. -/
theorem along_ask {action : StateM σ α}
    (haction : ∀ log, context.Logs log → ∀ state, log (action state).2 = log state) :
    Along (context.Announced subscriber) (Surroundings.ask action) :=
  fun around hears => ⟨[], (List.append_nil _).symm, hears,
    .of_others nofun fun log hlogs => haction log hlogs around.outside⟩

/-- A call that is noted and then made, other than the execution of a command. -/
theorem along_noted {entry : JournalEntry} (hentry : entry.concerns subscriber = false)
    {action : StateM σ α}
    (haction : ∀ log, context.Logs log → ∀ state, log (action state).2 = log state) :
    Along (context.Announced subscriber)
      (Surroundings.note entry >>= fun _ => Surroundings.ask action) :=
  .bind (along_note hentry) fun _ => along_ask haction

/-- A command is published and then executed. -/
theorem along_send {execute : Command → StateM σ α}
    (hexecute : ∀ log, context.Logs log → ∀ command state,
      log (execute command state).2 = log state ++ [command])
    (timeout : Option Nat) (command : Command) :
    Along (context.Announced subscriber)
      (Surroundings.send execute context.hash timeout command) := by
  intro around hears
  let sent := Surroundings.timed timeout command
  let told := around.events.receivers.map (JournalEntry.event · (sent.event context.hash))
  have hsent : executed (told ++ [.execute sent]) = [sent] := executed_of_sent _ _ _
  have hjournal : (Surroundings.send execute context.hash timeout command around).2.journal
      = around.journal ++ told ++ [.execute sent] := rfl
  refine ⟨told ++ [.execute sent], by rw [hjournal, List.append_assoc], hears.after_publish, ?_, ?_⟩
  · rw [hsent, List.filter_append, hears.receivers]
    rfl
  · intro log hlogs
    rw [hsent]
    exact hexecute log hlogs sent around.outside

/-- A question to the catalog is no execution. -/
theorem along_discover {question : StateM σ (Except DriverError α)}
    (hquestion : ∀ log, context.Logs log → ∀ state, log (question state).2 = log state)
    (what target : String) :
    Along (context.Announced subscriber) (Surroundings.discover what target question) :=
  .bind (along_note rfl) fun _ => .bind (along_ask hquestion) fun _ => .pure _

/-- The questions to the catalog execute nothing. -/
theorem allows_questions :
    Surroundings.AllowsQuestions context.catalog (context.Announced subscriber) where
  columns := fun table => along_discover (fun _ hlogs => hlogs.columns table) _ _
  relationships := fun table => along_discover (fun _ hlogs => hlogs.relationships table) _ _
  procedures := along_discover (fun _ hlogs => hlogs.procedures) _ _
  learn := fun _ _ hears =>
    ⟨[], (List.append_nil _).symm, hears, .of_others nofun fun _ _ => rfl⟩

/-- The blocking calls of a connection execute what they announce. -/
theorem along_connection : context.connection.Along (context.Announced subscriber) where
  start := fun options => along_noted rfl fun _ hlogs => hlogs.start options
  execute := along_send (fun _ hlogs => hlogs.execute) _
  commit := along_noted rfl fun _ hlogs => hlogs.commit
  rollback := along_noted rfl fun _ hlogs => hlogs.rollback

/-- The asynchronous calls of a connection execute what they announce. -/
theorem along_awaited : context.connection.awaited.Along (context.Announced subscriber) where
  start := fun options => along_noted rfl fun _ hlogs => hlogs.startAsync options
  execute := along_send (fun _ hlogs => hlogs.executeAsync) _
  commit := along_noted rfl fun _ hlogs => hlogs.commitAsync
  rollback := along_noted rfl fun _ hlogs => hlogs.rollbackAsync

/-- To open a connection executes nothing. -/
theorem along_connect : Along (context.Announced subscriber) context.connect :=
  .bind (along_note rfl) fun _ => .bind (along_ask fun _ hlogs => hlogs.connect _) fun _ => .pure _

end Announced

end Context

end Orm
