import Orm.Proofs.Context.Discovery
import Orm.Proofs.Context.Lookups
import Orm.Proofs.Context.Work

/-!
# Contexts that share a cache

Contexts take turns over one schema cache. What a turn does to the cache is explained by events, and
the questions among them are those that the journal records and that a log of the outside has
(`Turn.explained`). So it is with every run (`catalog_asked_sparingly`): an offline cache asks
nothing and learns nothing, and an online one is never told again what it was told once.
-/

namespace Orm

open Orm.Action (Along)

variable {σ α : Type}

/-! ## What a context asks -/

/-- The outside of a context keeps a log of the questions to its catalog, each with what is accepted
of the answer. -/
structure Context.LogsQuestions (context : Context σ)
    (log : σ → List (JournalEntry × Option SchemaFact)) : Prop where
  asked : ∀ (question : SchemaQuestion) (state : σ), log (question.ask context.catalog state).2
    = log state ++ [(question.entry, (question.ask context.catalog state).1)]
  connect : ∀ text, Along (fun before after => log after = log before)
    (context.database.connect text)
  connection : context.database.connection.Along fun before after => log after = log before
  awaited : context.database.connection.awaited.Along fun before after => log after = log before

namespace Surroundings

/-- What happened to the cache between some surroundings, in which some contexts were at work: the
questions are those of the journal, and those that their outside logs. -/
structure Explains (contexts : List (Context σ)) (events : List (CacheEvent σ))
    (before after : Surroundings σ) : Prop where
  leads : Leads before.cache events after.cache
  journal_eq : ∃ made, after.journal = before.journal ++ made ∧
    questionsIn made = (callsOf events).map Discovery.entry
  catalogs : ∀ call ∈ callsOf events, ∃ context ∈ contexts, call.catalog = context.catalog
  log_eq : ∀ log, (∀ context ∈ contexts, context.LogsQuestions log) →
    log after.outside = log before.outside ++ (callsOf events).map Discovery.record

namespace Explains

variable {contexts others : List (Context σ)} {events more : List (CacheEvent σ)}
  {first second third : Surroundings σ}

/-- Nothing happened where only the journal got longer, by other entries than questions. -/
theorem of_journal {made : List JournalEntry} (hcache : second.cache = first.cache)
    (hjournal : second.journal = first.journal ++ made)
    (hmade : ∀ entry ∈ made, entry.isQuestion = false)
    (hlog : ∀ log, (∀ context ∈ contexts, context.LogsQuestions log) →
      log second.outside = log first.outside) :
    Explains contexts [] first second where
  leads := hcache ▸ .done first.cache
  journal_eq := ⟨made, hjournal, List.filter_eq_nil_iff.2 fun entry hentry => by
    simp [hmade entry hentry]⟩
  catalogs := nofun
  log_eq := fun log hlogs => by rw [hlog log hlogs]; exact (List.append_nil _).symm

/-- What happened goes on. -/
theorem append (h : Explains contexts events first second)
    (hmore : Explains others more second third) :
    Explains (contexts ++ others) (events ++ more) first third := by
  have hcalls : callsOf (events ++ more) = callsOf events ++ callsOf more :=
    List.filterMap_append
  refine ⟨h.leads.append hmore.leads, ?_, fun call hcall => ?_, fun log hlogs => ?_⟩
  · obtain ⟨made, hjournal, hquestions⟩ := h.journal_eq
    obtain ⟨rest, hrest, hothers⟩ := hmore.journal_eq
    refine ⟨made ++ rest, by rw [hrest, hjournal, List.append_assoc], ?_⟩
    rw [hcalls, List.map_append, ← hquestions, ← hothers]
    exact List.filter_append ..
  · rw [hcalls, List.mem_append] at hcall
    rcases hcall with hcall | hcall
    · obtain ⟨context, hcontext, hcatalog⟩ := h.catalogs call hcall
      exact ⟨context, List.mem_append_left _ hcontext, hcatalog⟩
    · obtain ⟨context, hcontext, hcatalog⟩ := hmore.catalogs call hcall
      exact ⟨context, List.mem_append_right _ hcontext, hcatalog⟩
  · have hfirst := h.log_eq log fun context hcontext =>
      hlogs context (List.mem_append_left _ hcontext)
    have hsecond := hmore.log_eq log fun context hcontext =>
      hlogs context (List.mem_append_right _ hcontext)
    rw [hsecond, hfirst, hcalls, List.map_append, List.append_assoc]

/-- It does not matter how often a context is named. -/
theorem of_subset (h : Explains contexts events first second) (hsubset : contexts ⊆ others) :
    Explains others events first second where
  leads := h.leads
  journal_eq := h.journal_eq
  catalogs := fun call hcall => by
    obtain ⟨context, hcontext, hcatalog⟩ := h.catalogs call hcall
    exact ⟨context, hsubset hcontext, hcatalog⟩
  log_eq := fun log hlogs => h.log_eq log fun context hcontext => hlogs context (hsubset hcontext)

end Explains

/-- A context was at work: it left the cache online or offline, and asked its catalog only for a
cache that is online. -/
def Asks (context : Context σ) (before after : Surroundings σ) : Prop :=
  ∃ events, Explains [context] events before after ∧
    after.cache.isOffline = before.cache.isOffline ∧
    (before.cache.isOffline = true → callsOf events = [])

instance (context : Context σ) : IsPreorder (Surroundings σ) (Asks context) where
  refl := fun around =>
    ⟨[], .of_journal rfl (List.append_nil _).symm nofun fun _ _ => rfl, rfl, fun _ => rfl⟩
  trans := by
    rintro first second third ⟨events, hfirst, hoffline, hnone⟩ ⟨more, hsecond, hstill, hlast⟩
    refine ⟨events ++ more, (hfirst.append hsecond).of_subset (by simp), hstill.trans hoffline,
      fun hbefore => ?_⟩
    rw [callsOf, List.filterMap_append]
    exact List.append_eq_nil_iff.2 ⟨hnone hbefore, hlast (hoffline.trans hbefore)⟩

namespace Asks

variable {context : Context σ} {around after : Surroundings σ}

/-- Work that adds no question to the journal, and of which no log of questions tells. -/
theorem of_journal {made : List JournalEntry} (hcache : after.cache = around.cache)
    (hjournal : after.journal = around.journal ++ made)
    (hmade : ∀ entry ∈ made, entry.isQuestion = false)
    (hlog : ∀ log, context.LogsQuestions log → log after.outside = log around.outside) :
    Asks context around after :=
  ⟨[], .of_journal hcache hjournal hmade fun log hlogs =>
    hlog log (hlogs context List.mem_cons_self), congrArg _ hcache, fun _ => rfl⟩

/-- A question that is warranted, with what is made of the answer. -/
theorem of_question (question : SchemaQuestion) (honline : around.cache.isOffline = false)
    (hunknown : question.isKnown around.cache = false) :
    let call : Discovery σ := ⟨context.catalog, question, around.outside, around.cache⟩
    Asks context around { around with
      journal := around.journal ++ [question.entry]
      outside := (question.ask context.catalog around.outside).2
      cache := call.after } := by
  intro call
  have hentry : questionsIn [question.entry] = [question.entry] := by cases question <;> rfl
  refine ⟨[.asked call], ⟨.asked ⟨honline, hunknown⟩ (.done call.after),
    ⟨[question.entry], rfl, hentry⟩, fun other hother => ?_, fun log hlogs => ?_⟩,
    call.is_offline_after, fun hoffline => ?_⟩
  · obtain rfl := List.mem_singleton.1 hother
    exact ⟨context, List.mem_cons_self, rfl⟩
  · exact (hlogs context List.mem_cons_self).asked question around.outside
  · cases honline.symm.trans hoffline

/-- A look-up asks its question where it is warranted. -/
theorem along_lookup (question : SchemaQuestion) {what target : String}
    {known : SchemaCache → Option α} {learn : SchemaCache → α → SchemaCache}
    {load : StateM (Surroundings σ) (Except ProviderError α)}
    (hknown : ∀ cache, question.isKnown cache = (known cache).isSome)
    (hload : ∀ around, (load around).2 = { around with
      journal := around.journal ++ [question.entry]
      outside := (question.ask context.catalog around.outside).2 })
    (hlearn : ∀ around, (load around).1.toOption.map (learn around.cache)
      = (question.ask context.catalog around.outside).1.map around.cache.learn) :
    Along (Asks context) (lookup what target known learn load) := by
  intro around
  cases hanswer : known around.cache with
  | some answer =>
      rw [lookup_of_known hanswer]
      exact Std.Refl.refl around
  | none =>
      cases hoffline : around.cache.isOffline with
      | true =>
          rw [lookup_of_offline hoffline hanswer]
          exact Std.Refl.refl around
      | false =>
          have hunknown : question.isKnown around.cache = false := by rw [hknown, hanswer]; rfl
          rw [lookup_of_online hoffline hanswer, hlearn, hload]
          exact of_question question hoffline hunknown

/-- An entry that is no question. -/
theorem along_note {entry : JournalEntry} (hentry : entry.isQuestion = false) :
    Along (Asks context) (note entry) :=
  fun _ => of_journal rfl rfl (by simpa using hentry) fun _ _ => rfl

/-- The outside acts as no log of questions tells. -/
theorem along_act {action : StateM σ α} (haction : ∀ log, context.LogsQuestions log →
      Along (fun before after => log after = log before) action) :
    Along (Asks context) (ask action) :=
  fun around => of_journal rfl (List.append_nil _).symm nofun fun log hlogs =>
    haction log hlogs around.outside

/-- A call that is noted and then made. -/
theorem along_noted {entry : JournalEntry} (hentry : entry.isQuestion = false)
    {action : StateM σ α} (haction : ∀ log, context.LogsQuestions log →
      Along (fun before after => log after = log before) action) :
    Along (Asks context) (note entry >>= fun _ => ask action) :=
  .bind (along_note hentry) fun _ => along_act haction

/-- A command is published and executed. -/
theorem along_send {execute : Command → StateM σ α}
    (hexecute : ∀ log, context.LogsQuestions log → ∀ command,
      Along (fun before after => log after = log before) (execute command))
    (hash : String) (timeout : Option Nat) (command : Command) :
    Along (Asks context) (send execute hash timeout command) := by
  refine .bind (fun around => ?_) fun _ => along_noted rfl fun log hlogs => hexecute log hlogs _
  refine of_journal rfl rfl (fun entry hentry => ?_) fun _ _ => rfl
  obtain ⟨subscriber, -, rfl⟩ := List.mem_map.1 hentry
  rfl

end Asks

end Surroundings

namespace Context

open Surroundings (Asks)

variable (context : Context σ)

/-- The look-up of the tables asks for them where that is warranted. -/
theorem along_tables : Along (Asks context) (Surroundings.tables context.catalog) := by
  refine Asks.along_lookup .tables (fun _ => rfl) (fun _ => rfl) fun around => ?_
  rw [Surroundings.discover_apply, SchemaQuestion.ask, Action.bind_apply]
  cases (context.catalog.tables around.outside).1 <;> rfl

/-- The look-up of columns asks for them where that is warranted. -/
theorem along_columns (table : Table) :
    Along (Asks context) (Surroundings.columns context.catalog table) := by
  refine Asks.along_lookup (.columns table) (fun _ => rfl) (fun around => ?_)
    fun around => ?_
  · rw [Action.bind_apply, Surroundings.discover_apply]
    rcases (context.catalog.columns table around.outside).1 with error | _ | ⟨raw, rest⟩ <;> rfl
  · rw [Action.bind_apply, Surroundings.discover_apply, SchemaQuestion.ask, Action.bind_apply]
    rcases (context.catalog.columns table around.outside).1 with error | _ | ⟨raw, rest⟩ <;> rfl

/-- The look-up of relationships asks for them where that is warranted. -/
theorem along_relationships (table : Table) :
    Along (Asks context) (Surroundings.relationships context.catalog table) := by
  refine Asks.along_lookup (.relationships table) (fun _ => rfl) (fun _ => rfl)
    fun around => ?_
  rw [Action.bind_apply, Surroundings.discover_apply, SchemaQuestion.ask, Action.bind_apply]
  cases (context.catalog.relationships table around.outside).1 <;> rfl

/-- The look-up of the procedures asks for them where that is warranted. -/
theorem along_procedures : Along (Asks context) (Surroundings.procedures context.catalog) := by
  refine Asks.along_lookup .procedures (fun _ => rfl) (fun _ => rfl) fun around => ?_
  rw [Surroundings.discover_apply, SchemaQuestion.ask, Action.bind_apply]
  cases (context.catalog.procedures around.outside).1 <;> rfl

/-- What is said of a table in words is asked for while the cache is online. -/
theorem along_descriptions (table : Table) :
    Along (Asks context) (Surroundings.descriptions context.catalog table) := by
  intro around
  rw [Surroundings.descriptions_apply]
  cases hoffline : around.cache.isOffline with
  | true => exact Std.Refl.refl around
  | false => exact Asks.of_question (.descriptions table) hoffline rfl

/-- All that a context does asks its catalog only where that is warranted. -/
theorem allows_work_asks : context.AllowsWork (Asks context) where
  columns := context.along_columns
  relationships := context.along_relationships
  procedures := context.along_procedures
  connect := .bind (Asks.along_note rfl) fun _ =>
    .bind (Asks.along_act fun _ hlogs => hlogs.connect _) fun _ => .pure _
  connection :=
    { start := fun options => Asks.along_noted rfl fun _ hlogs => hlogs.connection.start options
      execute := Asks.along_send (fun _ hlogs => hlogs.connection.execute) _ _
      commit := Asks.along_noted rfl fun _ hlogs => hlogs.connection.commit
      rollback := Asks.along_noted rfl fun _ hlogs => hlogs.connection.rollback }
  awaited :=
    { start := fun options => Asks.along_noted rfl fun _ hlogs => hlogs.awaited.start options
      execute := Asks.along_send (fun _ hlogs => hlogs.awaited.execute) _ _
      commit := Asks.along_noted rfl fun _ hlogs => hlogs.awaited.commit
      rollback := Asks.along_noted rfl fun _ hlogs => hlogs.awaited.rollback }
  recordIndividual := fun table around => by
    refine ⟨[.noted table], ⟨.noted (.done _), ⟨[], (List.append_nil _).symm, rfl⟩, nofun,
      fun log _ => (List.append_nil _).symm⟩, rfl, fun _ => rfl⟩
  notices := fun around made hmade => by
    refine Asks.of_journal rfl rfl (fun entry hentry => ?_) fun _ _ => rfl
    have hnotice := hmade entry hentry
    cases entry with
    | discover => cases hnotice
    | _ => rfl

end Context

/-! ## Turns -/

/-- What can be asked of a context, and of what answers its questions about the schema. -/
inductive Operation : Type 1
  | ask (question : SchemaQuestion)
  | columns (table : Table)
  | create (table : Table)
  | read (kind : ContextRead)
  | scalar (α : Type) [Readable α] (query : Query)
  | edit (announces : Bool) (change : EntityStore → Edited)
  | adopt (announces : Bool) (entity : Entity)
  | call (name : String) (arguments : List Value)
  | callAsync (name : String) (arguments : List Value)
  | submit
  | submitAsync
  | clear
  | save (path : Option String)
  | switch (isOffline : Bool)

/-- Answers a question about the schema. The answer, an error included, is not needed. -/
def Surroundings.answer (catalog : Catalog σ) : SchemaQuestion → StateM (Surroundings σ) Unit
  | .tables => do let _ ← tables catalog
  | .columns table => do let _ ← columns catalog table
  | .relationships table => do let _ ← relationships catalog table
  | .procedures => do let _ ← procedures catalog
  | .descriptions table => do let _ ← descriptions catalog table

/-- Performs an operation. What it answers, an error included, is not needed. -/
def Operation.perform (context : Context σ) : Operation → StateM (Desk σ) Unit
  | .ask question => Desk.surroundings (Surroundings.answer context.catalog question)
  | .columns table => do let _ ← context.columns table
  | .create table => do let _ ← context.createEntity table
  | .read kind => kind.perform context
  | @scalar α _ query => do let _ ← (context.executeScalar query : StateM _ (Except Failure α))
  | .edit announces change => do let _ ← Desk.edit announces change
  | .adopt announces entity => do let _ ← Desk.addTracked announces entity
  | .call name arguments => do let _ ← context.executeProcedure name arguments
  | .callAsync name arguments => do let _ ← context.executeProcedureAsync name arguments
  | .submit => do let _ ← context.submitUpdates
  | .submitAsync => do let _ ← context.submitUpdatesAsync
  | .clear => do let _ ← Context.clearPendingChanges
  | .save none => do let _ ← context.saveCache
  | .save (some path) => do let _ ← Context.saveCacheTo path
  | .switch isOffline => Desk.surroundings (modify fun around =>
      { around with cache := { around.cache with isOffline := isOffline } })

/-- An operation of a context that has some entities, subscribers and watchers at that time. -/
structure Turn (σ : Type) where
  context : Context σ
  operation : Operation
  tracked : Tracked
  events : EventRegistry
  watchers : Subscriptions Nat

/-- Takes a turn. -/
def Turn.take (turn : Turn σ) (around : Surroundings σ) : Surroundings σ :=
  (turn.operation.perform turn.context
    ⟨turn.tracked, { around with events := turn.events, watchers := turn.watchers }⟩).2.around

/-- Takes some turns in order. -/
def Surroundings.afterTurns (turns : List (Turn σ)) (around : Surroundings σ) : Surroundings σ :=
  turns.foldl (fun around turn => turn.take around) around

namespace Operation

open Surroundings (Asks)

variable {context : Context σ}

/-- Every question is asked only where that is warranted. -/
theorem along_answer (question : SchemaQuestion) :
    Along (Asks context) (Surroundings.answer context.catalog question) := by
  cases question with
  | tables => exact .bind context.along_tables fun _ => .pure _
  | columns table => exact .bind (context.along_columns table) fun _ => .pure _
  | relationships table => exact .bind (context.along_relationships table) fun _ => .pure _
  | procedures => exact .bind context.along_procedures fun _ => .pure _
  | descriptions table => exact .bind (context.along_descriptions table) fun _ => .pure _

/-- A cache is saved without a question. -/
theorem along_save (path : String) :
    Along (Desk.Around (Asks context)) (Context.saveCacheTo path : StateM (Desk σ) _) := by
  intro desk
  rw [Context.saveCacheTo]
  cases desk.around.cache.save desk.around.files path with
  | error error => exact Std.Refl.refl desk.around
  | ok files => exact Asks.of_journal rfl (List.append_nil _).symm nofun fun _ _ => rfl

/-- Every operation but the switch between online and offline asks only where that is warranted. -/
theorem along_perform (operation : Operation) (h : ∀ isOffline, operation ≠ .switch isOffline) :
    Along (Desk.Around (Asks context)) (operation.perform context) := by
  have hwork := context.allows_work_asks
  cases operation with
  | ask question => exact Desk.along_surroundings (along_answer question)
  | columns table => exact .bind (hwork.columns_at_desk table) fun _ => .pure _
  | create table => exact .bind (hwork.create_entity table) fun _ => .pure _
  | read kind => exact kind.along hwork.allows_reads
  | scalar α query => exact .bind (hwork.allows_reads.execute_scalar query) fun _ => .pure _
  | edit announces change => exact .bind (hwork.edit announces change) fun _ => .pure _
  | adopt announces entity => exact .bind (hwork.add_tracked announces entity) fun _ => .pure _
  | call name arguments =>
      exact .bind (hwork.call_by hwork.connection.execute name arguments) fun _ => .pure _
  | callAsync name arguments =>
      exact .bind (hwork.call_by hwork.awaited.execute name arguments) fun _ => .pure _
  | submit => exact .bind hwork.submit_updates fun _ => .pure _
  | submitAsync => exact .bind hwork.submit_updates_async fun _ => .pure _
  | clear => exact fun desk => Std.Refl.refl desk.around
  | save path =>
      cases path with
      | some path => exact .bind (along_save path) fun _ => .pure _
      | none =>
          refine .bind ?_ fun _ => .pure _
          unfold Context.saveCache
          split
          · exact .pure _
          · exact .bind (along_save _) fun _ => .pure _
  | switch isOffline => exact absurd rfl (h isOffline)

end Operation

namespace Turn

open Surroundings (Asks Explains)

/-- What a turn does to the cache is explained by events; while the cache is offline there is no
question among them. -/
theorem explained (turn : Turn σ) (around : Surroundings σ) :
    ∃ events, Explains [turn.context] events around (turn.take around) ∧
      (around.cache.isOffline = true → callsOf events = []) := by
  by_cases hswitch : ∃ isOffline, turn.operation = .switch isOffline
  · obtain ⟨isOffline, hoperation⟩ := hswitch
    rw [take, hoperation]
    exact ⟨[.switched isOffline], ⟨.switched (.done _), ⟨[], (List.append_nil _).symm, rfl⟩, nofun,
      fun log _ => (List.append_nil _).symm⟩, fun _ => rfl⟩
  · obtain ⟨events, hexplains, -, hnone⟩ :=
      turn.operation.along_perform (fun isOffline hsame => hswitch ⟨isOffline, hsame⟩)
        (⟨turn.tracked, { around with events := turn.events, watchers := turn.watchers }⟩ : Desk σ)
    exact ⟨events, ⟨hexplains.leads, hexplains.journal_eq, hexplains.catalogs, hexplains.log_eq⟩,
      hnone⟩

end Turn

namespace Surroundings

/-- What some turns do to a cache is explained by events. -/
theorem explained_after_turns (turns : List (Turn σ)) (around : Surroundings σ) :
    ∃ events, Explains (turns.map Turn.context) events around (around.afterTurns turns) := by
  induction turns generalizing around with
  | nil => exact ⟨[], .of_journal rfl (List.append_nil _).symm nofun fun _ _ => rfl⟩
  | cons turn rest ih =>
      obtain ⟨events, hfirst, -⟩ := turn.explained around
      obtain ⟨more, hrest⟩ := ih (turn.take around)
      exact ⟨events ++ more, hfirst.append hrest⟩

/-- Contexts that share a cache ask their catalogs sparingly, whatever is asked of them and however
it ends. What happens to the cache is explained by events, the questions of the journal being among
them. Of the questions under one entry at most one is answered in a way that is accepted, and any
other answer leaves the whole cache as it was. While the cache is offline, a turn asks no question
and changes nothing in the cache but the noted single rows and the switch. -/
theorem catalog_asked_sparingly (turns : List (Turn σ)) (around : Surroundings σ) :
    ∃ events, Explains (turns.map Turn.context) events around (around.afterTurns turns) ∧
      (((callsOf events).filter Discovery.isAccepted).map Discovery.entry).Nodup ∧
      (∀ call ∈ callsOf events, call.before.isOffline = false ∧
        (call.isAccepted = false → call.after = call.before)) ∧
      ∀ (front : List (Turn σ)) (turn : Turn σ) (back : List (Turn σ)),
        turns = front ++ turn :: back →
        let before := around.afterTurns front
        let after := turn.take before
        before.cache.isOffline = true →
          (∃ made, after.journal = before.journal ++ made ∧ questionsIn made = []) ∧
          (∀ log, turn.context.LogsQuestions log → log after.outside = log before.outside) ∧
          ∃ individuals isOffline, after.cache
            = { before.cache with individuals := individuals, isOffline := isOffline } := by
  obtain ⟨events, hexplains⟩ := explained_after_turns turns around
  refine ⟨events, hexplains, hexplains.leads.nodup_accepted, fun call hcall =>
    ⟨(hexplains.leads.warranted hcall).online, call.after_of_not_accepted⟩, ?_⟩
  intro front turn back _ before after hoffline
  obtain ⟨made, hturn, hnone⟩ := turn.explained before
  have hcalls : callsOf made = [] := hnone hoffline
  obtain ⟨entries, hjournal, hquestions⟩ := hturn.journal_eq
  refine ⟨⟨entries, hjournal, by rw [hquestions, hcalls]; rfl⟩, fun log hlogs => ?_,
    hturn.leads.eq_of_calls_nil hcalls⟩
  rw [hturn.log_eq log (by simpa using hlogs), hcalls]
  exact List.append_nil _

end Surroundings

end Orm
