import Orm.Context.Surroundings
import Orm.Proofs.Action
import Orm.Proofs.Schema.Cache

/-!
# What a cache asks its catalog

A `CacheEvent` is what can happen to a cache while contexts work over it: a question to a catalog
whose answer it takes in or not, a note that a single row was looked up, or a switch between online
and offline. `Leads` says which events can follow each other if catalogs are asked only where that
is warranted. Then answers stay (`Leads.extends_start`), and of the questions under one entry at
most one is answered in a way that is accepted (`Leads.nodup_accepted`).
-/

namespace Orm

variable {σ : Type}

/-! ## Questions -/

namespace SchemaQuestion

/-- The entry of the journal for a question: its kind, and the name under which a cache keeps the
answer. -/
def entry : SchemaQuestion → JournalEntry
  | tables => .discover "tables" ""
  | columns table => .discover "columns" table.fullName
  | relationships table => .discover "relationships" table.fullName
  | procedures => .discover "sprocs" ""
  | descriptions table => .discover "descriptions" table.fullName

/-- What is asked under one entry is known together. -/
theorem is_known_congr {question other : SchemaQuestion} (h : question.entry = other.entry)
    (cache : SchemaCache) : question.isKnown cache = other.isKnown cache := by
  cases question <;> cases other <;>
    simp_all [entry, isKnown, SchemaCache.columns, SchemaCache.relationships]

/-- Asks a catalog, and gives what a cache accepts of the answer: no refusal, no table without
columns, and nothing that is said in words. -/
def ask (catalog : Catalog σ) : SchemaQuestion → StateM σ (Option SchemaFact)
  | tables => return (← catalog.tables).toOption.map .tables
  | columns table =>
      return ((← catalog.columns table).toOption.filter fun raw => !raw.isEmpty).map fun raw =>
        .columns table (.ofColumns (raw.map CatalogColumn.column))
  | relationships table =>
      return (← catalog.relationships table).toOption.map fun found =>
        .relationships table (.partition table found)
  | procedures => return (← catalog.procedures).toOption.map .procedures
  | descriptions table => do
      let _ ← catalog.descriptions table
      return none

/-- What is accepted of an answer answers the question. -/
theorem question_of_ask {question : SchemaQuestion} {catalog : Catalog σ} {state : σ}
    {fact : SchemaFact} (h : (question.ask catalog state).1 = some fact) :
    fact.question = question := by
  cases question with
  | tables | columns table | relationships table | procedures =>
      obtain ⟨answer, -, rfl⟩ := Option.map_eq_some_iff.1 h
      rfl
  | descriptions table => cases h

end SchemaQuestion

/-- Whether an entry of the journal is a question to a catalog. -/
def JournalEntry.isQuestion : JournalEntry → Bool
  | .discover _ _ => true
  | _ => false

/-- The questions in a journal. -/
def questionsIn (journal : List JournalEntry) : List JournalEntry :=
  journal.filter JournalEntry.isQuestion

/-! ## Events -/

/-- A question to a catalog that is in some state, with the cache for which it is asked. -/
structure Discovery (σ : Type) where
  catalog : Catalog σ
  question : SchemaQuestion
  state : σ
  before : SchemaCache

namespace Discovery

/-- What is accepted of the answer. -/
def fact? (call : Discovery σ) : Option SchemaFact :=
  (call.question.ask call.catalog call.state).1

/-- Whether the answer is accepted. -/
def isAccepted (call : Discovery σ) : Bool := call.fact?.isSome

/-- The cache after the answer. -/
def after (call : Discovery σ) : SchemaCache :=
  (call.fact?.map call.before.learn).getD call.before

/-- The entry of the journal for the question. -/
def entry (call : Discovery σ) : JournalEntry := call.question.entry

/-- The question with what is accepted of the answer. -/
def record (call : Discovery σ) : JournalEntry × Option SchemaFact := (call.entry, call.fact?)

/-- The cache is online and does not know the answer. -/
structure Warranted (call : Discovery σ) : Prop where
  online : call.before.isOffline = false
  unknown : call.question.isKnown call.before = false

variable {call : Discovery σ}

/-- No answer takes the cache offline. -/
theorem is_offline_after (call : Discovery σ) :
    call.after.isOffline = call.before.isOffline := by
  unfold after
  cases call.fact? with
  | none => rfl
  | some fact => exact call.before.is_offline_learn fact

/-- An answer that is not accepted leaves the cache exactly as it is. -/
theorem after_of_not_accepted (h : call.isAccepted = false) : call.after = call.before := by
  rw [isAccepted, Option.isSome_eq_false_iff, Option.isNone_iff_eq_none] at h
  rw [after, h]
  rfl

/-- An answer that is accepted is known. -/
theorem is_known_after (h : call.isAccepted = true) :
    call.question.isKnown call.after = true := by
  obtain ⟨fact, hfact⟩ := Option.isSome_iff_exists.1 h
  rw [after, hfact, ← SchemaQuestion.question_of_ask hfact]
  exact fact.is_known_learn call.before

/-- The answer to a question that was warranted changes no other answer. -/
theorem Warranted.extends_after (h : call.Warranted) : call.before.Extends call.after := by
  cases hfact : call.fact? with
  | none =>
      rw [after, hfact]
      exact .refl call.before
  | some fact =>
      rw [after, hfact]
      refine call.before.extends_learn ?_
      rw [SchemaQuestion.question_of_ask hfact]
      exact h.unknown

end Discovery

/-- What can happen to a cache while contexts work over it. -/
inductive CacheEvent (σ : Type)
  | asked (call : Discovery σ)
  | noted (table : Table)
  | switched (isOffline : Bool)

/-- The questions to catalogs among some events. -/
def callsOf (events : List (CacheEvent σ)) : List (Discovery σ) :=
  events.filterMap fun
    | .asked call => some call
    | .noted _ | .switched _ => none

/-- From one cache some events lead to another: catalogs are asked only where that is warranted. -/
inductive Leads : SchemaCache → List (CacheEvent σ) → SchemaCache → Prop
  | done (cache : SchemaCache) : Leads cache [] cache
  | asked {call : Discovery σ} {events : List (CacheEvent σ)} {after : SchemaCache}
      (warranted : call.Warranted) (rest : Leads call.after events after) :
      Leads call.before (.asked call :: events) after
  | noted {cache : SchemaCache} {table : Table} {events : List (CacheEvent σ)}
      {after : SchemaCache} (rest : Leads (cache.recordIndividual table) events after) :
      Leads cache (.noted table :: events) after
  | switched {cache : SchemaCache} {isOffline : Bool} {events : List (CacheEvent σ)}
      {after : SchemaCache} (rest : Leads { cache with isOffline := isOffline } events after) :
      Leads cache (.switched isOffline :: events) after

namespace Leads

variable {start between after : SchemaCache} {events more : List (CacheEvent σ)}

/-- Events go on where others ended. -/
theorem append (h : Leads start events between) (hmore : Leads between more after) :
    Leads start (events ++ more) after := by
  induction h with
  | done => exact hmore
  | asked warranted rest ih => exact .asked warranted (ih hmore)
  | noted rest ih => exact .noted (ih hmore)
  | switched rest ih => exact .switched (ih hmore)

/-- Whatever happens, answers stay. -/
theorem extends_start (h : Leads start events after) : start.Extends after := by
  induction h with
  | done cache => exact .refl cache
  | asked warranted rest ih => exact warranted.extends_after.trans ih
  | noted rest ih => exact ⟨ih.tables, ih.columns, ih.relationships, ih.procedures⟩
  | switched rest ih => exact ⟨ih.tables, ih.columns, ih.relationships, ih.procedures⟩

/-- What is known is not asked again. -/
theorem entry_ne (h : Leads start events after) {question : SchemaQuestion}
    (hknown : question.isKnown start = true) {call : Discovery σ} (hcall : call ∈ callsOf events) :
    call.entry ≠ question.entry := by
  induction h with
  | done => cases hcall
  | @asked first events after warranted rest ih =>
      rcases List.mem_cons.1 hcall with rfl | hrest
      · intro hsame
        have hunknown := warranted.unknown
        rw [SchemaQuestion.is_known_congr hsame, hknown] at hunknown
        cases hunknown
      · exact ih (warranted.extends_after.is_known hknown) hrest
  | noted rest ih => exact ih (by cases question <;> exact hknown) hcall
  | switched rest ih => exact ih (by cases question <;> exact hknown) hcall

/-- A question is asked only where that is warranted. -/
theorem warranted (h : Leads start events after) {call : Discovery σ}
    (hcall : call ∈ callsOf events) : call.Warranted := by
  induction h with
  | done => cases hcall
  | @asked first events after warranted rest ih =>
      rcases List.mem_cons.1 hcall with rfl | hrest
      · exact warranted
      · exact ih hrest
  | noted rest ih => exact ih hcall
  | switched rest ih => exact ih hcall

/-- Where nothing is asked, nothing but notes of single rows and switches happens. -/
theorem eq_of_calls_nil (h : Leads start events after) (hnone : callsOf events = []) :
    ∃ individuals isOffline,
      after = { start with individuals := individuals, isOffline := isOffline } := by
  induction h with
  | done cache => exact ⟨_, _, rfl⟩
  | asked => cases hnone
  | noted rest ih => exact ih hnone
  | switched rest ih => exact ih hnone

/-- Of the questions under one entry at most one is answered in a way that is accepted. -/
theorem nodup_accepted (h : Leads start events after) :
    (((callsOf events).filter Discovery.isAccepted).map Discovery.entry).Nodup := by
  induction h with
  | done => exact List.nodup_nil
  | @asked first events after warranted rest ih =>
      show (((first :: callsOf events).filter Discovery.isAccepted).map Discovery.entry).Nodup
      cases haccepted : first.isAccepted with
      | false =>
          rw [List.filter_cons_of_neg (by simp [haccepted])]
          exact ih
      | true =>
          rw [List.filter_cons_of_pos haccepted, List.map_cons, List.nodup_cons]
          refine ⟨fun hmem => ?_, ih⟩
          obtain ⟨other, hother, hsame⟩ := List.mem_map.1 hmem
          exact rest.entry_ne (Discovery.is_known_after haccepted)
            (List.mem_of_mem_filter hother) hsame
  | noted rest ih => exact ih
  | switched rest ih => exact ih

end Leads

end Orm
