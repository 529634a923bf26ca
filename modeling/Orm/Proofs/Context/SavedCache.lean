import Orm.Proofs.Context.Lookups
import Orm.Proofs.Schema.CacheFile

/-!
# Work with a saved cache

A cache that is rebuilt from its snapshot answers as the original, and so does one that is saved and
loaded again (`rebuilt_cache_answers`). There are two exceptions: that there are no tables or no
procedures is forgotten, and a file with procedures that are nested too deep is not read back.
-/

namespace Orm

variable {σ : Type}

/-- A rebuilt cache answers as the original one, but for an empty list of tables or procedures, of
which it knows nothing. -/
structure SchemaCache.AnswersAs (cache rebuilt : SchemaCache) : Prop where
  tables : rebuilt.tables = cache.tables.filter fun tables => !tables.isEmpty
  columns : ∀ table, rebuilt.columns table = cache.columns table
  primaryKey : ∀ table, rebuilt.primaryKey table = cache.primaryKey table
  relationships : ∀ table, rebuilt.relationships table = cache.relationships table
  procedures : rebuilt.procedures = cache.procedures.filter fun nodes => !nodes.isEmpty
  params : ∀ name, rebuilt.procedureParams.find? name = cache.procedureParams.find? name
  package : ∀ name, rebuilt.packages.find? name = cache.packages.find? name
  individuals : rebuilt.individuals = cache.individuals

/-- A cache that is rebuilt from its snapshot answers as the original, offline or not. -/
theorem SchemaCache.answers_of_snapshot (cache : SchemaCache) (isOffline : Bool) :
    cache.AnswersAs (ofSnapshot { cache.snapshot with isOffline := isOffline }) where
  tables := by
    show ((if (cache.tableMap.getD .empty).isEmpty then none
      else some (cache.tableMap.getD .empty)).map NameMap.values) = _
    rw [SchemaCache.tables]
    cases cache.tableMap with
    | none => rfl
    | some map =>
        obtain ⟨entries, hascending⟩ := map
        cases entries <;> rfl
  columns := fun _ => rfl
  primaryKey := fun _ => rfl
  relationships := fun _ => rfl
  procedures := by
    show (if (cache.procedureList.getD []).isEmpty then none
      else some (cache.procedureList.getD [])) = _
    rw [SchemaCache.procedures]
    cases cache.procedureList with
    | none => rfl
    | some nodes => cases nodes <;> rfl
  params := fun _ => rfl
  package := fun _ => rfl
  individuals := rfl

/-- What is filtered is there and accepted. -/
theorem filter_not_empty_iff {α : Type} {known : Option (List α)} {answer : List α} :
    (known.filter fun found => !found.isEmpty) = some answer ↔
      known = some answer ∧ answer ≠ [] := by
  simp [Option.filter_eq_some_iff]

/-- A cache that is rebuilt from its snapshot answers as the original. So does a cache that is saved
and loaded, if its procedures are not nested too deep for a file; it is offline, and what it answers
to a context is what the original one knew. With procedures that are nested too deep it cannot be
loaded. -/
theorem rebuilt_cache_answers (catalog : Catalog σ) (around : Surroundings σ)
    (cache : SchemaCache) :
    cache.AnswersAs (.ofSnapshot cache.snapshot) ∧
    (SchemaCache.ofSnapshot cache.snapshot).isOffline = cache.isOffline ∧
    ∀ path after, cache.save around.files path = .ok after →
      (cache.snapshot.FitsFile → ∃ loaded, SchemaCache.load after path = .ok loaded ∧
        loaded.isOffline = true ∧ cache.AnswersAs loaded ∧
        let offline := { around with cache := loaded, files := after }
        (∀ answer, (Surroundings.tables catalog offline).1 = .ok answer ↔
          cache.tables = some answer ∧ answer ≠ []) ∧
        (∀ table answer, (Surroundings.columns catalog table offline).1 = .ok answer ↔
          cache.columns table = some answer) ∧
        (∀ table answer, (Surroundings.relationships catalog table offline).1 = .ok answer ↔
          cache.relationships table = some answer) ∧
        ∀ answer, (Surroundings.procedures catalog offline).1 = .ok answer ↔
          cache.procedures = some answer ∧ answer ≠ []) ∧
      (¬ cache.snapshot.FitsFile → SchemaCache.load after path = .error (.malformed path)) := by
  refine ⟨cache.answers_of_snapshot cache.isOffline, rfl, fun path after hsaved => ⟨?_, ?_⟩⟩
  · intro hfits
    have hanswers := cache.answers_of_snapshot true
    refine ⟨_, (SchemaCache.load_of_save hsaved).trans (if_pos hfits), rfl, hanswers, ?_⟩
    intro offline
    have hoffline : offline.cache.isOffline = true := rfl
    refine ⟨fun answer => ?_, fun table answer => ?_, fun table answer => ?_, fun answer => ?_⟩
    · rw [← filter_not_empty_iff, ← hanswers.tables]
      exact Surroundings.lookup_ok_iff_of_offline hoffline
    · rw [← hanswers.columns]
      exact Surroundings.lookup_ok_iff_of_offline hoffline
    · rw [← hanswers.relationships]
      exact Surroundings.lookup_ok_iff_of_offline hoffline
    · rw [← filter_not_empty_iff, ← hanswers.procedures]
      exact Surroundings.lookup_ok_iff_of_offline hoffline
  · intro hdeep
    exact (SchemaCache.load_of_save hsaved).trans (if_neg hdeep)

/-- A cache is saved in the empty working directory. -/
theorem save_in_empty (cache : SchemaCache) :
    cache.save .empty "cache.json"
      = .ok (FileStore.empty.put ["cache.json", "start"] cache.snapshot.fileText) := by
  have hplace : FileStore.place .empty "cache.json" = .ok (.file ["cache.json", "start"]) := by
    decide +kernel
  exact SchemaCache.save_eq_ok_iff.2 ⟨_, hplace, rfl, rfl⟩

/-- A catalog that cannot be reached. -/
def unreachable : Catalog Unit where
  tables := return .error (.discovery "away")
  columns := fun _ => return .error (.discovery "away")
  relationships := fun _ => return .error (.discovery "away")
  procedures := return .error (.discovery "away")
  descriptions := fun _ => return .error (.discovery "away")

/-- A cache with a table and its key is saved and loaded, and answers without its catalog. -/
theorem customers_answered_offline :
    let customers := Table.named "dbo" "Customers"
    let cache := (SchemaCache.empty.learnTables [customers]).learnColumns customers
      (.ofColumns [(Column.plain "Id" .integer "int").primaryKey])
    let online : Surroundings Unit := ⟨cache, .empty, .empty, [], .empty, ()⟩
    ∃ after loaded, cache.save .empty "cache.json" = .ok after ∧
      SchemaCache.load after "cache.json" = .ok loaded ∧
      loaded.primaryKey customers = some "Id" ∧
      (Surroundings.tables unreachable { online with cache := loaded, files := after }).1
        = .ok [customers] := by
  intro customers cache online
  have hsaved := save_in_empty cache
  have hfits : cache.snapshot.FitsFile := nofun
  obtain ⟨-, -, hloads⟩ := rebuilt_cache_answers unreachable online cache
  obtain ⟨loaded, hload, -, hanswers, htables, -⟩ := (hloads _ _ hsaved).1 hfits
  refine ⟨_, loaded, hsaved, hload, ?_, ?_⟩
  · rw [hanswers.primaryKey]
    decide +kernel
  · exact (htables [customers]).2 ⟨by decide +kernel, List.cons_ne_nil _ _⟩

/-- Some roots, one above the other. -/
def roots : Nat → ProcedureNode
  | 0 => .empty
  | count + 1 => .root "a" (roots count)

/-- That there are no tables is forgotten, and procedures below 63 roots are not read back. -/
theorem empty_and_deep_not_rebuilt :
    ((SchemaCache.empty.learnTables []).tables = some [] ∧
      (SchemaCache.ofSnapshot (SchemaCache.empty.learnTables []).snapshot).tables = none) ∧
    ∃ after, (SchemaCache.empty.learnProcedures [roots 63]).save .empty "cache.json" = .ok after ∧
      SchemaCache.load after "cache.json" = .error (.malformed "cache.json") := by
  refine ⟨⟨rfl, rfl⟩, _, save_in_empty _, ?_⟩
  exact (SchemaCache.load_of_save (save_in_empty _)).trans (if_neg (by decide +kernel))

end Orm
