import Orm.Proofs.Data.NameMap
import Orm.Schema.Cache

/-!
# What a schema cache knows

What a cache answers after it learnt something, and after it was put together from the snapshots of
others. Learning changes one answer and leaves the others alone.
-/

namespace Orm

/-- The key of a table with some columns, if it is a single column. -/
def ColumnMap.singleKey? (columns : ColumnMap) : Option String :=
  match columns.primaryKeys with
  | [key] => some key
  | _ => none

/-- A table has a single key if and only if that is the list of its key columns. -/
theorem ColumnMap.single_key_eq_some_iff {columns : ColumnMap} {key : String} :
    columns.singleKey? = some key ↔ columns.primaryKeys = [key] := by
  unfold singleKey?
  split
  · next only hkeys => simp [hkeys]
  · next hkeys => simpa using hkeys key

namespace SchemaCache

variable (cache : SchemaCache)

/-! ## What is learnt -/

/-- Learnt columns are known under the full name of their table. -/
theorem columns_learn_columns (table other : Table) (columns : ColumnMap) :
    (cache.learnColumns table columns).columns other
      = if other.fullName = table.fullName then some columns else cache.columns other :=
  NameMap.find?_insert ..

/-- With the columns of a table its key is learnt, if it is a single one. -/
theorem primary_key_learn_columns (table other : Table) (columns : ColumnMap) :
    (cache.learnColumns table columns).primaryKey other
      = if other.fullName = table.fullName then columns.singleKey?.or (cache.primaryKey other)
        else cache.primaryKey other := by
  unfold learnColumns ColumnMap.singleKey? primaryKey
  cases columns.primaryKeys with
  | nil => simp
  | cons key rest =>
      cases rest with
      | nil => simp [NameMap.find?_insert]
      | cons => simp

/-- Learnt relationships are known under the full name of their table. -/
theorem relationships_learn_relationships (table other : Table) (set : RelationshipSet) :
    (cache.learnRelationships table set).relationships other
      = if other.fullName = table.fullName then some set else cache.relationships other :=
  NameMap.find?_insert ..

end SchemaCache

/-! ## Questions and facts -/

/-- What can be asked about a schema. -/
inductive SchemaQuestion
  | tables
  | columns (table : Table)
  | relationships (table : Table)
  | procedures
  | descriptions (table : Table)

/-- Whether a cache knows the answer to a question. What is said of a table in words is not kept. -/
def SchemaQuestion.isKnown (cache : SchemaCache) : SchemaQuestion → Bool
  | .tables => cache.tables.isSome
  | .columns table => (cache.columns table).isSome
  | .relationships table => (cache.relationships table).isSome
  | .procedures => cache.procedures.isSome
  | .descriptions _ => false

/-- What a cache can learn. -/
inductive SchemaFact
  | tables (tables : List Table)
  | columns (table : Table) (columns : ColumnMap)
  | relationships (table : Table) (set : RelationshipSet)
  | procedures (nodes : List ProcedureNode)

/-- The question that a fact answers. -/
def SchemaFact.question : SchemaFact → SchemaQuestion
  | .tables _ => .tables
  | .columns table _ => .columns table
  | .relationships table _ => .relationships table
  | .procedures _ => .procedures

/-- The cache that has learnt a fact. -/
def SchemaCache.learn (cache : SchemaCache) : SchemaFact → SchemaCache
  | .tables tables => cache.learnTables tables
  | .columns table columns => cache.learnColumns table columns
  | .relationships table set => cache.learnRelationships table set
  | .procedures nodes => cache.learnProcedures nodes

/-- A fact that was learnt answers its question. -/
theorem SchemaFact.is_known_learn (fact : SchemaFact) (cache : SchemaCache) :
    fact.question.isKnown (cache.learn fact) = true := by
  cases fact with
  | tables | procedures => rfl
  | columns table columns =>
      show ((cache.learnColumns table columns).columns table).isSome = true
      rw [SchemaCache.columns_learn_columns, if_pos rfl]
      rfl
  | relationships table set =>
      show ((cache.learnRelationships table set).relationships table).isSome = true
      rw [SchemaCache.relationships_learn_relationships, if_pos rfl]
      rfl

/-! ## Answers that stay -/

/-- What a cache answers another one answers in the same way. -/
structure SchemaCache.Extends (old new : SchemaCache) : Prop where
  tables : ∀ {answer}, old.tables = some answer → new.tables = some answer
  columns : ∀ {table answer}, old.columns table = some answer → new.columns table = some answer
  relationships : ∀ {table answer},
    old.relationships table = some answer → new.relationships table = some answer
  procedures : ∀ {answer}, old.procedures = some answer → new.procedures = some answer

namespace SchemaCache

variable {old new next : SchemaCache}

/-- A cache answers as itself. -/
theorem Extends.refl (cache : SchemaCache) : cache.Extends cache := ⟨id, id, id, id⟩

/-- Answers stay as long as nothing changes them. -/
theorem Extends.trans (h : old.Extends new) (hnext : new.Extends next) : old.Extends next where
  tables := hnext.tables ∘ h.tables
  columns := hnext.columns ∘ h.columns
  relationships := hnext.relationships ∘ h.relationships
  procedures := hnext.procedures ∘ h.procedures

/-- What is known stays known. -/
theorem Extends.is_known (h : old.Extends new) {question : SchemaQuestion}
    (hknown : question.isKnown old = true) : question.isKnown new = true := by
  cases question with
  | tables =>
      obtain ⟨answer, hanswer⟩ := Option.isSome_iff_exists.1 hknown
      exact Option.isSome_iff_exists.2 ⟨answer, h.tables hanswer⟩
  | columns table =>
      obtain ⟨answer, hanswer⟩ := Option.isSome_iff_exists.1 hknown
      exact Option.isSome_iff_exists.2 ⟨answer, h.columns hanswer⟩
  | relationships table =>
      obtain ⟨answer, hanswer⟩ := Option.isSome_iff_exists.1 hknown
      exact Option.isSome_iff_exists.2 ⟨answer, h.relationships hanswer⟩
  | procedures =>
      obtain ⟨answer, hanswer⟩ := Option.isSome_iff_exists.1 hknown
      exact Option.isSome_iff_exists.2 ⟨answer, h.procedures hanswer⟩
  | descriptions table => cases hknown

variable (cache : SchemaCache)

/-- To learn a fact does not take the cache offline. -/
theorem is_offline_learn (fact : SchemaFact) : (cache.learn fact).isOffline = cache.isOffline := by
  cases fact <;> rfl

/-- To learn the answer to a question that could not be answered changes no answer. -/
theorem extends_learn {fact : SchemaFact} (h : fact.question.isKnown cache = false) :
    cache.Extends (cache.learn fact) := by
  cases fact with
  | tables tables =>
      have hnone : cache.tables = none := by
        simpa [SchemaFact.question, SchemaQuestion.isKnown] using h
      exact ⟨fun hanswer => absurd (hnone.symm.trans hanswer) nofun, id, id, id⟩
  | columns table columns =>
      have hnone : cache.columns table = none := by
        simpa [SchemaFact.question, SchemaQuestion.isKnown] using h
      refine ⟨id, fun {other answer} hanswer => ?_, id, id⟩
      have hother : other.fullName ≠ table.fullName := by
        intro hsame
        rw [SchemaCache.columns, ← hsame] at hnone
        exact absurd (hnone.symm.trans hanswer) nofun
      rw [learn, columns_learn_columns, if_neg hother]
      exact hanswer
  | relationships table set =>
      have hnone : cache.relationships table = none := by
        simpa [SchemaFact.question, SchemaQuestion.isKnown] using h
      refine ⟨id, id, fun {other answer} hanswer => ?_, id⟩
      have hother : other.fullName ≠ table.fullName := by
        intro hsame
        rw [SchemaCache.relationships, ← hsame] at hnone
        exact absurd (hnone.symm.trans hanswer) nofun
      rw [learn, relationships_learn_relationships, if_neg hother]
      exact hanswer
  | procedures nodes =>
      have hnone : cache.procedures = none := by
        simpa [SchemaFact.question, SchemaQuestion.isKnown] using h
      exact ⟨id, id, id, fun hanswer => absurd (hnone.symm.trans hanswer) nofun⟩

/-! ## Merged snapshots -/

variable (other : SchemaCache)

/-- Of two snapshots together the first one says what the columns of a table are, if it does. -/
theorem columns_of_merge (table : Table) :
    (ofSnapshot (cache.snapshot.merge other.snapshot)).columns table
      = (cache.columns table).or (other.columns table) :=
  NameMap.find_union ..

/-- Of two snapshots together the first one says what the single key of a table is, if it does. -/
theorem primary_key_of_merge (table : Table) :
    (ofSnapshot (cache.snapshot.merge other.snapshot)).primaryKey table
      = (cache.primaryKey table).or (other.primaryKey table) :=
  NameMap.find_union ..

end SchemaCache

end Orm
