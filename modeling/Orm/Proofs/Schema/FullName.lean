import Orm.Proofs.Schema.Cache

/-!
# Tables that share a full name

Caches know a table by its full name, in which a dot ends the schema. Schemas and names can have
dots themselves, so two tables can have one full name: `full_name_eq_iff` says which. A cache keeps
two tables apart, whatever is loaded for them and for others, if and only if their full names differ
(`tables_kept_apart_iff`).
-/

namespace Orm

/-! ## Full names -/

/-- Where a text goes on to a dot, it is cut there or at a later one. -/
theorem cut_at_dot {left right otherLeft otherRight : String} {between : List Char}
    (hleft : otherLeft.toList = left.toList ++ between)
    (hright : '.' :: right.toList = between ++ '.' :: otherRight.toList) :
    (left = otherLeft ∧ right = otherRight) ∨
      ∃ middle, otherLeft = left ++ "." ++ middle ∧ right = middle ++ "." ++ otherRight := by
  cases between with
  | nil =>
      refine .inl ⟨?_, ?_⟩
      · simpa [String.toList_inj] using hleft.symm
      · simpa [String.toList_inj] using hright
  | cons c middle =>
      obtain ⟨rfl, hrest⟩ := List.cons.inj hright
      refine .inr ⟨String.ofList middle, ?_, ?_⟩
      · simpa [← String.toList_inj] using hleft
      · simpa [← String.toList_inj] using hrest

/-- Two texts around a dot are two others around a dot if and only if they are the same or lie
around different dots. -/
theorem around_dot_eq_iff {left right otherLeft otherRight : String} :
    left ++ "." ++ right = otherLeft ++ "." ++ otherRight ↔
      (left = otherLeft ∧ right = otherRight) ∨
      (∃ middle, otherLeft = left ++ "." ++ middle ∧ right = middle ++ "." ++ otherRight) ∨
      ∃ middle, left = otherLeft ++ "." ++ middle ∧ otherRight = middle ++ "." ++ right := by
  constructor
  · intro h
    have hchars : left.toList ++ '.' :: right.toList
        = otherLeft.toList ++ '.' :: otherRight.toList := by
      simpa using congrArg String.toList h
    obtain ⟨between, hleft, hright⟩ | ⟨between, hleft, hright⟩ :=
      List.append_eq_append_iff.1 hchars
    · exact (cut_at_dot hleft hright).imp id .inl
    · exact (cut_at_dot hleft hright).imp (fun hsame => ⟨hsame.1.symm, hsame.2.symm⟩) .inr
  · rintro (⟨rfl, rfl⟩ | ⟨middle, rfl, rfl⟩ | ⟨middle, rfl, rfl⟩)
    · rfl
    · simp only [String.append_assoc]
    · simp only [String.append_assoc]

namespace Table

/-- A later dot in the full name of one table ends the schema of the other: behind a dot, its schema
goes on with the first part of the name of the one. -/
def ContinuedBy (one other : Table) : Prop :=
  other.schema ≠ "" ∧ ∃ middle, other.schema = (named one.schema middle).fullName ∧
    one.name = middle ++ "." ++ other.name

/-- Tables are known by their schemas and names. -/
theorem named_inj {schema name otherSchema otherName : String} :
    named schema name = named otherSchema otherName ↔
      schema = otherSchema ∧ name = otherName := by
  constructor
  · intro h
    exact ⟨congrArg Table.schema h, congrArg Table.name h⟩
  · rintro ⟨rfl, rfl⟩
    rfl

/-- Without a schema the full name of a table is its name. -/
theorem full_name_of_no_schema (name : String) : (named "" name).fullName = name := rfl

/-- With a schema the full name of a table is both with a dot between them. -/
theorem full_name_of_schema {schema : String} (h : schema ≠ "") (name : String) :
    (named schema name).fullName = schema ++ "." ++ name :=
  if_neg (by simpa using h)

/-- Two tables have one full name if and only if they are the same or different dots of it end their
schemas. -/
theorem full_name_eq_iff {schema name otherSchema otherName : String} :
    (named schema name).fullName = (named otherSchema otherName).fullName ↔
      named schema name = named otherSchema otherName ∨
      (named schema name).ContinuedBy (named otherSchema otherName) ∨
      (named otherSchema otherName).ContinuedBy (named schema name) := by
  rw [named_inj]
  show _ ↔ _ ∨ (otherSchema ≠ "" ∧ ∃ middle, otherSchema = (named schema middle).fullName ∧
      name = middle ++ "." ++ otherName) ∨
    (schema ≠ "" ∧ ∃ middle, schema = (named otherSchema middle).fullName ∧
      otherName = middle ++ "." ++ name)
  by_cases hone : schema = ""
  · subst hone
    by_cases hother : otherSchema = ""
    · subst hother
      simp [full_name_of_no_schema]
    · simp [full_name_of_no_schema, full_name_of_schema hother, hother, Ne.symm hother]
  · by_cases hother : otherSchema = ""
    · subst hother
      rw [eq_comm]
      simp [full_name_of_no_schema, full_name_of_schema hone, hone]
    · simp [full_name_of_schema hone, full_name_of_schema hother, hone, hother, around_dot_eq_iff]

end Table

/-! ## What caches say of a table -/

/-- Two caches say the same of a table. -/
structure SchemaCache.AgreeOn (table : Table) (one other : SchemaCache) : Prop where
  columns : one.columns table = other.columns table
  primaryKey : one.primaryKey table = other.primaryKey table
  relationships : one.relationships table = other.relationships table

/-- The table that a fact is about, if it is about a single one. -/
def SchemaFact.table? : SchemaFact → Option Table
  | .columns table _ | .relationships table _ => some table
  | .tables _ | .procedures _ => none

namespace SchemaCache.AgreeOn

variable {table : Table} {one other third : SchemaCache}

/-- A cache agrees with itself. -/
theorem refl (cache : SchemaCache) : cache.AgreeOn table cache := ⟨rfl, rfl, rfl⟩

/-- Agreement goes both ways. -/
theorem symm (h : one.AgreeOn table other) : other.AgreeOn table one :=
  ⟨h.columns.symm, h.primaryKey.symm, h.relationships.symm⟩

/-- Caches that agree with one cache agree with each other. -/
theorem trans (h : one.AgreeOn table other) (hthird : other.AgreeOn table third) :
    one.AgreeOn table third :=
  ⟨h.columns.trans hthird.columns, h.primaryKey.trans hthird.primaryKey,
    h.relationships.trans hthird.relationships⟩

/-- To learn the same fact keeps caches in agreement. -/
theorem learn (h : one.AgreeOn table other) (fact : SchemaFact) :
    (one.learn fact).AgreeOn table (other.learn fact) := by
  cases fact with
  | tables | procedures => exact ⟨h.columns, h.primaryKey, h.relationships⟩
  | columns known columns =>
      refine ⟨?_, ?_, h.relationships⟩
      · simp only [SchemaCache.learn, columns_learn_columns, h.columns]
      · simp only [SchemaCache.learn, primary_key_learn_columns, h.primaryKey]
  | relationships known set =>
      refine ⟨h.columns, h.primaryKey, ?_⟩
      simp only [SchemaCache.learn, relationships_learn_relationships, h.relationships]

/-- A fact that is not about a table with its full name says nothing of a table. -/
theorem of_learn {fact : SchemaFact}
    (h : ∀ known, fact.table? = some known → table.fullName ≠ known.fullName)
    (cache : SchemaCache) : cache.AgreeOn table (cache.learn fact) := by
  cases fact with
  | tables | procedures => exact ⟨rfl, rfl, rfl⟩
  | columns known columns =>
      have hother := h known rfl
      refine ⟨?_, ?_, rfl⟩
      · rw [SchemaCache.learn, columns_learn_columns, if_neg hother]
      · rw [SchemaCache.learn, primary_key_learn_columns, if_neg hother]
  | relationships known set =>
      refine ⟨rfl, rfl, ?_⟩
      rw [SchemaCache.learn, relationships_learn_relationships, if_neg (h known rfl)]

end SchemaCache.AgreeOn

/-! ## Loads -/

/-- What a cache can be made to take in: the answer of a loader, which can fail and is asked only
for what is not known, or columns in place of those that are known. -/
inductive CacheLoad
  | tables (found : Except Unit (List Table))
  | columns (table : Table) (found : Except Unit ColumnMap)
  | relationships (table : Table) (found : Except Unit RelationshipSet)
  | procedures (found : Except Unit (List ProcedureNode))
  | inserted (table : Table) (columns : ColumnMap)

namespace CacheLoad

/-- The cache after a question to a loader, if the cache needs it. -/
def consulted {α : Type} (known : SchemaCache → Option α) (learn : SchemaCache → α → SchemaCache)
    (found : Except Unit α) (cache : SchemaCache) : SchemaCache :=
  (SchemaCache.consult known learn (fun _ : Unit => (found, ())) cache ()).2.1

/-- A loader that is not needed or fails changes nothing. -/
theorem consulted_eq {α : Type} (known : SchemaCache → Option α)
    (learn : SchemaCache → α → SchemaCache) (found : Except Unit α) (cache : SchemaCache) :
    consulted known learn found cache
      = ((if (known cache).isSome then none else found.toOption).map (learn cache)).getD cache := by
  rw [consulted, SchemaCache.consult]
  cases known cache <;> cases found <;> rfl

/-- The cache after a load. -/
def perform (cache : SchemaCache) : CacheLoad → SchemaCache
  | .tables found => consulted SchemaCache.tables SchemaCache.learnTables found cache
  | .columns table found =>
      consulted (SchemaCache.columns · table) (SchemaCache.learnColumns · table) found cache
  | .relationships table found =>
      consulted (SchemaCache.relationships · table) (SchemaCache.learnRelationships · table) found
        cache
  | .procedures found =>
      consulted SchemaCache.procedures SchemaCache.learnProcedures found cache
  | .inserted table map => cache.learnColumns table map

/-- The table that a load is made for, if it is made for a single one. -/
def table? : CacheLoad → Option Table
  | .columns table _ | .relationships table _ | .inserted table _ => some table
  | .tables _ | .procedures _ => none

/-- What a cache learns by a load, if anything. -/
def fact? (cache : SchemaCache) : CacheLoad → Option SchemaFact
  | .tables found => (if cache.tables.isSome then none else found.toOption).map .tables
  | .columns table found =>
      (if (cache.columns table).isSome then none else found.toOption).map (.columns table)
  | .relationships table found =>
      (if (cache.relationships table).isSome then none else found.toOption).map
        (.relationships table)
  | .procedures found =>
      (if cache.procedures.isSome then none else found.toOption).map .procedures
  | .inserted table map => some (.columns table map)

/-- After a load the cache has learnt what there was to learn. -/
theorem perform_eq (load : CacheLoad) (cache : SchemaCache) :
    load.perform cache = ((load.fact? cache).map cache.learn).getD cache := by
  cases load with
  | tables | columns | relationships | procedures =>
      rw [perform, consulted_eq, fact?, Option.map_map]
      rfl
  | inserted => rfl

/-- What is learnt by a load is about the table that it is made for. -/
theorem table_of_fact {load : CacheLoad} {cache : SchemaCache} {fact : SchemaFact}
    (h : load.fact? cache = some fact) : fact.table? = load.table? := by
  cases load with
  | tables | columns | relationships | procedures =>
      obtain ⟨found, -, rfl⟩ := Option.map_eq_some_iff.1 h
      rfl
  | inserted =>
      cases h
      rfl

/-- Caches that agree on the table of a load learn the same. -/
theorem fact_congr {load : CacheLoad} {table known : Table} {one other : SchemaCache}
    (h : one.AgreeOn table other) (htable : load.table? = some known)
    (hname : table.fullName = known.fullName) : load.fact? one = load.fact? other := by
  cases load with
  | tables | procedures => cases htable
  | columns target found =>
      cases htable
      have hcolumns := h.columns
      rw [SchemaCache.columns, SchemaCache.columns, hname] at hcolumns
      rw [fact?, fact?, SchemaCache.columns, SchemaCache.columns, hcolumns]
  | relationships target found =>
      cases htable
      have hrelationships := h.relationships
      rw [SchemaCache.relationships, SchemaCache.relationships, hname] at hrelationships
      rw [fact?, fact?, SchemaCache.relationships, SchemaCache.relationships, hrelationships]
  | inserted => rfl

/-- A load that is not made for a table with its full name changes nothing for a table. -/
theorem agree_of_perform {load : CacheLoad} {table : Table}
    (h : ∀ known, load.table? = some known → table.fullName ≠ known.fullName)
    (cache : SchemaCache) : cache.AgreeOn table (load.perform cache) := by
  rw [perform_eq]
  cases hfact : load.fact? cache with
  | none => exact .refl cache
  | some fact => exact .of_learn (table_of_fact hfact ▸ h) cache

/-- The same load keeps caches in agreement on a table. -/
theorem agree_perform {table : Table} {one other : SchemaCache} (h : one.AgreeOn table other)
    (load : CacheLoad) : (load.perform one).AgreeOn table (load.perform other) := by
  by_cases hname : ∃ known, load.table? = some known ∧ table.fullName = known.fullName
  · obtain ⟨known, htable, hname⟩ := hname
    rw [perform_eq, perform_eq, fact_congr h htable hname]
    cases load.fact? other with
    | none => exact h
    | some fact => exact h.learn fact
  · have hother : ∀ known, load.table? = some known → table.fullName ≠ known.fullName :=
      fun known htable hsame => hname ⟨known, htable, hsame⟩
    exact (agree_of_perform hother one).symm.trans (h.trans (agree_of_perform hother other))

end CacheLoad

namespace SchemaCache

/-- The cache after some loads. -/
def afterLoads (cache : SchemaCache) (loads : List CacheLoad) : SchemaCache :=
  loads.foldl (fun cache load => load.perform cache) cache

/-- Whatever else is loaded, the loads for one table change nothing for another one with a different
full name. -/
theorem AgreeOn.after_loads {one other : Table} (hname : one.fullName ≠ other.fullName)
    (loads : List CacheLoad) {first second : SchemaCache} (h : first.AgreeOn other second) :
    (first.afterLoads (loads.filter fun load => load.table? ≠ some one)).AgreeOn other
      (second.afterLoads loads) := by
  induction loads generalizing first second with
  | nil => exact h
  | cons load rest ih =>
      by_cases hone : load.table? = some one
      · rw [List.filter_cons_of_neg (by simpa using hone)]
        have hother : ∀ known, load.table? = some known → other.fullName ≠ known.fullName := by
          intro known hknown
          cases hone.symm.trans hknown
          exact hname.symm
        exact ih (h.trans (CacheLoad.agree_of_perform hother second))
      · rw [List.filter_cons_of_pos (by simpa using hone)]
        exact ih (CacheLoad.agree_perform h load)

/-- The loads for one table change nothing for another, whatever else is loaded, if and only if
their full names differ. Different tables have one full name if and only if a later dot in it ends
the schema of one of them. -/
theorem tables_kept_apart_iff (schema name otherSchema otherName : String) :
    let one := Table.named schema name
    let other := Table.named otherSchema otherName
    ((∀ (cache : SchemaCache) (loads : List CacheLoad),
        (cache.afterLoads (loads.filter fun load => load.table? ≠ some one)).AgreeOn other
          (cache.afterLoads loads)) ↔ one.fullName ≠ other.fullName) ∧
    (one.fullName = other.fullName ↔
      one = other ∨ one.ContinuedBy other ∨ other.ContinuedBy one) := by
  intro one other
  refine ⟨⟨fun h hname => ?_, fun hname cache loads => ?_⟩, Table.full_name_eq_iff⟩
  · have hagree := (h .empty [.inserted one .empty]).columns
    rw [List.filter_cons_of_neg (by simp [CacheLoad.table?])] at hagree
    have hknown : (empty.learnColumns one .empty).columns other = some .empty := by
      rw [columns_learn_columns, if_pos hname.symm]
    exact absurd (hagree.trans hknown) nofun
  · exact AgreeOn.after_loads hname loads (.refl cache)

/-- The columns of the table `Lines` in the schema `dbo.Order` are taken for those of the table
`Order.Lines` in the schema `dbo`. -/
theorem lines_taken_for_order_lines :
    let lines := Table.named "dbo.Order" "Lines"
    let orderLines := Table.named "dbo" "Order.Lines"
    let columns := ColumnMap.ofColumns [(Column.plain "Id" .integer "int").primaryKey]
    let cache := empty.afterLoads [.inserted lines columns]
    lines ≠ orderLines ∧ lines.fullName = orderLines.fullName ∧
      cache.columns orderLines = some columns ∧ cache.primaryKey orderLines = some "Id" ∧
      ¬ ∀ (cache : SchemaCache) (loads : List CacheLoad),
        (cache.afterLoads (loads.filter fun load => load.table? ≠ some lines)).AgreeOn orderLines
          (cache.afterLoads loads) := by
  intro lines orderLines columns cache
  obtain ⟨hapart, hshared⟩ := tables_kept_apart_iff "dbo.Order" "Lines" "dbo" "Order.Lines"
  have hcontinued : orderLines.ContinuedBy lines := ⟨by decide, "Order", by decide, by decide⟩
  have hname : lines.fullName = orderLines.fullName := hshared.2 (.inr (.inr hcontinued))
  refine ⟨by decide, hname, by decide +kernel, by decide +kernel, fun h => hapart.1 h hname⟩

end SchemaCache

end Orm
