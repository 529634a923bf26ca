import Orm.Proofs.Context.Lookups
import Orm.Proofs.Context.Observation
import Orm.Proofs.Schema.Cache

/-!
# The index of single keys

A cache keeps the columns of a table and, beside them, its key if that is a single column. Columns
can be put in place of others and caches can be merged, but the index only ever gains entries. So it
has the key of the latest columns that had a single one (`primary_key_eq_find`), which are not
always the columns that are known: `single_key_indexed_iff` says when they agree, and which key
`Context.individual` goes by.
-/

namespace Orm

/-- How a cache came to know columns. Columns are loaded, if the loader finds them, or put in place
of others; a cache is opened again from its snapshot, or from the snapshots of two. -/
inductive CacheOrigin
  | opened
  | loaded (origin : CacheOrigin) (table : Table) (found : Except Unit ColumnMap)
  | inserted (origin : CacheOrigin) (table : Table) (columns : ColumnMap)
  | reopened (origin : CacheOrigin)
  | merged (first second : CacheOrigin)

namespace CacheOrigin

/-- The cache of an origin. -/
def cache : CacheOrigin → SchemaCache
  | .opened => .empty
  | .loaded origin table found =>
      (SchemaCache.consult (SchemaCache.columns · table) (SchemaCache.learnColumns · table)
        (fun _ : Unit => (found, ())) origin.cache ()).2.1
  | .inserted origin table columns => origin.cache.learnColumns table columns
  | .reopened origin => .ofSnapshot origin.cache.snapshot
  | .merged first second => .ofSnapshot (first.cache.snapshot.merge second.cache.snapshot)

/-- All columns that were ever recorded for a table, the ones that count before the others: of two
recordings the later one counts, and of two merged caches the first. -/
def recorded : CacheOrigin → Table → List ColumnMap
  | .opened, _ => []
  | .loaded origin other found, table =>
      match origin.recorded other, found with
      | [], .ok columns =>
          if table.fullName = other.fullName then columns :: origin.recorded table
          else origin.recorded table
      | _, _ => origin.recorded table
  | .inserted origin other columns, table =>
      if table.fullName = other.fullName then columns :: origin.recorded table
      else origin.recorded table
  | .reopened origin, table => origin.recorded table
  | .merged first second, table => first.recorded table ++ second.recorded table

/-- A loader is asked if nothing was recorded, and then its columns are put in. -/
theorem loaded_cases (origin : CacheOrigin) (other : Table) (found : Except Unit ColumnMap)
    (h : origin.cache.columns other = (origin.recorded other).head?) :
    (loaded origin other found).cache = origin.cache ∧
        (loaded origin other found).recorded = origin.recorded ∨
      ∃ columns, found = .ok columns ∧
        (loaded origin other found).cache = (inserted origin other columns).cache ∧
        (loaded origin other found).recorded = (inserted origin other columns).recorded := by
  cases hrecorded : origin.recorded other with
  | nil =>
      rw [hrecorded] at h
      cases found with
      | error failed =>
          refine .inl ⟨?_, ?_⟩
          · rw [cache, SchemaCache.consult, h]
            rfl
          · funext table
            simp only [recorded, hrecorded]
      | ok columns =>
          refine .inr ⟨columns, rfl, ?_, ?_⟩
          · rw [cache, SchemaCache.consult, h]
            rfl
          · funext table
            simp only [recorded, hrecorded]
  | cons columns rest =>
      rw [hrecorded] at h
      refine .inl ⟨?_, ?_⟩
      · rw [cache, SchemaCache.consult, h]
        rfl
      · funext table
        simp only [recorded, hrecorded]

/-- The columns of a table that a cache knows are the first that count. -/
theorem columns_eq_head (origin : CacheOrigin) (table : Table) :
    origin.cache.columns table = (origin.recorded table).head? := by
  induction origin generalizing table with
  | opened => rfl
  | loaded origin other found ih =>
      obtain ⟨hcache, hrecorded⟩ | ⟨columns, -, hcache, hrecorded⟩ :=
        loaded_cases origin other found (ih other)
      · rw [hcache, hrecorded, ih]
      · rw [hcache, hrecorded, cache, SchemaCache.columns_learn_columns, recorded, ih]
        split <;> rfl
  | inserted origin other columns ih =>
      rw [cache, SchemaCache.columns_learn_columns, recorded, ih]
      split <;> rfl
  | reopened origin ih => exact ih table
  | merged first second ihFirst ihSecond =>
      rw [cache, SchemaCache.columns_of_merge, ihFirst, ihSecond, recorded, List.head?_append]

/-- The key of a table in the index is the key of the first columns that have a single one. -/
theorem primary_key_eq_find (origin : CacheOrigin) (table : Table) :
    origin.cache.primaryKey table
      = (origin.recorded table).findSome? ColumnMap.singleKey? := by
  have hinserted : ∀ (origin : CacheOrigin) (other : Table) (columns : ColumnMap),
      origin.cache.primaryKey table = (origin.recorded table).findSome? ColumnMap.singleKey? →
        (inserted origin other columns).cache.primaryKey table
          = ((inserted origin other columns).recorded table).findSome? ColumnMap.singleKey? := by
    intro origin other columns h
    rw [cache, SchemaCache.primary_key_learn_columns, recorded, h]
    split
    · rw [List.findSome?_cons]
      cases columns.singleKey? <;> rfl
    · rfl
  induction origin with
  | opened => rfl
  | loaded origin other found ih =>
      obtain ⟨hcache, hrecorded⟩ | ⟨columns, -, hcache, hrecorded⟩ :=
        loaded_cases origin other found (origin.columns_eq_head other)
      · rw [hcache, hrecorded, ih]
      · rw [hcache, hrecorded]
        exact hinserted origin other columns ih
  | inserted origin other columns ih => exact hinserted origin other columns ih
  | reopened origin ih => exact ih
  | merged first second ihFirst ihSecond =>
      rw [cache, SchemaCache.primary_key_of_merge, ihFirst, ihSecond, recorded,
        List.findSome?_append]

/-- The key of a table in the index is the single key of its columns if and only if they have one,
or no columns that were ever recorded for the table had. -/
theorem primary_key_eq_single_key_iff {origin : CacheOrigin} {table : Table} {columns : ColumnMap}
    (h : origin.cache.columns table = some columns) :
    origin.cache.primaryKey table = columns.singleKey? ↔
      columns.singleKey?.isSome = true ∨
        ∀ old ∈ origin.recorded table, old.singleKey? = none := by
  rw [columns_eq_head] at h
  obtain ⟨rest, hrecorded⟩ := List.head?_eq_some_iff.1 h
  rw [primary_key_eq_find, hrecorded, List.findSome?_cons]
  cases hkey : columns.singleKey? with
  | some key => simp
  | none => simp [hkey, List.findSome?_eq_none_iff]

end CacheOrigin

/-! ## Rows by their key -/

namespace Context

variable {σ : Type}

/-- The failure of a search by the single key of a table that has none. -/
def noSingleKey (table : Table) : Failure :=
  .plain .unsupported .provider (table.fullName ++ " has no single-column primary key")

/-- A search by key goes by the key in the index, and without one by that of the columns. -/
theorem individual_of_known {context : Context σ} {desk : Desk σ} {table : Table}
    {columns : ColumnMap} (h : desk.around.cache.columns table = some columns) (key : Value) :
    context.individual table key desk
      = match (desk.around.cache.primaryKey table).or columns.singleKey? with
        | some name => context.individualBy table [(name, key)] desk
        | none => (.error (noSingleKey table), desk) := by
  have hkey : singleKey desk.around.cache table columns
      = match (desk.around.cache.primaryKey table).or columns.singleKey? with
        | some name => .ok name
        | none => .error (noSingleKey table) := by
    unfold singleKey ColumnMap.singleKey?
    cases desk.around.cache.primaryKey table with
    | some name => rfl
    | none =>
        rw [Option.none_or]
        rcases columns.primaryKeys with _ | ⟨name, _ | ⟨second, rest⟩⟩ <;> rfl
  simp only [individual, Action.bind_apply, columns_of_known h]
  have hget : (get : StateM (Desk σ) _) desk = (desk, desk) := rfl
  simp only [hget, hkey]
  cases (desk.around.cache.primaryKey table).or columns.singleKey? <;> rfl

/-- The index says of a table with known columns whether they have a single key, and which, if and
only if they have one or no columns that were ever recorded for the table had. In any case a search
by key goes by the single key of the first recorded columns that have one, in the order in which
they count, and fails if none have. -/
theorem single_key_indexed_iff (context : Context σ) (desk : Desk σ) {origin : CacheOrigin}
    {table : Table} {columns : ColumnMap} (hcache : desk.around.cache = origin.cache)
    (hcolumns : origin.cache.columns table = some columns) (key : Value) :
    ((∀ name, origin.cache.primaryKey table = some name ↔ columns.primaryKeys = [name]) ↔
      (∃ name, columns.primaryKeys = [name]) ∨
        ∀ old ∈ origin.recorded table, ∀ name, old.primaryKeys ≠ [name]) ∧
    context.individual table key desk
      = match (origin.recorded table).findSome? ColumnMap.singleKey? with
        | some name => context.individualBy table [(name, key)] desk
        | none => (.error (noSingleKey table), desk) := by
  constructor
  · have hindexed : (∀ name, origin.cache.primaryKey table = some name ↔
        columns.primaryKeys = [name]) ↔ origin.cache.primaryKey table = columns.singleKey? := by
      simp only [← ColumnMap.single_key_eq_some_iff]
      exact Option.ext_iff.symm
    have hnone : ∀ old : ColumnMap,
        (∀ name, old.primaryKeys ≠ [name]) ↔ old.singleKey? = none := by
      intro old
      simp only [Option.eq_none_iff_forall_ne_some, ne_eq, ColumnMap.single_key_eq_some_iff]
    rw [hindexed, CacheOrigin.primary_key_eq_single_key_iff hcolumns, Option.isSome_iff_exists]
    simp only [ColumnMap.single_key_eq_some_iff, hnone]
  · have hfound : (origin.cache.primaryKey table).or columns.singleKey?
        = (origin.recorded table).findSome? ColumnMap.singleKey? := by
      have hhead := hcolumns
      rw [CacheOrigin.columns_eq_head] at hhead
      obtain ⟨rest, hrecorded⟩ := List.head?_eq_some_iff.1 hhead
      rw [CacheOrigin.primary_key_eq_find, hrecorded, List.findSome?_cons]
      cases columns.singleKey? <;> simp
    rw [individual_of_known (hcache ▸ hcolumns), hcache, hfound]

/-- Order lines, first with a number of their own as key and then with their order and line. -/
def renumbered : CacheOrigin :=
  let lines := Table.named "dbo" "OrderLines"
  let key (name : String) : Column := (Column.plain name .integer "int").primaryKey
  .inserted (.inserted .opened lines (.ofColumns [key "Id"])) lines
    (.ofColumns [key "Order", key "Line"])

/-- A desk at which only the columns of these order lines are known. -/
def renumberedDesk : Desk (List Command) :=
  ⟨⟨.empty, .empty⟩, ⟨renumbered.cache, .empty, .empty, [], .empty, []⟩⟩

/-- The index still has the old key of the order lines, by which a search for one of them goes. -/
theorem order_line_by_old_key :
    let lines := Table.named "dbo" "OrderLines"
    ∃ columns, renumbered.cache.columns lines = some columns ∧
      columns.primaryKeys = ["Line", "Order"] ∧
      ¬ (∀ name, renumbered.cache.primaryKey lines = some name ↔ columns.primaryKeys = [name]) ∧
      (failing.individual lines (.int 7) renumberedDesk).2.around.outside.map Command.text
        = ["SELECT * FROM [dbo].[OrderLines] WHERE [Id] = @p0"] := by
  intro lines
  have hcolumns : renumbered.cache.columns lines = some (.ofColumns
      [(Column.plain "Order" .integer "int").primaryKey,
        (Column.plain "Line" .integer "int").primaryKey]) := by decide +kernel
  obtain ⟨hindexed, hsearch⟩ :=
    single_key_indexed_iff failing renumberedDesk rfl hcolumns (.int 7)
  have hkeys : (ColumnMap.ofColumns [(Column.plain "Order" .integer "int").primaryKey,
      (Column.plain "Line" .integer "int").primaryKey]).primaryKeys = ["Line", "Order"] := by
    decide +kernel
  refine ⟨_, hcolumns, hkeys, ?_, ?_⟩
  · rw [hindexed, hkeys]
    rintro (⟨name, hname⟩ | hnever)
    · cases hname
    · exact hnever (.ofColumns [(Column.plain "Id" .integer "int").primaryKey])
        (List.mem_cons_of_mem _ List.mem_cons_self) "Id" (by decide +kernel)
  · rw [hsearch]
    decide +kernel

end Context

end Orm
