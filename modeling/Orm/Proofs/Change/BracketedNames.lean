import Orm.Proofs.Change.WriteNames

/-!
# Names in brackets are read back

Whatever strings are used as names of schemas, tables, columns and aliases, the text of a statement
with bracketed names is read as these names in order, and its other tokens come from the kind of the
statement and the numbers of its parts: `names_read_back`. In particular no name ends its bracket
early.
-/

namespace Orm.Brackets

open WriteStatement (insertNames insertSkeleton changedColumns updateSkeleton deleteSkeleton)

/-- The texts of queries without a combination, of inserts, among them those that resolve conflicts,
of updates and deletes, and of the statements for the first rows of a table and for the row with
given keys are read as the names that they are made from, in the skeletons that belong to them. -/
theorem names_read_back :
    (∀ (flat : FlatQuery) (base : TableOccurrence) (projection : NameMap (List String))
      (rendered : RenderedQuery), flat.setOperation = none →
      flat.render .brackets base projection = .ok rendered →
      ReadsAs rendered.text (flat.writtenNames base projection)
        (flat.skeleton base projection)) ∧
    (∀ (entity : Entity) (columns : ColumnMap) (statement : WriteStatement),
      WriteStatement.insert .brackets entity columns = .ok statement →
      ReadsAs (statement.command .brackets).text (insertNames entity columns)
        (insertSkeleton entity columns statement.readsIdentity)) ∧
    (∀ (entity : Entity) (columns : ColumnMap) (filled : List String)
      (statement : WriteStatement),
      WriteStatement.update entity columns filled = .ok (some statement) →
      ReadsAs (statement.command .brackets).text
        (entity.table.writtenNames ++ changedColumns entity columns.primaryKeys filled ++
          columns.primaryKeys)
        (updateSkeleton entity.table (changedColumns entity columns.primaryKeys filled).length
          columns.primaryKeys.length)) ∧
    (∀ (entity : Entity) (columns : ColumnMap) (statement : WriteStatement),
      WriteStatement.delete entity columns = .ok statement →
      ReadsAs (statement.command .brackets).text (entity.table.writtenNames ++ columns.primaryKeys)
        (deleteSkeleton entity.table columns.primaryKeys.length)) ∧
    (∀ (table : Table) (count : Nat),
      ReadsAs (topRowsText .brackets table count) table.writtenNames
        (topRowsSkeleton table count)) ∧
    ∀ (table : Table) (keys : List String),
      ReadsAs (individualText .brackets table keys) (table.writtenNames ++ keys)
        (individualSkeleton table keys.length) := by
  refine ⟨fun flat base projection rendered hcombined hrender => ?_,
    fun entity columns statement hinsert => (WriteStatement.spells_insert hinsert).readsAs,
    fun entity columns filled statement hupdate =>
      (WriteStatement.spells_update hupdate).readsAs,
    fun entity columns statement hdelete => (WriteStatement.spells_delete hdelete).readsAs,
    fun table count => (spells_top_rows table count).readsAs,
    fun table keys => (spells_individual table keys).readsAs⟩
  obtain ⟨pieces, hpieces, rfl⟩ := Action.map_eq_ok_iff.1 hrender
  exact (FlatQuery.spells_statement hcombined hpieces).readsAs

/-! ### Names that would leave their brackets -/

/-- A table in a schema with a closing bracket, without a name of its own. -/
def hostileTable : Table := Table.named "a]b" ""

/-- A query with brackets in its alias and in the column of its condition. -/
def hostileQuery : FlatQuery :=
  { FlatQuery.ofTable "]" hostileTable with
    filters := [.binary .eq (.column ⟨"]", "[x] = 1; --"⟩) (.literal (.text "]"))]
    ordering := [⟨"]", "", .descending⟩]
    take := some 5 }

/-- Columns with such names. -/
def hostileColumns : ColumnMap :=
  .ofColumns [(Column.plain "]" .integer "int").primaryKey,
    Column.plain "[x] = 1; --" .text "nvarchar"]

/-- A row with values in both columns. -/
def hostileRow : Entity :=
  { Entity.materialized hostileTable hostileColumns none
      [("]", .int 1), ("[x] = 1; --", .text "]")] with
    state := .modified ["[x] = 1; --"]
    onConflict := .update }

/-- All statements for the query and the row are read back. -/
theorem hostile_names_read_back :
    (∃ rendered, hostileQuery.render .brackets hostileQuery.base .empty = .ok rendered ∧
      rendered.text = "SELECT TOP 5 []]].* FROM [a]]b].[] AS []]]" ++
        " WHERE ([]]].[[x]] = 1; --] = @p0) ORDER BY []]].[] DESC" ∧
      ReadsAs rendered.text ["]", "a]b", "", "]", "]", "[x] = 1; --", "]", ""]
        (hostileQuery.skeleton hostileQuery.base .empty)) ∧
    (∃ statement, WriteStatement.insert .brackets hostileRow hostileColumns = .ok statement ∧
      ReadsAs (statement.command .brackets).text
        ["a]b", "", "target", "[x] = 1; --", "]", "source", "target", "]", "source", "]",
          "target", "[x] = 1; --", "source", "[x] = 1; --", "[x] = 1; --", "]",
          "source", "[x] = 1; --", "source", "]"]
        (upsertSkeleton hostileTable 2 1 1)) ∧
    (∃ statement, WriteStatement.update hostileRow hostileColumns [] = .ok (some statement) ∧
      (statement.command .brackets).text
        = "UPDATE [a]]b].[] SET [[x]] = 1; --] = @p0 WHERE []]] = @p1" ∧
      ReadsAs (statement.command .brackets).text ["a]b", "", "[x] = 1; --", "]"]
        (updateSkeleton hostileTable 1 1)) ∧
    ∃ statement, WriteStatement.delete hostileRow hostileColumns = .ok statement ∧
      ReadsAs (statement.command .brackets).text ["a]b", "", "]"]
        (deleteSkeleton hostileTable 1) := by
  obtain ⟨hqueries, hinserts, hupdates, hdeletes, -⟩ := names_read_back
  refine ⟨?_, ?_, ?_, ?_⟩
  · have htext : (hostileQuery.render .brackets hostileQuery.base .empty).map RenderedQuery.text
        = .ok ("SELECT TOP 5 []]].* FROM [a]]b].[] AS []]]" ++
          " WHERE ([]]].[[x]] = 1; --] = @p0) ORDER BY []]].[] DESC") := by decide +kernel
    obtain ⟨rendered, hrendered, htext⟩ := Action.map_eq_ok_iff.1 htext
    have hnames : hostileQuery.writtenNames hostileQuery.base .empty
        = ["]", "a]b", "", "]", "]", "[x] = 1; --", "]", ""] := by decide +kernel
    exact ⟨rendered, hrendered, htext, hnames ▸ hqueries _ _ _ _ rfl hrendered⟩
  · have hidentity : (WriteStatement.insert .brackets hostileRow hostileColumns).map
        WriteStatement.readsIdentity = .ok false := by decide +kernel
    obtain ⟨statement, hstatement, -⟩ := Action.map_eq_ok_iff.1 hidentity
    have hnames : insertNames hostileRow hostileColumns
        = ["a]b", "", "target", "[x] = 1; --", "]", "source", "target", "]", "source", "]",
          "target", "[x] = 1; --", "source", "[x] = 1; --", "[x] = 1; --", "]",
          "source", "[x] = 1; --", "source", "]"] := by decide +kernel
    have hskeleton : ∀ readsIdentity, insertSkeleton hostileRow hostileColumns readsIdentity
        = upsertSkeleton hostileTable 2 1 1 := by decide +kernel
    exact ⟨statement, hstatement, hnames ▸ hskeleton _ ▸ hinserts _ _ _ hstatement⟩
  · have htext : (WriteStatement.update hostileRow hostileColumns []).map (Option.map fun
        statement => (statement.command .brackets).text)
        = .ok (some "UPDATE [a]]b].[] SET [[x]] = 1; --] = @p0 WHERE []]] = @p1") := by
      decide +kernel
    obtain ⟨written, hwritten, htext⟩ := Action.map_eq_ok_iff.1 htext
    obtain ⟨statement, rfl, hwrote⟩ := Option.map_eq_some_iff.1 htext
    have hchanged : changedColumns hostileRow hostileColumns.primaryKeys [] = ["[x] = 1; --"] ∧
        hostileColumns.primaryKeys = ["]"] := by decide +kernel
    have hreads := hupdates _ _ _ _ hwritten
    rw [hchanged.1, hchanged.2] at hreads
    exact ⟨statement, hwritten, hwrote, hreads⟩
  · have hvalues : (WriteStatement.delete hostileRow hostileColumns).map WriteStatement.values
        = .ok [.int 1] := by decide +kernel
    obtain ⟨statement, hstatement, -⟩ := Action.map_eq_ok_iff.1 hvalues
    have hkeys : hostileColumns.primaryKeys = ["]"] := by decide +kernel
    have hreads := hdeletes _ _ _ hstatement
    rw [hkeys] at hreads
    exact ⟨statement, hstatement, hreads⟩

end Orm.Brackets
