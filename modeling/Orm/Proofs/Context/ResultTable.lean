import Orm.Proofs.Context.Tracking
import Orm.Proofs.Sql.SelectList

/-!
# The table that the rows of a query become entities of

The rows of a query become entities of the table of its default occurrence, whatever columns were
selected. `bare_columns_own_table_iff` says for which queries every value that is stored
under the bare name of its column was read from an occurrence of that table: not for those that
select columns of a single alias which does not stand for it.
-/

namespace Orm

namespace FlatQuery

variable {flat : FlatQuery}

/-- The columns of the result of a query that gives rows of a table. If none are selected, they are
the columns that the database has for the default occurrence. -/
def outputs (flat : FlatQuery) (stored : List String) : List OutputColumn :=
  if flat.projectionColumns.isEmpty then
    stored.map fun column => ⟨flat.resolve flat.child.aliasName, column, column⟩
  else flat.selectedColumns

/-- What a selected column is: one of those of an alias, under its name. -/
theorem mem_selected_columns {output : OutputColumn} :
    output ∈ flat.selectedColumns ↔
      (∃ columns, flat.projectionColumns.find? output.aliasName = some columns ∧
        output.column ∈ columns) ∧
      output.name = flat.selectedName output.aliasName output.column := by
  obtain ⟨aliasName, column, name⟩ := output
  simp only [selectedColumns, List.mem_flatMap, List.mem_map]
  constructor
  · rintro ⟨⟨_, columns⟩, hentry, _, hcolumn, hsame⟩
    cases hsame
    exact ⟨⟨columns, NameMap.mem_to_list_iff.1 hentry, hcolumn⟩, rfl⟩
  · rintro ⟨⟨columns, hcolumns, hcolumn⟩, hname⟩
    exact ⟨(aliasName, columns), NameMap.mem_to_list_iff.2 hcolumns, column, hcolumn,
      congrArg (OutputColumn.mk aliasName column) hname.symm⟩

/-- A selected column has its bare name if and only if columns of no other alias are selected. -/
theorem selected_name_eq_iff (aliasName column : String) :
    flat.selectedName aliasName column = column ↔ flat.projectionColumns.size ≤ 1 := by
  rw [selectedName]
  split
  · next hseveral =>
    refine iff_of_false (fun hsame => ?_) (by omega)
    have hlength := congrArg String.length hsame
    simp only [String.length_append] at hlength
    have hdot : ".".length = 1 := rfl
    omega
  · next hone => exact iff_of_true rfl (by omega)

/-- The outputs under the bare names of their columns are read from occurrences of the default
table if and only if the only alias of which columns are selected, if there is one, stands for
it. -/
theorem bare_outputs_iff (hchild : flat.Occurs (flat.resolve flat.child.aliasName) flat.child.table)
    (stored : List String) :
    (∀ output ∈ flat.outputs stored, output.name = output.column →
        flat.Occurs output.aliasName flat.child.table) ↔
      ∀ aliasName, flat.projectionColumns.keys = [aliasName] →
        flat.Occurs aliasName flat.child.table := by
  have hsize : flat.projectionColumns.keys.length = flat.projectionColumns.size := List.length_map _
  constructor
  · intro hbare aliasName hkeys
    rw [hkeys, List.length_singleton] at hsize
    have hmem : aliasName ∈ flat.projectionColumns.keys := by rw [hkeys]; exact List.mem_cons_self
    obtain ⟨⟨only, columns⟩, hentry, rfl⟩ := List.mem_map.1 hmem
    have hcolumns := NameMap.mem_to_list_iff.1 hentry
    obtain ⟨column, hcolumn⟩ := List.exists_mem_of_ne_nil _ (find_projection_columns hcolumns).2
    have hname := (flat.selected_name_eq_iff only column).2 hsize.ge
    refine hbare ⟨only, column, column⟩ ?_ rfl
    rw [outputs, if_neg (by simp [NameMap.isEmpty, List.ne_nil_of_mem hentry])]
    exact mem_selected_columns.2 ⟨⟨columns, hcolumns, hcolumn⟩, hname.symm⟩
  · intro honly output houtput hname
    rw [outputs] at houtput
    split at houtput
    · obtain ⟨column, -, rfl⟩ := List.mem_map.1 houtput
      exact hchild
    · obtain ⟨⟨columns, hcolumns, -⟩, hselected⟩ := mem_selected_columns.1 houtput
      have hone := (flat.selected_name_eq_iff _ _).1 (hselected.symm.trans hname)
      have hkey : output.aliasName ∈ flat.projectionColumns.keys :=
        List.mem_map_of_mem (NameMap.mem_to_list_iff.2 hcolumns)
      obtain ⟨other, hkeys⟩ := List.length_eq_one_iff.1
        (le_antisymm (hsize.trans_le hone) (List.length_pos_of_mem hkey))
      rw [hkeys, List.mem_singleton] at hkey
      exact honly _ (hkeys.trans (by rw [hkey]))

/-- A query gives rows of a table if it is not grouped, not counted and without aggregates. -/
theorem require_rows_iff : flat.requireRows = .ok () ↔
    flat.isGrouped = false ∧ flat.count = false ∧ flat.aggregates.isEmpty = true := by
  unfold requireRows
  cases flat.isGrouped <;> cases flat.count <;> cases flat.aggregates.isEmpty <;> simp

/-- Every value that an entity stores under the bare name of its column was read from an occurrence
of the entity's own table. -/
def OwnsBareColumns (flat : FlatQuery) (outputs : List OutputColumn) (entity : Entity) : Prop :=
  ∀ output ∈ outputs, output.name = output.column →
    (entity.values.find? output.name).isSome = true → flat.Occurs output.aliasName entity.table

/-- Entities of a table that store a value for each output own their bare columns if and only if the
outputs under bare names are read from occurrences of the table. -/
theorem owns_bare_columns_iff {outputs : List OutputColumn} {store : EntityStore}
    {ids : List EntityId} {table : Table} (hsome : ids ≠ [])
    (hentities : ∀ id ∈ ids, ∃ entity, store.get? id = some entity ∧ entity.table = table ∧
      ∀ name, (entity.values.find? name).isSome = true ↔ ∃ output ∈ outputs, output.name = name) :
    (∀ id ∈ ids, ∀ entity, store.get? id = some entity → flat.OwnsBareColumns outputs entity) ↔
      ∀ output ∈ outputs, output.name = output.column → flat.Occurs output.aliasName table := by
  constructor
  · intro howns output houtput hname
    obtain ⟨id, hid⟩ := List.exists_mem_of_ne_nil _ hsome
    obtain ⟨entity, hentity, rfl, hstores⟩ := hentities id hid
    exact howns id hid entity hentity output houtput hname ((hstores _).2 ⟨output, houtput, rfl⟩)
  · intro hbare id hid entity hentity output houtput hname _
    obtain ⟨other, hother, rfl, -⟩ := hentities id hid
    obtain rfl := Option.some.inj (hother.symm.trans hentity)
    exact hbare output houtput hname

end FlatQuery

/-- A result has the names of some output columns, and each of its rows has a cell for each. -/
structure ResultSet.Shaped (set : ResultSet) (outputs : List OutputColumn) : Prop where
  columns : set.columns = outputs.map OutputColumn.name
  cells : ∀ row ∈ set.rows, row.length = outputs.length

/-- A row of such a result becomes an entity that stores a value under each of the names. -/
theorem ResultSet.Shaped.is_some_find_iff {set : ResultSet} {outputs : List OutputColumn}
    (h : set.Shaped outputs) {record : List (String × Value)} (hrecord : record ∈ set.records)
    (table : Table) (columns : ColumnMap) (owner : Option OwnerId) (name : String) :
    ((Entity.materialized table columns owner record).values.find? name).isSome = true ↔
      ∃ output ∈ outputs, output.name = name := by
  obtain ⟨row, hrow, rfl⟩ := List.mem_map.1 hrecord
  have hlength : set.columns.length ≤ row.length := by
    rw [h.columns, List.length_map, h.cells row hrow]
  rw [Entity.materialized, Entity.ofValues, NameMap.is_some_find_of_list_iff,
    List.map_fst_zip hlength, h.columns, List.mem_map]

namespace Context

variable {σ : Type} {context : Context σ} {query : Query} {compiled : CompiledQuery}

/-! ## Executions -/

/-- A compiled query has the flat query of its operators. -/
theorem flatten_of_compile (hcompile : context.compile query = .ok compiled) :
    query.flatten = .ok compiled.flat := by
  obtain ⟨flat, hflat, hcompile⟩ := Action.bind_eq_ok_iff.1 hcompile
  obtain ⟨rendered, -, hcompile⟩ := Action.bind_eq_ok_iff.1 hcompile
  cases hcompile
  exact Action.map_error_eq_ok_iff.1 hflat

/-- The statement of a compiled query that gives rows begins with what it reads. -/
theorem compile_reads (hcompile : context.compile query = .ok compiled)
    (hrows : compiled.flat.requireRows = .ok ()) :
    ∃ after, compiled.rendered.text = context.dialect.text ([SqlPiece.word "SELECT"] ++
      (if compiled.flat.distinct then [SqlPiece.word " DISTINCT"] else []) ++
        blankBefore (context.dialect.topClause compiled.flat.skip compiled.flat.take) ++
        [SqlPiece.word " "] ++ compiled.flat.rowList ++ after) := by
  obtain ⟨hgrouped, hcount, haggregates⟩ := FlatQuery.require_rows_iff.1 hrows
  obtain ⟨flat, -, hcompile⟩ := Action.bind_eq_ok_iff.1 hcompile
  obtain ⟨rendered, hrendered, hcompile⟩ := Action.bind_eq_ok_iff.1 hcompile
  cases hcompile
  obtain ⟨pieces, hpieces, rfl⟩ := Action.map_eq_ok_iff.1 (Action.map_error_eq_ok_iff.1 hrendered)
  obtain ⟨after, hreads⟩ := FlatQuery.statement_reads hgrouped hcount haggregates hpieces
  exact ⟨after, congrArg context.dialect.text hreads⟩

/-- A command that is answered leaves the entities as they are. -/
theorem send_ok {command : Command} {desk : Desk σ} {result : CommandResult}
    (h : (context.send command desk).1 = .ok result) :
    (context.send command desk).2.tracked = desk.tracked ∧
      ∃ around, (context.connection.execute command around).1 = .ok result := by
  refine ⟨rfl, (context.connect desk.around).2, ?_⟩
  simp only [send, sendBy, Desk.surroundings, Action.bind_apply] at h
  cases hconnect : (context.connect desk.around).1 with
  | error error =>
      rw [hconnect] at h
      cases h
  | ok answer =>
      rw [hconnect] at h
      exact Action.map_error_eq_ok_iff.1 h

/-- Rows that were read have become entities of their table. -/
theorem read_rows_ok {send : Command → StateM (Desk σ) (Except Failure CommandResult)}
    {table : Table} {columns : ColumnMap} {command : Command} {desk : Desk σ}
    {ids : List EntityId}
    (h : (context.readRows send table columns command desk).1 = .ok ids) :
    ∃ set, (send command desk).1 = .ok (.rows set) ∧
      (send command desk).2.tracked.store.addAll
          (set.records.map (Entity.materialized table columns (some context.owner)))
        = (ids, (context.readRows send table columns command desk).2.tracked.store) := by
  simp only [readRows, Action.bind_apply] at h ⊢
  cases hsent : (send command desk).1 with
  | error failure =>
      rw [hsent] at h
      cases h
  | ok result =>
      rw [hsent] at h
      cases result with
      | rows set =>
          cases h
          exact ⟨set, rfl, rfl⟩
      | affected count => cases h
      | scalar value => cases h
      | sets results => cases h

/-- What a query gives if it succeeds: the rows that the database answers with have become entities
of the table of the query. -/
theorem execute_query_ok (hcompile : context.compile query = .ok compiled)
    (hrows : compiled.flat.requireRows = .ok ()) {desk : Desk σ} {ids : List EntityId}
    (h : (context.executeQuery query desk).1 = .ok ids) :
    ∃ set columns around,
      (context.connection.execute compiled.rendered.command around).1 = .ok (.rows set) ∧
      desk.tracked.store.addAll (set.records.map
          (Entity.materialized compiled.resultTable columns (some context.owner)))
        = (ids, (context.executeQuery query desk).2.tracked.store) := by
  have hprepare : context.prepareRows query = do
      return (← context.columns compiled.resultTable).map fun columns => (compiled, columns) := by
    simp only [prepareRows, hcompile, bind, Except.bind, hrows]
    rfl
  simp only [executeQuery, hprepare, Action.bind_apply, Action.pure_apply] at h ⊢
  cases hcolumns : (context.columns compiled.resultTable desk).1 with
  | error error =>
      rw [hcolumns] at h
      cases h
  | ok columns =>
      rw [hcolumns] at h
      obtain ⟨set, hsent, hadded⟩ := read_rows_ok h
      obtain ⟨htracked, around, hanswer⟩ := send_ok hsent
      rw [htracked] at hadded
      exact ⟨set, columns, around, hanswer, hadded⟩

/-! ## Whose columns the values are -/

/-- A query that gives rows reads the columns of `FlatQuery.outputs`, and each row that it gives is
an entity of the result table with a value for each of them. Those under the bare names of their
columns were read from occurrences of the result table, unless columns of a single alias are
selected and that alias does not stand for it. -/
theorem bare_columns_own_table_iff (hcompile : context.compile query = .ok compiled)
    (hrows : compiled.flat.requireRows = .ok ()) :
    (∃ after, compiled.rendered.text = context.dialect.text
      ([.word "SELECT"] ++ (if compiled.flat.distinct then [.word " DISTINCT"] else []) ++
        blankBefore (context.dialect.topClause compiled.flat.skip compiled.flat.take) ++
        [.word " "] ++ compiled.flat.rowList ++ after)) ∧
    ∀ (desk : Desk σ) (ids : List EntityId), (context.executeQuery query desk).1 = .ok ids →
      let last := (context.executeQuery query desk).2.tracked.store
      ∃ set around,
        (context.connection.execute compiled.rendered.command around).1 = .ok (.rows set) ∧
        ids.length = set.rows.length ∧
        ∀ stored, set.Shaped (compiled.flat.outputs stored) →
          (∀ id ∈ ids, ∃ entity, last.get? id = some entity ∧
            entity.table = compiled.resultTable ∧
            ∀ name, (entity.values.find? name).isSome = true ↔
              ∃ output ∈ compiled.flat.outputs stored, output.name = name) ∧
          (ids ≠ [] →
            ((∀ id ∈ ids, ∀ entity, last.get? id = some entity →
                compiled.flat.OwnsBareColumns (compiled.flat.outputs stored) entity) ↔
              ∀ aliasName, compiled.flat.projectionColumns.keys = [aliasName] →
                compiled.flat.Occurs aliasName compiled.resultTable)) := by
  refine ⟨compile_reads hcompile hrows, ?_⟩
  intro desk ids hids last
  obtain ⟨set, columns, around, hanswer, hadded⟩ := execute_query_ok hcompile hrows hids
  obtain ⟨hlength, hfound⟩ := desk.tracked.store.get_add_all (set.records.map
    (Entity.materialized compiled.resultTable columns (some context.owner)))
  rw [hadded] at hlength hfound
  refine ⟨set, around, hanswer, ?_, fun stored hshaped => ?_⟩
  · simpa [ResultSet.records] using hlength
  have hentities : ∀ id ∈ ids, ∃ entity, last.get? id = some entity ∧
      entity.table = compiled.resultTable ∧
      ∀ name, (entity.values.find? name).isSome = true ↔
        ∃ output ∈ compiled.flat.outputs stored, output.name = name := by
    intro id hid
    obtain ⟨row, hrow, hget⟩ := hfound id hid
    obtain ⟨record, hrecord, rfl⟩ := List.mem_map.1 hrow
    exact ⟨_, hget, rfl, hshaped.is_some_find_iff hrecord _ _ _⟩
  have hchild := FlatQuery.occurs_child_of_flatten (flatten_of_compile hcompile)
  exact ⟨hentities, fun hsome => (FlatQuery.owns_bare_columns_iff hsome hentities).trans
    (FlatQuery.bare_outputs_iff hchild stored)⟩

/-- The orders joined with their customers, of which only the name is selected. -/
def customerNames : Query :=
  let customers := Table.named "dbo" "Customers"
  let orders := Table.named "dbo" "Orders"
  ⟨"o", orders, [
    .join "o" ⟨customers, ["Id"], orders, ["CustomerId"], false, .parents⟩ "c",
    .select (.column ⟨"c", "Name"⟩)]⟩

/-- A connection that answers every command with one name. -/
def answeringAnn : Connection Unit where
  start := fun _ => return .ok ()
  execute := fun _ => return .ok (.rows ⟨["Name"], [[.text "Ann"]]⟩)
  commit := return .ok ()
  rollback := return .ok ()

/-- The name of a customer becomes a column of an order. -/
theorem customer_name_in_order :
    let context := ofNames answeringAnn
    let desk := (alone context).desk (.fresh (.context context) .empty)
    ∃ compiled entity, context.compile customerNames = .ok compiled ∧
      compiled.flat.requireRows = .ok () ∧
      (context.executeQuery customerNames desk).1 = .ok [⟨0⟩] ∧
      (context.executeQuery customerNames desk).2.tracked.store.get? ⟨0⟩ = some entity ∧
      entity.table = Table.named "dbo" "Orders" ∧
      ¬ compiled.flat.OwnsBareColumns (compiled.flat.outputs []) entity := by
  intro context desk
  have hfacts : (context.compile customerNames).map (fun compiled =>
      (compiled.flat.requireRows, compiled.flat.outputs [], compiled.flat.projectionColumns.keys,
        compiled.flat.occurrences, compiled.resultTable))
      = .ok (.ok (), [⟨"c", "Name", "Name"⟩], ["c"],
        [⟨"o", Table.named "dbo" "Orders"⟩, ⟨"c", Table.named "dbo" "Customers"⟩],
        Table.named "dbo" "Orders") := by decide +kernel
  obtain ⟨compiled, hcompile, hcompiled⟩ := Action.map_eq_ok_iff.1 hfacts
  simp only [Prod.mk.injEq] at hcompiled
  obtain ⟨hrows, houtputs, hkeys, hoccurrences, htable⟩ := hcompiled
  have hids : (context.executeQuery customerNames desk).1 = .ok [⟨0⟩] := by decide +kernel
  obtain ⟨-, hexecuted⟩ := bare_columns_own_table_iff hcompile hrows
  obtain ⟨set, around, hanswer, -, hshapes⟩ := hexecuted desk [⟨0⟩] hids
  cases hanswer
  have hshaped : ResultSet.Shaped ⟨["Name"], [[.text "Ann"]]⟩ (compiled.flat.outputs []) := by
    rw [houtputs]
    exact ⟨rfl, by simp⟩
  obtain ⟨hentities, howns⟩ := hshapes [] hshaped
  obtain ⟨entity, hentity, hown, -⟩ := hentities ⟨0⟩ List.mem_cons_self
  refine ⟨compiled, entity, hcompile, hrows, hids, hentity, hown.trans htable, fun hall => ?_⟩
  have hoccurs : compiled.flat.Occurs "c" compiled.resultTable := by
    refine (howns (List.cons_ne_nil _ _)).1 (fun id hid other hother => ?_) "c" hkeys
    rw [List.mem_singleton.1 hid, hentity, Option.some.injEq] at hother
    exact hother ▸ hall
  rw [FlatQuery.Occurs, hoccurrences, htable] at hoccurs
  exact absurd hoccurs (by decide)

end Context

end Orm
