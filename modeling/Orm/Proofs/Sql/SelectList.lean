import Orm.Proofs.Query.Flattening
import Orm.Sql.Select

/-!
# What the select list of a query reads

A query that gives rows of a table reads all columns of its default occurrence, or the columns that
were selected. `FlatQuery.selectedColumns` lists the latter with their names in the result, and
`select_list_eq` says that the select list reads exactly those.
-/

namespace Orm

/-- A column of a result: the alias and the column that it is read from, and its name. -/
structure OutputColumn where
  aliasName : String
  column : String
  name : String
deriving DecidableEq, Repr

/-- An output column as the select list has it; only a name of its own is written. -/
def OutputColumn.pieces (output : OutputColumn) : SqlPieces :=
  .column output.aliasName output.column ::
    if output.name = output.column then [] else [.word " AS ", .name output.name]

/-- A traversal whose results are known gives them all. -/
theorem map_of_map_m {ε α β : Type} {step : α → Except ε β} {image : α → β} {items : List α}
    {results : List β} (hstep : ∀ item ∈ items, ∀ result, step item = .ok result →
      result = image item) (h : items.mapM step = .ok results) : results = items.map image := by
  induction items generalizing results with
  | nil =>
      cases h
      rfl
  | cons head rest ih =>
      rw [List.mapM_cons] at h
      cases hhead : step head with
      | error error =>
          rw [hhead] at h
          cases h
      | ok first =>
          cases hrest : rest.mapM step with
          | error error =>
              rw [hhead, hrest] at h
              cases h
          | ok others =>
              rw [hhead, hrest] at h
              cases h
              rw [List.map_cons, hstep head List.mem_cons_self first hhead,
                ih (fun item hitem => hstep item (List.mem_cons_of_mem _ hitem)) hrest]

/-- A result of a traversal is the result of one of its items. -/
theorem exists_of_mem_map_m {ε α β : Type} {step : α → Except ε β} {items : List α}
    {results : List β} (h : items.mapM step = .ok results) {result : β} (hmem : result ∈ results) :
    ∃ item ∈ items, step item = .ok result := by
  induction items generalizing results with
  | nil =>
      cases h
      cases hmem
  | cons head rest ih =>
      rw [List.mapM_cons] at h
      obtain ⟨first, hfirst, h⟩ := Action.bind_eq_ok_iff.1 h
      obtain ⟨others, hothers, hresults⟩ := Action.bind_eq_ok_iff.1 h
      cases hresults
      rcases List.mem_cons.1 hmem with rfl | hmem
      · exact ⟨head, List.mem_cons_self, hfirst⟩
      · obtain ⟨item, hitem, hresult⟩ := ih hothers hmem
        exact ⟨item, List.mem_cons_of_mem _ hitem, hresult⟩

/-- A traversal succeeds at each of its items. -/
theorem ok_of_map_m {ε α β : Type} {step : α → Except ε β} {items : List α} {results : List β}
    (h : items.mapM step = .ok results) {item : α} (hmem : item ∈ items) :
    ∃ result, step item = .ok result := by
  induction items generalizing results with
  | nil => cases hmem
  | cons head rest ih =>
      rw [List.mapM_cons] at h
      obtain ⟨first, hfirst, h⟩ := Action.bind_eq_ok_iff.1 h
      obtain ⟨others, hothers, -⟩ := Action.bind_eq_ok_iff.1 h
      rcases List.mem_cons.1 hmem with rfl | hmem
      · exact ⟨first, hfirst⟩
      · exact ih hothers hmem

namespace FlatQuery

variable {flat : FlatQuery} {dialect : Dialect}

/-! ## Selected columns -/

/-- The name of a selected column, which has the alias if columns of several are selected. -/
def selectedName (flat : FlatQuery) (aliasName column : String) : String :=
  if 1 < flat.projectionColumns.size then aliasName ++ "." ++ column else column

/-- The selected columns with their names in the result. -/
def selectedColumns (flat : FlatQuery) : List OutputColumn :=
  flat.projectionColumns.toList.flatMap fun entry =>
    entry.2.map fun column => ⟨entry.1, column, flat.selectedName entry.1 column⟩

/-- Aliases under which columns are selected are resolved, and each has a column. -/
theorem find_projection_columns {aliasName : String} {columns : List String}
    (h : flat.projectionColumns.find? aliasName = some columns) :
    flat.resolve aliasName = aliasName ∧ columns ≠ [] := by
  have hadd : ∀ (refs : List ColumnRef) (known : NameMap (List String)),
      (∀ other found, known.find? other = some found →
        flat.resolve other = other ∧ found ≠ []) →
      ∀ other found, (refs.foldl flat.addProjection known).find? other = some found →
        flat.resolve other = other ∧ found ≠ [] := by
    intro refs
    induction refs with
    | nil => exact fun known hknown => hknown
    | cons ref rest ih =>
        intro known hknown
        refine ih (flat.addProjection known ref) fun other found hfound => ?_
        rw [addProjection, NameMap.find?_insert] at hfound
        split at hfound
        · next hsame =>
          obtain rfl := Option.some.inj hfound
          refine ⟨by rw [hsame, resolve_resolve], ?_⟩
          split
          · next hmem => exact List.ne_nil_of_mem hmem
          · exact List.concat_ne_nil _ _
        · exact hknown other found hfound
  have hnone : ∀ other found, (NameMap.empty : NameMap (List String)).find? other = some found →
      flat.resolve other = other ∧ found ≠ [] := by
    intro other found hfound
    cases hfound
  exact hadd _ _ hnone aliasName columns h

/-- The pieces of a selected column. -/
theorem projection_pieces_eq {aliasName column : String} {pieces : SqlPieces}
    (hresolved : flat.resolve aliasName = aliasName)
    (h : flat.projectionPieces (1 < flat.projectionColumns.size) aliasName column = .ok pieces) :
    pieces = OutputColumn.pieces ⟨aliasName, column, flat.selectedName aliasName column⟩ := by
  rw [projectionPieces, columnPiece, declared, hresolved] at h
  split at h
  · cases h
    by_cases hseveral : 1 < flat.projectionColumns.size
    · simp [OutputColumn.pieces, selectedName, hseveral]
    · simp [OutputColumn.pieces, selectedName, hseveral]
  · cases h

/-- What a query that gives rows of a table reads: all columns of the default occurrence, or the
selected columns under their names. -/
def rowList (flat : FlatQuery) : SqlPieces :=
  if flat.projectionColumns.isEmpty then [.star (flat.resolve flat.child.aliasName)]
  else separated ", " (flat.selectedColumns.map OutputColumn.pieces)

/-- The select list of a query that gives rows of a table reads that. -/
theorem select_list_eq (hgrouped : flat.isGrouped = false)
    (haggregates : flat.aggregates.isEmpty = true) {pieces : SqlPieces}
    (h : flat.selectList dialect flat.projectionColumns = .ok pieces) :
    pieces = flat.rowList := by
  rw [rowList]
  simp only [selectList, hgrouped, haggregates, Bool.not_true, Bool.false_eq_true, if_false] at h
  by_cases hempty : flat.projectionColumns.isEmpty = true
  · rw [if_pos hempty] at h ⊢
    rw [declared] at h
    split at h
    · cases h
      rfl
    · cases h
  · rw [if_neg hempty] at h ⊢
    obtain ⟨items, hitems, rfl⟩ := Action.map_eq_ok_iff.1 h
    have hlisted : items = flat.projectionColumns.toList.map fun entry => entry.2.map fun column =>
        OutputColumn.pieces ⟨entry.1, column, flat.selectedName entry.1 column⟩ := by
      refine map_of_map_m (fun entry hentry listed hcolumns => ?_) hitems
      obtain ⟨hresolved, -⟩ := find_projection_columns (NameMap.mem_to_list_iff.1 hentry)
      exact map_of_map_m (fun column _ shown hshown => projection_pieces_eq hresolved hshown)
        hcolumns
    rw [hlisted, selectedColumns, List.map_flatMap, List.flatMap_def]
    simp only [List.map_map, Function.comp_def]

/-- The statement of a query that gives rows of a table begins with its select list. -/
theorem statement_reads {base : TableOccurrence} (hgrouped : flat.isGrouped = false)
    (hcount : flat.count = false) (haggregates : flat.aggregates.isEmpty = true)
    {pieces : SqlPieces}
    (h : flat.statement dialect base flat.projectionColumns = .ok pieces) :
    ∃ after, pieces = [SqlPiece.word "SELECT"] ++
      (if flat.distinct then [SqlPiece.word " DISTINCT"] else []) ++
        blankBefore (dialect.topClause flat.skip flat.take) ++ [SqlPiece.word " "] ++
          flat.rowList ++ after := by
  have hwraps : flat.wrapsCount = false := by rw [wrapsCount, hcount, Bool.false_and]
  have hscalar : flat.isScalar = false := by simp [isScalar, hcount, haggregates]
  simp only [statement, hcount, hwraps, hscalar, Bool.false_eq_true, false_and, if_false] at h
  obtain ⟨list, hlist, h⟩ := Action.bind_eq_ok_iff.1 h
  obtain ⟨tables, -, h⟩ := Action.bind_eq_ok_iff.1 h
  obtain ⟨filters, -, h⟩ := Action.bind_eq_ok_iff.1 h
  obtain ⟨groups, -, h⟩ := Action.bind_eq_ok_iff.1 h
  obtain ⟨having, -, h⟩ := Action.bind_eq_ok_iff.1 h
  rw [select_list_eq hgrouped haggregates hlist] at h
  split at h
  all_goals
    obtain ⟨order, -, h⟩ := Action.bind_eq_ok_iff.1 h
    cases h
    exact ⟨tables ++ filters ++ groups ++ having ++ flat.setPieces ++ order ++
      blankBefore (dialect.pagingClause flat.skip flat.take flat.isOrdered),
      by simp only [List.append_assoc]⟩

end FlatQuery

end Orm
