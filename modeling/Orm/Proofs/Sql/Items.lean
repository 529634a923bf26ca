import Orm.Proofs.Sql.Statement

/-!
# The items of a select list

Whatever a statement reads is a list of items with commas between them. `FlatQuery.resultItems` says
which: the count, the keys and aggregates of groups, the aggregates over all rows, the selected
columns, or all columns of the default occurrence.
-/

namespace Orm.FlatQuery

variable {flat : FlatQuery} {dialect : Dialect} {projection : NameMap (List String)}

/-- An aggregate of a column under an output name. -/
def aggregateItem (flat : FlatQuery) (dialect : Dialect) (op : AggregateOp) (ref : ColumnRef)
    (name : String) : SqlPieces :=
  [.word (dialect.aggregateFunction op), .word "(",
    .column (flat.resolve ref.aliasName) ref.column, .word ")", .word " AS ", .name name]

/-- The key of a group under its output name. -/
def keyItem (flat : FlatQuery) (key : ColumnRef) (name : String) : SqlPieces :=
  [.column (flat.resolve key.aliasName) key.column, .word " AS ", .name name]

/-- A selected column; with more than one alias it is named by both. -/
def columnItem (flat : FlatQuery) (qualified : Bool) (aliasName column : String) : SqlPieces :=
  .column (flat.resolve aliasName) column ::
    if qualified then [.word " AS ", .name (aliasName ++ "." ++ column)] else []

/-- The items of a select list. -/
def selectItems (flat : FlatQuery) (dialect : Dialect) (projection : NameMap (List String)) :
    List SqlPieces :=
  if flat.isGrouped then
    (GroupedLayout.of flat).keys.map (fun key => flat.keyItem key.1 key.2) ++
      (GroupedLayout.of flat).aggregates.map fun aggregate =>
        flat.aggregateItem dialect aggregate.1.op aggregate.1.ref aggregate.2
  else if !flat.aggregates.isEmpty then
    flat.aggregates.map fun term =>
      flat.aggregateItem dialect term.op ⟨term.aliasName, term.column⟩
        (term.op.tag ++ "_" ++ term.column)
  else if projection.isEmpty then [[.star (flat.resolve flat.child.aliasName)]]
  else projection.toList.flatMap fun entry =>
    entry.2.map (flat.columnItem (1 < projection.size) entry.1)

/-- The items that a statement reads: the number of rows, or what is selected. -/
def resultItems (flat : FlatQuery) (dialect : Dialect) (projection : NameMap (List String)) :
    List SqlPieces :=
  if flat.count ∧ !flat.wrapsCount then [[.word "COUNT(*)"]]
  else flat.selectItems dialect projection

/-- An aggregate of a column is written as its item. -/
theorem aggregate_pieces_eq {op : AggregateOp} {ref : ColumnRef} {name : String}
    {pieces : SqlPieces} (h : flat.aggregatePieces dialect op ref name = .ok pieces) :
    pieces = flat.aggregateItem dialect op ref name := by
  obtain ⟨piece, hpiece, hpieces⟩ := Action.bind_eq_ok_iff.1 h
  cases hpieces
  rw [column_piece_eq_ok hpiece]
  rfl

/-- The select list has its items with commas between them. -/
theorem select_list_items {pieces : SqlPieces}
    (h : flat.selectList dialect projection = .ok pieces) :
    pieces = separated ", " (flat.selectItems dialect projection) := by
  rw [selectList] at h
  rw [selectItems]
  split at h
  · next hgrouped =>
    obtain ⟨keys, hkeys, h⟩ := Action.bind_eq_ok_iff.1 h
    obtain ⟨aggregates, haggregates, hpieces⟩ := Action.bind_eq_ok_iff.1 h
    cases hpieces
    rw [if_pos hgrouped, map_of_map_m (fun key _ part hkey => ?_) hkeys,
      map_of_map_m (fun _ _ _ haggregate => aggregate_pieces_eq haggregate) haggregates]
    obtain ⟨piece, hpiece, hpart⟩ := Action.bind_eq_ok_iff.1 hkey
    cases hpart
    rw [column_piece_eq_ok hpiece]
    rfl
  next hgrouped =>
  rw [if_neg hgrouped]
  split at h
  · next haggregates =>
    obtain ⟨items, hitems, hpieces⟩ := Action.bind_eq_ok_iff.1 h
    cases hpieces
    rw [if_pos haggregates,
      map_of_map_m (fun _ _ _ haggregate => aggregate_pieces_eq haggregate) hitems]
  next haggregates =>
  rw [if_neg haggregates]
  split at h
  · next hempty =>
    obtain ⟨used, hused, hpieces⟩ := Action.bind_eq_ok_iff.1 h
    cases hpieces
    rw [if_pos hempty, declared_eq_ok hused]
    rfl
  · next hsome =>
    obtain ⟨items, hitems, hpieces⟩ := Action.bind_eq_ok_iff.1 h
    cases hpieces
    rw [if_neg hsome, List.flatMap_def]
    congr 2
    refine map_of_map_m (fun entry _ listed hlisted => ?_) hitems
    refine map_of_map_m (fun column _ part hpart => ?_) hlisted
    obtain ⟨piece, hpiece, hpieces⟩ := Action.bind_eq_ok_iff.1 hpart
    cases hpieces
    rw [column_piece_eq_ok hpiece]
    rfl

/-- A statement reads its items with commas between them. -/
theorem result_list_items {pieces : SqlPieces}
    (h : flat.resultList dialect projection = .ok pieces) :
    pieces = separated ", " (flat.resultItems dialect projection) := by
  rw [resultList] at h
  rw [resultItems]
  split at h
  · next hcount =>
    cases h
    rw [if_pos hcount]
    rfl
  · next hread =>
    rw [if_neg hread]
    exact select_list_items h

end Orm.FlatQuery
