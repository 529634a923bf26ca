import Orm.Proofs.Sql.Body
import Orm.Proofs.Sql.ConditionNames
import Orm.Proofs.Sql.Items
import Orm.Sql.Lookup

/-!
# Names in statements that read

`FlatQuery.writtenNames` lists the names of a query in the order in which its statement has them,
and `FlatQuery.skeleton` has all other tokens of the statement, which come from the kinds and
numbers of what is selected, joined, tested, grouped and sorted. `spells_statement` says that this
is how the statement is read back, with whatever names. It is put together from one lemma for each
clause. The statements for the first rows of a table and for the row with given keys are read back
in the same way.
-/

namespace Orm

open Brackets (Token qualified Spells)

/-! ## Select lists -/

/-- An item of a select list: the number of rows, all columns of an alias, a column, with an output
name or without, or an aggregate under an output name. -/
inductive SelectItem
  | rowCount
  | allColumns (aliasName : String)
  | column (ref : ColumnRef) (output : Option String)
  | aggregate (op : AggregateOp) (ref : ColumnRef) (output : String)

namespace SelectItem

/-- An item as the statement has it. -/
def pieces (flat : FlatQuery) : SelectItem → SqlPieces
  | .rowCount => [.word "COUNT(*)"]
  | .allColumns aliasName => [.star (flat.resolve aliasName)]
  | .column ref none => [.column (flat.resolve ref.aliasName) ref.column]
  | .column ref (some output) => flat.keyItem ref output
  | .aggregate op ref output => flat.aggregateItem .brackets op ref output

/-- The names that an item is written with. -/
def names (flat : FlatQuery) : SelectItem → List String
  | .rowCount => []
  | .allColumns aliasName => [flat.resolve aliasName]
  | .column ref output => flat.columnNames ref ++ output.toList
  | .aggregate _ ref output => flat.columnNames ref ++ [output]

/-- The tokens of an item with its names left out. -/
def skeleton : SelectItem → List Token
  | .rowCount => [.word "COUNT", .mark '(', .operator "*", .mark ')']
  | .allColumns _ => [.nameless, .mark '.', .operator "*"]
  | .column _ none => qualified
  | .column _ (some _) => qualified ++ [.word "AS", .nameless]
  | .aggregate op _ _ =>
      [.word (Brackets.aggregateFunction op), .mark '('] ++ qualified ++
        [.mark ')', .word "AS", .nameless]

/-- An item is read back. -/
theorem spells (flat : FlatQuery) (item : SelectItem) :
    Spells false true (item.pieces flat) (item.names flat) item.skeleton := by
  cases item with
  | rowCount =>
      rw [names]
      exact .words ["COUNT(*)"] (by decide)
  | allColumns aliasName => exact (Spells.star _).anywhere
  | column ref output =>
      have hcolumn := Spells.column (flat.resolve ref.aliasName) ref.column
      cases output with
      | none => exact hcolumn.anywhere.ending
      | some output => exact (hcolumn.anywhere.append (.anywhere (.named output))).ending
  | aggregate op ref output =>
      have hcolumn := Spells.column (flat.resolve ref.aliasName) ref.column
      have hargument := ((FlatQuery.spells_function op).append hcolumn.anywhere).append
        (.anywhere .close)
      have hnamed := hargument.append (.anywhere (.named output))
      simpa [pieces, names, skeleton, FlatQuery.aggregateItem, FlatQuery.columnNames,
        Dialect.brackets] using hnamed.ending

end SelectItem

namespace FlatQuery

variable {flat : FlatQuery} {base : TableOccurrence} {projection : NameMap (List String)}

/-- The items that the statement of a flat query reads. -/
def readItems (flat : FlatQuery) (projection : NameMap (List String)) : List SelectItem :=
  if flat.count ∧ !flat.wrapsCount then [.rowCount]
  else if flat.isGrouped then
    (GroupedLayout.of flat).keys.map (fun key => .column key.1 (some key.2)) ++
      (GroupedLayout.of flat).aggregates.map fun aggregate =>
        .aggregate aggregate.1.op aggregate.1.ref aggregate.2
  else if !flat.aggregates.isEmpty then
    flat.aggregates.map fun term =>
      .aggregate term.op ⟨term.aliasName, term.column⟩ (term.op.tag ++ "_" ++ term.column)
  else if projection.isEmpty then [.allColumns flat.child.aliasName]
  else projection.toList.flatMap fun entry => entry.2.map fun column =>
    .column ⟨entry.1, column⟩
      (if 1 < projection.size then some (entry.1 ++ "." ++ column) else none)

/-- The statement has those items. -/
theorem result_items_eq :
    flat.resultItems .brackets projection
      = (flat.readItems projection).map (SelectItem.pieces flat) := by
  unfold resultItems selectItems readItems
  split
  · rfl
  split
  · rw [List.map_append, List.map_map, List.map_map]
    rfl
  split
  · rw [List.map_map]
    rfl
  split
  · rfl
  · rw [List.map_flatMap]
    simp only [List.map_map]
    congr 1
    funext entry
    refine List.map_congr_left fun column _ => ?_
    by_cases hseveral : 1 < projection.size
    · simp [columnItem, SelectItem.pieces, keyItem, hseveral]
    · simp [columnItem, SelectItem.pieces, hseveral]

/-- A select list is read back. -/
theorem spells_result_list {pieces : SqlPieces}
    (h : flat.resultList .brackets projection = .ok pieces) :
    Spells false true pieces ((flat.readItems projection).flatMap (SelectItem.names flat))
      ([.mark ','].intercalate ((flat.readItems projection).map SelectItem.skeleton)) := by
  rw [result_list_items h, result_items_eq, List.flatMap_def]
  exact .separated .comma (.map fun item _ => item.spells flat)

/-! ## Tables -/

/-- The names that the base table is written with. -/
def baseNames (flat : FlatQuery) (base : TableOccurrence) : List String :=
  base.table.writtenNames ++ [flat.resolve base.aliasName]

/-- The names that a join is written with: its table and alias, and the columns of its condition. -/
def joinNames (flat : FlatQuery) (join : JoinEntry) : List String :=
  join.spec.targetTable.writtenNames ++ [join.target] ++ join.spec.keyPairs.flatMap fun pair =>
    [flat.resolve join.source, pair.1, join.target, pair.2]

/-- The tokens of a join with its names left out. -/
def joinSkeleton (join : JoinEntry) : List Token :=
  (if join.spec.isOuter then [Token.word "LEFT", .word "OUTER", .word "JOIN"]
    else [Token.word "INNER", .word "JOIN"]) ++ join.spec.targetTable.skeleton ++
    [Token.word "AS", .nameless, .word "ON"] ++
    [Token.word "AND"].intercalate
      (join.spec.keyPairs.map fun _ => qualified ++ [Token.operator "="] ++ qualified)

/-- The names that the tables of a statement are written with. -/
def tableNames (flat : FlatQuery) (base : TableOccurrence) : List String :=
  flat.baseNames base ++ flat.joins.flatMap flat.joinNames ++
    flat.crossJoins.flatMap fun cross => cross.table.writtenNames ++ [cross.aliasName]

/-- The tokens of the tables of a statement with their names left out. -/
def tableSkeleton (flat : FlatQuery) (base : TableOccurrence) : List Token :=
  [Token.word "FROM"] ++ base.table.skeleton ++ [Token.word "AS", .nameless] ++
    flat.joins.flatMap joinSkeleton ++
    flat.crossJoins.flatMap fun cross =>
      [Token.word "CROSS", .word "JOIN"] ++ cross.table.skeleton ++ [Token.word "AS", .nameless]

/-- A table under an alias is read back behind the words for it. -/
theorem spells_occurrence {word : String} {words : List Token}
    (hword : Spells true false [.word word] [] words) (table : Table) (aliasName : String) :
    Spells true false [.word word, .table table, .word " AS ", .name aliasName]
      (table.writtenNames ++ [aliasName]) (words ++ table.skeleton ++ [.word "AS", .nameless]) :=
  (hword.append (.anywhere (.table table))).append (.anywhere (.named aliasName))

/-- A join is read back. -/
theorem spells_join (flat : FlatQuery) (join : JoinEntry) :
    Spells true true (flat.joinText join) (flat.joinNames join) (joinSkeleton join) := by
  have hkind : Spells true false
      [.word (if join.spec.isOuter then " LEFT OUTER JOIN " else " INNER JOIN ")] []
      (if join.spec.isOuter then [.word "LEFT", .word "OUTER", .word "JOIN"]
        else [.word "INNER", .word "JOIN"]) := by
    split
    · exact .words [" LEFT OUTER JOIN "] (by decide)
    · exact .words [" INNER JOIN "] (by decide)
  have hon : Spells false false [.word " ON "] [] [.word "ON"] := .words [" ON "] (by decide)
  have hequals : Spells false false [.word " = "] [] [.operator "="] := .words [" = "] (by decide)
  have hpairs : Spells false true (joinCondition (flat.resolve join.source) join)
      (join.spec.keyPairs.flatMap fun pair =>
        [flat.resolve join.source, pair.1, join.target, pair.2])
      ([.word "AND"].intercalate
        (join.spec.keyPairs.map fun _ => qualified ++ [.operator "="] ++ qualified)) := by
    rw [joinCondition, List.flatMap_def]
    refine .separated .conjunct (.map fun pair _ => ?_)
    exact ((((Spells.column _ pair.1).append hequals).append
      (.anywhere (.column join.target pair.2))).anywhere).ending
  have hjoin := ((spells_occurrence hkind join.spec.targetTable join.target).append hon).append
    hpairs
  simpa [joinText, joinNames, joinSkeleton] using hjoin

/-- The tables of a statement are read back. -/
theorem spells_from_clause {tables : SqlPieces} (h : flat.fromClause base = .ok tables) :
    Spells true true tables (flat.tableNames base) (flat.tableSkeleton base) := by
  obtain ⟨-, rfl⟩ := from_clause_eq_ok h
  have hfrom : Spells true false [.word " FROM "] [] [.word "FROM"] := .words [" FROM "] (by decide)
  have hcross : Spells true false [.word " CROSS JOIN "] [] [.word "CROSS", .word "JOIN"] :=
    .words [" CROSS JOIN "] (by decide)
  have hbase := spells_occurrence hfrom base.table (flat.resolve base.aliasName)
  have hjoins : Spells true true (flat.joins.flatMap flat.joinText)
      (flat.joins.flatMap flat.joinNames) (flat.joins.flatMap joinSkeleton) :=
    .flatten fun join _ => flat.spells_join join
  exact (hbase.ending.append hjoins).append (.flatten fun cross _ =>
    (spells_occurrence hcross cross.table cross.aliasName).ending)

/-! ## Groups and orders -/

/-- The tokens of the clause of the group keys with their names left out. -/
def groupSkeleton (flat : FlatQuery) : List Token :=
  if flat.isGrouped then
    [Token.word "GROUP", .word "BY"] ++ [Token.mark ','].intercalate
      ((flat.grouping.flatMap GroupingEntry.keys).map fun _ => qualified)
  else []

/-- The names that the clause of the group keys is written with. -/
def groupNames (flat : FlatQuery) : List String :=
  (flat.grouping.flatMap GroupingEntry.keys).flatMap flat.columnNames

/-- The clause of the group keys is read back. -/
theorem spells_group_clause {pieces : SqlPieces} (h : flat.groupClause = .ok pieces) :
    Spells true true pieces flat.groupNames flat.groupSkeleton := by
  unfold groupClause at h
  rw [groupSkeleton, groupNames]
  split at h
  · next hgrouped =>
    obtain ⟨keys, hkeys, hpieces⟩ := Action.bind_eq_ok_iff.1 h
    cases hpieces
    have hlisted : keys = (flat.grouping.flatMap GroupingEntry.keys).map fun key =>
        [.column (flat.resolve key.aliasName) key.column] := by
      refine map_of_map_m (fun key _ part hkey => ?_) hkeys
      obtain ⟨piece, hpiece, hpart⟩ := Action.bind_eq_ok_iff.1 hkey
      cases hpart
      rw [column_piece_eq_ok hpiece]
    have hword : Spells true false [.word " GROUP BY "] [] [.word "GROUP", .word "BY"] :=
      .words [" GROUP BY "] (by decide)
    rw [if_pos hgrouped, hlisted, List.flatMap_def]
    exact hword.append (.separated .comma (.map fun key _ =>
      ((Spells.column _ _).anywhere).ending))
  · next hplain =>
    cases h
    have hnone : flat.grouping = [] := by simpa [isGrouped] using hplain
    rw [if_neg hplain, hnone]
    exact .nil

/-- The tokens of the clause that sorts the rows with its names left out. -/
def orderSkeleton (flat : FlatQuery) : List Token :=
  if flat.isOrdered then
    [Token.word "ORDER", .word "BY"] ++ [Token.mark ','].intercalate (flat.ordering.map fun term =>
      qualified ++ if term.direction = .descending then [Token.word "DESC"] else [])
  else []

/-- The names that the clause that sorts the rows is written with. -/
def orderNames (flat : FlatQuery) : List String :=
  if flat.isOrdered then
    flat.ordering.flatMap fun term => flat.columnNames ⟨term.aliasName, term.column⟩
  else []

/-- The clause that sorts the rows is read back. -/
theorem spells_sort_clause {pieces : SqlPieces} (h : flat.sortClause = .ok pieces) :
    Spells true true pieces flat.orderNames flat.orderSkeleton := by
  unfold sortClause at h
  rw [orderSkeleton, orderNames]
  split at h
  · next hordered =>
    obtain ⟨terms, hterms, hpieces⟩ := Action.bind_eq_ok_iff.1 h
    cases hpieces
    have hlisted : terms = flat.ordering.map fun term =>
        .column (flat.resolve term.aliasName) term.column ::
          if term.direction = .descending then [.word " DESC"] else [] := by
      refine map_of_map_m (fun term _ part hterm => ?_) hterms
      obtain ⟨piece, hpiece, hpart⟩ := Action.bind_eq_ok_iff.1 hterm
      cases hpart
      rw [column_piece_eq_ok hpiece]
    have hword : Spells true false [.word " ORDER BY "] [] [.word "ORDER", .word "BY"] :=
      .words [" ORDER BY "] (by decide)
    rw [if_pos hordered, if_pos hordered, hlisted, List.flatMap_def]
    refine hword.append (.separated .comma (.map fun term _ => ?_))
    have hcolumn : Spells false false
        [.column (flat.resolve term.aliasName) term.column]
        (flat.columnNames ⟨term.aliasName, term.column⟩) qualified := (Spells.column _ _).anywhere
    split
    · have hdescending : Spells false true [.word " DESC"] [] [.word "DESC"] :=
        .words [" DESC"] (by decide)
      exact hcolumn.append hdescending
    · simpa using hcolumn.ending
  · next hunordered =>
    cases h
    rw [if_neg hunordered, if_neg hunordered]
    exact .nil

/-! ## Statements -/

/-- The tokens of the limit that stands before a select list. -/
def topSkeleton : Option Nat → Option Nat → List Token
  | none, some take => [.word "TOP", .number take]
  | _, _ => []

/-- The tokens of the limits that stand at the end of a statement. -/
def pagingSkeleton (skip take : Option Nat) (ordered : Bool) : List Token :=
  match skip with
  | none => []
  | some skip =>
      (if ordered then []
        else
          [Token.word "ORDER", .word "BY", .mark '(', .word "SELECT", .word "NULL", .mark ')']) ++
      [Token.word "OFFSET", .number skip, .word "ROWS"] ++
      match take with
      | none => []
      | some take =>
          [Token.word "FETCH", .word "NEXT", .number take, .word "ROWS", .word "ONLY"]

/-- The tokens before a select list. -/
def openingSkeleton (flat : FlatQuery) : List Token :=
  (if flat.wrapsCount then
    [Token.word "SELECT", .word "COUNT", .mark '(', .operator "*", .mark ')', .word "FROM",
      .mark '(']
    else []) ++ [Token.word "SELECT"] ++ (if flat.distinct then [Token.word "DISTINCT"] else []) ++
    if flat.isScalar then [] else topSkeleton flat.skip flat.take

/-- The tokens behind the clauses of a statement. -/
def closingSkeleton (flat : FlatQuery) : List Token :=
  (if flat.isScalar then [] else pagingSkeleton flat.skip flat.take flat.isOrdered) ++
    if flat.wrapsCount then [Token.mark ')', .word "AS", .nameless] else []

/-- The names of a query in the order in which its statement has them. -/
def writtenNames (flat : FlatQuery) (base : TableOccurrence)
    (projection : NameMap (List String)) : List String :=
  (flat.readItems projection).flatMap (SelectItem.names flat) ++ flat.tableNames base ++
    flat.filters.flatMap flat.exprNames ++ flat.groupNames ++
    flat.having.flatMap flat.exprNames ++ flat.orderNames ++
    if flat.wrapsCount then ["counted"] else []

/-- The tokens of the statement of a query with its names left out. -/
def skeleton (flat : FlatQuery) (base : TableOccurrence) (projection : NameMap (List String)) :
    List Token :=
  flat.openingSkeleton ++
    [Token.mark ','].intercalate ((flat.readItems projection).map SelectItem.skeleton) ++
    flat.tableSkeleton base ++ conjunctionSkeleton "WHERE" 0 flat.filters ++ flat.groupSkeleton ++
    conjunctionSkeleton "HAVING" (flat.filters.flatMap Expr.boundValues).length flat.having ++
    flat.orderSkeleton ++ flat.closingSkeleton

/-- The body of a statement is read back. -/
theorem spells_body {pieces : SqlPieces} (h : flat.body .brackets base = .ok pieces) :
    Spells true true pieces
      (flat.tableNames base ++ flat.filters.flatMap flat.exprNames ++ flat.groupNames ++
        flat.having.flatMap flat.exprNames)
      (flat.tableSkeleton base ++ conjunctionSkeleton "WHERE" 0 flat.filters ++
        flat.groupSkeleton ++ conjunctionSkeleton "HAVING"
          (flat.filters.flatMap Expr.boundValues).length flat.having) := by
  obtain ⟨tables, htables, h⟩ := Action.bind_eq_ok_iff.1 h
  obtain ⟨filters, hfilters, h⟩ := Action.bind_eq_ok_iff.1 h
  obtain ⟨groups, hgroups, h⟩ := Action.bind_eq_ok_iff.1 h
  obtain ⟨having, hhaving, hpieces⟩ := Action.bind_eq_ok_iff.1 h
  cases hpieces
  have hwhere : Spells true false [.word " WHERE "] [] [.word "WHERE"] :=
    .words [" WHERE "] (by decide)
  have hon : Spells true false [.word " HAVING "] [] [.word "HAVING"] :=
    .words [" HAVING "] (by decide)
  exact (((spells_from_clause htables).append (spells_conjunction hwhere hfilters)).append
    (spells_group_clause hgroups)).append (spells_conjunction hon hhaving)

/-- The limit before a select list is read back. -/
theorem spells_top (skip take : Option Nat) :
    Spells true true (blankBefore (Brackets.topClause skip take)) [] (topSkeleton skip take) := by
  fun_cases topSkeleton skip take with
  | case1 take =>
      have hword : Spells true false [.word " ", .word "TOP "] [] [.word "TOP"] :=
        .words [" ", "TOP "] (by decide)
      refine (hword.append (.number take)).of_chars ?_
      have hclause : Brackets.topClause none (some take) = some ("TOP " ++ toString take) := rfl
      simp [hclause, Brackets.charsOf, blankBefore, Dialect.pieceText]
  | case2 _ _ hne =>
      have hnone : Brackets.topClause skip take = none := by
        rw [Brackets.topClause]
        exact hne
      rw [hnone]
      exact .nil

/-- The limits at the end of a statement are read back. -/
theorem spells_paging (skip take : Option Nat) (ordered : Bool) :
    Spells true true (blankBefore (Brackets.pagingClause skip take ordered)) []
      (pagingSkeleton skip take ordered) := by
  cases skip with
  | none => exact .nil
  | some skip =>
      have horder : Spells true false
          [.word " ", .word (if ordered then "" else "ORDER BY (SELECT NULL) ")] []
          (if ordered then []
            else [.word "ORDER", .word "BY", .mark '(', .word "SELECT", .word "NULL",
              .mark ')']) := by
        cases ordered
        · exact .words [" ", "ORDER BY (SELECT NULL) "] (by decide)
        · exact .words [" ", ""] (by decide)
      have hskip : Spells false true [.word "OFFSET ", .word (toString skip), .word " ROWS"] []
          [.word "OFFSET", .number skip, .word "ROWS"] := by
        have hword : Spells false false [.word "OFFSET "] [] [.word "OFFSET"] :=
          .words ["OFFSET "] (by decide)
        have hrows : Spells true true [.word " ROWS"] [] [.word "ROWS"] :=
          .words [" ROWS"] (by decide)
        exact (hword.append (.number skip)).append hrows
      cases take with
      | none =>
          have hclause : Brackets.pagingClause (some skip) none ordered
              = some ((if ordered then "" else "ORDER BY (SELECT NULL) ") ++
                ("OFFSET " ++ toString skip ++ " ROWS") ++ "") := rfl
          refine ((horder.append hskip).append .nil).of_chars ?_
          simp [hclause, Brackets.charsOf, blankBefore, Dialect.pieceText]
      | some take =>
          have hclause : Brackets.pagingClause (some skip) (some take) ordered
              = some ((if ordered then "" else "ORDER BY (SELECT NULL) ") ++
                ("OFFSET " ++ toString skip ++ " ROWS") ++
                (" FETCH NEXT " ++ toString take ++ " ROWS ONLY")) := rfl
          have hfetch : Spells true true
              [.word " FETCH NEXT ", .word (toString take), .word " ROWS ONLY"] []
              [.word "FETCH", .word "NEXT", .number take, .word "ROWS", .word "ONLY"] := by
            have hword : Spells true false [.word " FETCH NEXT "] []
                [.word "FETCH", .word "NEXT"] := .words [" FETCH NEXT "] (by decide)
            have honly : Spells true true [.word " ROWS ONLY"] [] [.word "ROWS", .word "ONLY"] :=
              .words [" ROWS ONLY"] (by decide)
            exact (hword.append (.number take)).append honly
          refine ((horder.append hskip).append hfetch).of_chars ?_
          simp [hclause, Brackets.charsOf, blankBefore, Dialect.pieceText]

/-- What stands before a select list is read back. -/
theorem spells_opening (flat : FlatQuery) :
    Spells false false (flat.opening .brackets) [] flat.openingSkeleton := by
  have hcount : Spells false false
      (if flat.wrapsCount then [.word "SELECT COUNT(*) FROM ("] else []) []
      (if flat.wrapsCount then
        [.word "SELECT", .word "COUNT", .mark '(', .operator "*", .mark ')', .word "FROM",
          .mark '('] else []) := by
    split
    · exact .words ["SELECT COUNT(*) FROM ("] (by decide)
    · exact .nil
  have hselect : Spells false true [.word "SELECT"] [] [.word "SELECT"] :=
    .words ["SELECT"] (by decide)
  have hdistinct : Spells true true (if flat.distinct then [.word " DISTINCT"] else []) []
      (if flat.distinct then [.word "DISTINCT"] else []) := by
    split
    · exact .words [" DISTINCT"] (by decide)
    · exact .nil
  have htop : Spells true true (blankBefore
      (if flat.isScalar then none else Dialect.brackets.topClause flat.skip flat.take)) []
      (if flat.isScalar then [] else topSkeleton flat.skip flat.take) := by
    split
    · exact .nil
    · exact spells_top flat.skip flat.take
  have hblank : Spells true false [.word " "] [] [] := .words [" "] (by decide)
  have hopening := (((hcount.append hselect).append hdistinct).append htop).append hblank
  simpa only [opening, openingSkeleton, List.append_nil] using hopening

/-- What stands behind the clauses of a statement is read back. -/
theorem spells_closing (flat : FlatQuery) :
    Spells true true (flat.closing .brackets) (if flat.wrapsCount then ["counted"] else [])
      flat.closingSkeleton := by
  have hpaging : Spells true true (blankBefore (if flat.isScalar then none
      else Dialect.brackets.pagingClause flat.skip flat.take flat.isOrdered)) []
      (if flat.isScalar then [] else pagingSkeleton flat.skip flat.take flat.isOrdered) := by
    split
    · exact .nil
    · exact spells_paging flat.skip flat.take flat.isOrdered
  have hcounted : Spells true true
      (if flat.wrapsCount then [.word ") AS ", .name "counted"] else [])
      (if flat.wrapsCount then ["counted"] else [])
      (if flat.wrapsCount then [.mark ')', .word "AS", .nameless] else []) := by
    split
    · have hclose : Spells true false [.word ") AS "] [] [.mark ')', .word "AS"] :=
        .words [") AS "] (by decide)
      exact (hclose.append (.anywhere (.name "counted"))).ending
    · exact .nil
  exact hpaging.append hcounted

/-- The statement of a query without a combination is read back as its names in its skeleton. -/
theorem spells_statement {pieces : SqlPieces} (hcombined : flat.setOperation = none)
    (h : flat.statement .brackets base projection = .ok pieces) :
    Spells false true pieces (flat.writtenNames base projection)
      (flat.skeleton base projection) := by
  obtain ⟨list, body, order, hlist, hbody, horder, rfl⟩ := statement_eq_ok_iff.1 h
  have hset : flat.setPieces = [] := by rw [setPieces, hcombined]
  have hread := (flat.spells_opening.append (spells_result_list hlist)).append (spells_body hbody)
  have hall := (hread.append (spells_sort_clause horder)).append flat.spells_closing
  simpa only [hset, writtenNames, skeleton, List.append_nil, List.nil_append,
    List.append_assoc] using hall

end FlatQuery

/-! ## Statements without a query -/

/-- The tokens of the conditions that some columns equal the parameters from a number on, with their
names left out. -/
def equalsSkeleton (first count : Nat) : List (List Token) :=
  (List.range' first count).map fun index => [.nameless, .operator "=", .placeholder index]

/-- The conditions that some columns equal parameters are read back. -/
theorem spells_equals_slots (first : Nat) (columns : List String) :
    Spells.All (equalsSlots first columns) (columns.map fun column => [column])
      (equalsSkeleton first columns.length) := by
  induction columns generalizing first with
  | nil => exact .nil
  | cons column rest ih =>
      have hequals : Spells false false [.word " = "] [] [.operator "="] :=
        .words [" = "] (by decide)
      have hcolumn := ((Spells.name column).append hequals).append (.slot first)
      exact .cons hcolumn.anywhere (ih (first + 1))

/-- A word between the conditions that some columns equal parameters is read back with them. -/
theorem spells_separated_equals {word : String} {link : List Token}
    (hlink : Spells true false [.word word] [] link) (first : Nat) (columns : List String) :
    Spells false true (separated word (equalsSlots first columns)) columns
      (link.intercalate (equalsSkeleton first columns.length)) := by
  have hall := Spells.separated hlink (spells_equals_slots first columns)
  rwa [← List.flatMap_def, List.flatMap_singleton'] at hall

/-- The tokens of the statement for the first rows of a table with its names left out. -/
def topRowsSkeleton (table : Table) (count : Nat) : List Token :=
  [Token.word "SELECT", .word "TOP", .number count, .operator "*", .word "FROM"] ++ table.skeleton

/-- The statement for the first rows of a table is read back. -/
theorem spells_top_rows (table : Table) (count : Nat) :
    Spells false true (topRowsPieces .brackets table count) table.writtenNames
      (topRowsSkeleton table count) := by
  have hselect : Spells false false [.word "SELECT ", .word "TOP "] []
      [.word "SELECT", .word "TOP"] := .words ["SELECT ", "TOP "] (by decide)
  have hfrom : Spells true false [.word " ", .word "* FROM "] [] [.operator "*", .word "FROM"] :=
    .words [" ", "* FROM "] (by decide)
  have hall := ((hselect.append (.number count)).append hfrom).append (.anywhere (.table table))
  have hclause : Dialect.brackets.topClause none (some count) = some ("TOP " ++ toString count) :=
    rfl
  have hpaging : Dialect.brackets.pagingClause none (some count) false = none := rfl
  refine hall.ending.of_chars ?_
  simp [topRowsPieces, hclause, hpaging, Brackets.charsOf, blankBefore, Dialect.pieceText]

/-- The tokens of the statement for the row with given keys with its names left out. -/
def individualSkeleton (table : Table) (keys : Nat) : List Token :=
  [Token.word "SELECT", .operator "*", .word "FROM"] ++ table.skeleton ++
    if keys = 0 then [] else .word "WHERE" :: [Token.word "AND"].intercalate (equalsSkeleton 0 keys)

/-- The statement for the row with given keys is read back. -/
theorem spells_individual (table : Table) (keys : List String) :
    Spells false true (individualPieces table keys) (table.writtenNames ++ keys)
      (individualSkeleton table keys.length) := by
  have hfrom : Spells false false [.word "SELECT * FROM "] []
      [.word "SELECT", .operator "*", .word "FROM"] := .words ["SELECT * FROM "] (by decide)
  have hwhere : Spells true false [.word " WHERE "] [] [.word "WHERE"] :=
    .words [" WHERE "] (by decide)
  have hconditions : Spells true true
      (if keys.isEmpty then [] else .word " WHERE " :: separated " AND " (equalsSlots 0 keys)) keys
      (if keys.length = 0 then []
        else .word "WHERE" :: [.word "AND"].intercalate (equalsSkeleton 0 keys.length)) := by
    cases keys with
    | nil => exact .nil
    | cons key rest => exact hwhere.append (spells_separated_equals .conjunct 0 (key :: rest))
  exact (hfrom.append (Spells.table table).anywhere.ending).append hconditions

end Orm
