import Orm.Proofs.Sql.Pieces
import Orm.Proofs.Sql.SelectList

/-!
# What a statement reads and what it passes

`statement_written` says of the statement of a flat query that every alias in it is read under that
name, and that its slots are numbered from zero in the order in which they occur, one for each bound
value of the filters and then of the conditions on groups. It is put together from one lemma for
expressions and one for each clause.
-/

namespace Orm

/-! ## Expressions -/

namespace FlatQuery

variable {flat : FlatQuery} {dialect : Dialect}

/-- The test that a comparison with a written null becomes. -/
def nullTest? : BinaryOp → Expr → Option String
  | .eq, .literal .null => some " IS NULL"
  | .notEq, .literal .null => some " IS NOT NULL"
  | _, _ => none

/-- The pieces of an operator between two expressions: a test for null, or both sides. -/
theorem expr_pieces_binary (first : Nat) (op : BinaryOp) (left right : Expr) :
    flat.exprPieces dialect first (.binary op left right) =
      match nullTest? op right with
      | some test => do
          return (← flat.exprPieces dialect first left) ++ [.word test]
      | none => do
          let leftPieces ← flat.exprPieces dialect first left
          let rightPieces ← flat.exprPieces dialect (first + left.boundValues.length) right
          return .word "(" :: leftPieces ++ [.word " ", .word op.symbol, .word " "] ++
            rightPieces ++ [.word ")"] := by
  fun_cases nullTest? op right with
  | case1 => rfl
  | case2 => rfl
  | case3 _ _ heq hne =>
      rw [exprPieces]
      · exact heq
      · exact hne

/-- A written null passes no value. -/
theorem bound_values_of_null_test {op : BinaryOp} {right : Expr} {test : String}
    (h : nullTest? op right = some test) : right.boundValues = [] := by
  unfold nullTest? at h
  split at h
  · rfl
  · rfl
  · cases h

/-- Every declared alias is read under the name that it has in the statement. -/
def ReadsDeclared (flat : FlatQuery) : Prop :=
  ∀ aliasName, flat.aliases.contains (flat.resolve aliasName) = true →
    ∃ table, flat.Occurs (flat.resolve aliasName) table

/-- A declared alias is used under the name that it has in the statement. -/
theorem declared_eq_ok {aliasName used : String} (h : flat.declared aliasName = .ok used) :
    used = flat.resolve aliasName := by
  unfold declared at h
  split at h
  · exact (Except.ok.inj h).symm
  · cases h

/-- A column is written under the name that its alias has in the statement. -/
theorem column_piece_eq_ok {ref : ColumnRef} {piece : SqlPiece}
    (h : flat.columnPiece ref = .ok piece) :
    piece = .column (flat.resolve ref.aliasName) ref.column := by
  obtain ⟨used, hused, rfl⟩ := Action.map_eq_ok_iff.1 h
  rw [declared_eq_ok hused]

/-- A referenced alias is one that is read. -/
theorem occurs_of_declared (hreads : flat.ReadsDeclared) {aliasName used : String}
    (h : flat.declared aliasName = .ok used) : ∃ table, flat.Occurs used table := by
  unfold declared at h
  split at h
  · next hdeclared =>
    cases h
    exact hreads aliasName hdeclared
  · cases h

/-- A column is read under an alias that is read. -/
theorem column_piece_written (hreads : flat.ReadsDeclared) {ref : ColumnRef} {piece : SqlPiece}
    (h : flat.columnPiece ref = .ok piece) {rest : SqlPieces} {first count : Nat}
    (hrest : Written flat rest first count) : Written flat (piece :: rest) first count := by
  obtain ⟨used, hused, rfl⟩ := Action.map_eq_ok_iff.1 h
  exact Written.column_cons_iff.2 ⟨occurs_of_declared hreads hused, hrest⟩

/-- Two expressions in parentheses with an operator between them have the slots of both. -/
theorem operands_written {left right : SqlPieces} {first leftCount rightCount : Nat}
    (hleft : Written flat left first leftCount)
    (hright : Written flat right (first + leftCount) rightCount) (symbol : String) :
    Written flat
      (.word "(" :: left ++ [.word " ", .word symbol, .word " "] ++ right ++ [.word ")"])
      first (leftCount + rightCount) := by
  have hend : Written flat
      ([SqlPiece.word " ", .word symbol, .word " "] ++ (right ++ [SqlPiece.word ")"]))
      (first + leftCount) rightCount := by
    simpa using hright.append_word ")"
  simpa using hleft.append hend

/-- An expression with a list of slots behind it has these slots after its own. -/
theorem listing_written {inner : SqlPieces} {first count : Nat}
    (hinner : Written flat inner first count) (items : Nat) :
    Written flat (inner ++ [.word " IN ("] ++ slots (first + count) items ++ [.word ")"])
      first (count + items) := by
  have hslots : Written flat (slots (first + count) items ++ [SqlPiece.word ")"])
      (first + count) items := (Written.slots_written _ _).append_word ")"
  have hitems : Written flat
      (.word " IN (" :: (slots (first + count) items ++ [SqlPiece.word ")"]))
      (first + count) items := Written.word_cons_iff.2 hslots
  simpa using hinner.append hitems

/-- An expression has a slot for each of its bound values, in their order. -/
theorem expr_written (hreads : flat.ReadsDeclared) {expr : Expr} {first : Nat} {pieces : SqlPieces}
    (h : flat.exprPieces dialect first expr = .ok pieces) :
    Written flat pieces first expr.boundValues.length := by
  induction expr generalizing first pieces with
  | column ref =>
      obtain ⟨piece, hpiece, hpieces⟩ := Action.bind_eq_ok_iff.1 h
      cases hpieces
      exact column_piece_written hreads hpiece .nil
  | literal value =>
      rw [exprPieces] at h
      cases h
      unfold Expr.boundValues
      split
      · exact Written.word_cons_iff.2 .nil
      · exact .slot_cons .nil
  | binary op left right ihleft ihright =>
      rw [expr_pieces_binary] at h
      rw [Expr.boundValues, List.length_append]
      split at h
      · next test htest =>
        obtain ⟨leftPieces, hleft, hpieces⟩ := Action.bind_eq_ok_iff.1 h
        cases hpieces
        rw [bound_values_of_null_test htest]
        exact (ihleft hleft).append_word test
      · obtain ⟨leftPieces, hleft, h⟩ := Action.bind_eq_ok_iff.1 h
        obtain ⟨rightPieces, hright, hpieces⟩ := Action.bind_eq_ok_iff.1 h
        cases hpieces
        exact operands_written (ihleft hleft) (ihright hright) op.symbol
  | not inner ih =>
      obtain ⟨innerPieces, hinner, hpieces⟩ := Action.bind_eq_ok_iff.1 h
      cases hpieces
      exact Written.word_cons_iff.2 ((ih hinner).append_word ")")
  | isNull inner ih | isNotNull inner ih =>
      obtain ⟨innerPieces, hinner, hpieces⟩ := Action.bind_eq_ok_iff.1 h
      cases hpieces
      exact (ih hinner).append_word _
  | oneOf inner items ih =>
      rw [exprPieces] at h
      unfold Expr.boundValues
      split at h
      · next hempty =>
        cases h
        rw [if_pos hempty]
        exact Written.word_cons_iff.2 .nil
      · next hitems =>
        obtain ⟨innerPieces, hinner, hpieces⟩ := Action.bind_eq_ok_iff.1 h
        cases hpieces
        rw [if_neg hitems, List.length_append]
        exact listing_written (ih hinner) items.length
  | like inner pattern ih =>
      obtain ⟨innerPieces, hinner, hpieces⟩ := Action.bind_eq_ok_iff.1 h
      cases hpieces
      rw [Expr.boundValues, List.length_append]
      exact (ih hinner).append (Written.word_cons_iff.2 (.slot_cons .nil))
  | aggregate op argument =>
      cases argument with
      | none =>
          rw [exprPieces] at h
          split at h
          · cases h
            simp [Expr.boundValues, Written.nil]
          · cases h
      | some ref =>
          obtain ⟨piece, hpiece, hpieces⟩ := Action.bind_eq_ok_iff.1 h
          cases hpieces
          have hcolumn : Written flat [piece, .word ")"] first 0 :=
            column_piece_written hreads hpiece (Written.word_cons_iff.2 .nil)
          simpa [Expr.boundValues] using hcolumn

/-! ## Clauses -/

/-- The conditions of a clause have slots for their bound values, one condition after the other. -/
theorem conditions_written (hreads : flat.ReadsDeclared) {conditions : List Expr} {first : Nat}
    {parts : List SqlPieces} (h : flat.conditionPieces dialect first conditions = .ok parts) :
    Written flat parts.flatten first (conditions.flatMap Expr.boundValues).length := by
  induction conditions generalizing first parts with
  | nil =>
      cases h
      exact .nil
  | cons condition rest ih =>
      rw [conditionPieces] at h
      obtain ⟨pieces, hpieces, h⟩ := Action.bind_eq_ok_iff.1 h
      obtain ⟨others, hothers, hparts⟩ := Action.bind_eq_ok_iff.1 h
      cases hparts
      rw [List.flatMap_cons, List.length_append, List.flatten_cons]
      exact (expr_written hreads hpieces).append (ih hothers)

/-- A clause of conditions has slots for their bound values. -/
theorem conjunction_written (hreads : flat.ReadsDeclared) {keyword : String}
    {conditions : List Expr} {first : Nat} {pieces : SqlPieces}
    (h : flat.conjunction dialect keyword first conditions = .ok pieces) :
    Written flat pieces first (conditions.flatMap Expr.boundValues).length := by
  unfold conjunction at h
  split at h
  · next hnone =>
    cases h
    rw [List.isEmpty_iff.1 hnone]
    exact .nil
  · obtain ⟨parts, hparts, hpieces⟩ := Action.bind_eq_ok_iff.1 h
    cases hpieces
    exact Written.word_cons_iff.2 (Written.separated_iff.2 (conditions_written hreads hparts))

/-- Parts with a word between them, each of which is written for an item, have no slots if none of
the parts has. -/
theorem items_written {α : Type} {step : α → Except QueryError SqlPieces} {items : List α}
    {parts : List SqlPieces} (h : items.mapM step = .ok parts) {first : Nat}
    (hstep : ∀ item ∈ items, ∀ part, step item = .ok part → Written flat part first 0) :
    ∀ part ∈ parts, Written flat part first 0 := by
  intro part hmem
  obtain ⟨item, hitem, hpart⟩ := exists_of_mem_map_m h hmem
  exact hstep item hitem part hpart

/-- An aggregate of a column reads that column. -/
theorem aggregate_written (hreads : flat.ReadsDeclared) {op : AggregateOp} {ref : ColumnRef}
    {name : String} {first : Nat} {pieces : SqlPieces}
    (h : flat.aggregatePieces dialect op ref name = .ok pieces) : Written flat pieces first 0 := by
  obtain ⟨piece, hpiece, hpieces⟩ := Action.bind_eq_ok_iff.1 h
  cases hpieces
  have hcolumn : Written flat [piece, .word ")", .word " AS ", .name name] first 0 :=
    column_piece_written hreads hpiece (by simp [Written.nil])
  simpa using hcolumn

/-- The select list reads columns of declared aliases and has no slots. -/
theorem select_list_written (hreads : flat.ReadsDeclared) {projection : NameMap (List String)}
    {first : Nat} {pieces : SqlPieces} (h : flat.selectList dialect projection = .ok pieces) :
    Written flat pieces first 0 := by
  unfold selectList at h
  split at h
  · -- The keys of the groups, then their aggregates.
    obtain ⟨keys, hkeys, h⟩ := Action.bind_eq_ok_iff.1 h
    obtain ⟨aggregates, haggregates, hpieces⟩ := Action.bind_eq_ok_iff.1 h
    cases hpieces
    rw [Written.separated_iff]
    refine .flatten fun part hpart => ?_
    rcases List.mem_append.1 hpart with hpart | hpart
    · refine items_written hkeys (fun key _ part hkey => ?_) part hpart
      obtain ⟨piece, hpiece, hpieces⟩ := Action.bind_eq_ok_iff.1 hkey
      cases hpieces
      exact column_piece_written hreads hpiece (by simp [Written.nil])
    · exact items_written haggregates (fun _ _ _ => aggregate_written hreads) part hpart
  split at h
  · obtain ⟨items, hitems, hpieces⟩ := Action.bind_eq_ok_iff.1 h
    cases hpieces
    rw [Written.separated_iff]
    exact .flatten (items_written hitems fun _ _ _ => aggregate_written hreads)
  split at h
  · obtain ⟨aliasName, halias, hpieces⟩ := Action.bind_eq_ok_iff.1 h
    cases hpieces
    exact Written.star_cons_iff.2 ⟨occurs_of_declared hreads halias, .nil⟩
  · obtain ⟨items, hitems, hpieces⟩ := Action.bind_eq_ok_iff.1 h
    cases hpieces
    rw [Written.separated_iff]
    refine .flatten fun part hpart => ?_
    obtain ⟨listed, hlisted, hpart⟩ := List.mem_flatten.1 hpart
    obtain ⟨entry, -, hcolumns⟩ := exists_of_mem_map_m hitems hlisted
    obtain ⟨column, -, hcolumn⟩ := exists_of_mem_map_m hcolumns hpart
    obtain ⟨piece, hpiece, hpieces⟩ := Action.bind_eq_ok_iff.1 hcolumn
    cases hpieces
    refine column_piece_written hreads hpiece ?_
    split
    · simp [Written.nil]
    · exact .nil

/-- The clause of the group keys reads columns of declared aliases. -/
theorem group_clause_written (hreads : flat.ReadsDeclared) {first : Nat} {pieces : SqlPieces}
    (h : flat.groupClause = .ok pieces) : Written flat pieces first 0 := by
  unfold groupClause at h
  split at h
  · obtain ⟨keys, hkeys, hpieces⟩ := Action.bind_eq_ok_iff.1 h
    cases hpieces
    rw [Written.word_cons_iff, Written.separated_iff]
    refine .flatten (items_written hkeys fun key _ part hkey => ?_)
    obtain ⟨piece, hpiece, hpieces⟩ := Action.bind_eq_ok_iff.1 hkey
    cases hpieces
    exact column_piece_written hreads hpiece .nil
  · cases h
    exact .nil

/-- The clause that sorts the rows reads columns of declared aliases. -/
theorem order_clause_written (hreads : flat.ReadsDeclared) {first : Nat} {pieces : SqlPieces}
    (h : flat.orderClause = .ok pieces) : Written flat pieces first 0 := by
  obtain ⟨terms, hterms, hpieces⟩ := Action.bind_eq_ok_iff.1 h
  cases hpieces
  rw [Written.word_cons_iff, Written.separated_iff]
  refine .flatten (items_written hterms fun term _ part hterm => ?_)
  obtain ⟨piece, hpiece, hpieces⟩ := Action.bind_eq_ok_iff.1 hterm
  cases hpieces
  refine column_piece_written hreads hpiece ?_
  split
  · simp [Written.nil]
  · exact .nil

/-! ## Tables -/

/-- The condition of a join: the keys of the alias that it starts from are those of its target. -/
def joinCondition (source : String) (join : JoinEntry) : SqlPieces :=
  separated " AND " (join.spec.keyPairs.map fun pair =>
    [.column source pair.1, .word " = ", .column join.target pair.2])

/-- A join along a relationship as the statement has it. -/
def joinText (flat : FlatQuery) (join : JoinEntry) : SqlPieces :=
  .word (if join.spec.isOuter then " LEFT OUTER JOIN " else " INNER JOIN ") ::
    .table join.spec.targetTable :: .word " AS " :: .name join.target :: .word " ON " ::
    joinCondition (flat.resolve join.source) join

/-- The base table as the statement has it. -/
def baseText (flat : FlatQuery) (base : TableOccurrence) : SqlPieces :=
  [.word " FROM ", .table base.table, .word " AS ", .name (flat.resolve base.aliasName)]

/-- A cross join as the statement has it. -/
def crossText (cross : TableOccurrence) : SqlPieces :=
  [.word " CROSS JOIN ", .table cross.table, .word " AS ", .name cross.aliasName]

/-- A join along a relationship starts from a declared alias, and is written so. -/
theorem join_pieces_eq_ok {join : JoinEntry} {pieces : SqlPieces}
    (h : flat.joinPieces join = .ok pieces) :
    flat.declared join.source = .ok (flat.resolve join.source) ∧ pieces = flat.joinText join := by
  obtain ⟨source, hsource, hpieces⟩ := Action.bind_eq_ok_iff.1 h
  obtain rfl := declared_eq_ok hsource
  cases hpieces
  exact ⟨hsource, rfl⟩

/-- The tables of a statement: the base table, then the joins along relationships, then the cross
joins, and each join along a relationship starts from a declared alias. -/
theorem from_clause_eq_ok {base : TableOccurrence} {tables : SqlPieces}
    (h : flat.fromClause base = .ok tables) :
    (∀ join ∈ flat.joins, flat.declared join.source = .ok (flat.resolve join.source)) ∧
      tables = flat.baseText base ++ flat.joins.flatMap flat.joinText ++
        flat.crossJoins.flatMap crossText := by
  obtain ⟨joins, hjoins, htables⟩ := Action.bind_eq_ok_iff.1 h
  cases htables
  have hlisted : joins = flat.joins.map flat.joinText :=
    map_of_map_m (fun join _ pieces hpieces => (join_pieces_eq_ok hpieces).2) hjoins
  refine ⟨fun join hjoin => ?_, ?_⟩
  · obtain ⟨pieces, hpieces⟩ := ok_of_map_m hjoins hjoin
    exact (join_pieces_eq_ok hpieces).1
  · rw [hlisted, ← List.flatMap_def]
    rfl

/-- The condition of a join reads the alias that it starts from and the one that it leads to. -/
theorem join_written (hreads : flat.ReadsDeclared) {join : JoinEntry} (hjoin : join ∈ flat.joins)
    (hdeclared : flat.declared join.source = .ok (flat.resolve join.source)) {first : Nat} :
    Written flat (flat.joinText join) first 0 := by
  have htarget : flat.Occurs join.target join.spec.targetTable :=
    List.mem_cons_of_mem _ (List.mem_append_left _ (List.mem_map.2 ⟨join, hjoin, rfl⟩))
  have hcondition : Written flat (joinCondition (flat.resolve join.source) join) first 0 := by
    rw [joinCondition, Written.separated_iff]
    refine .flatten fun part hpart => ?_
    obtain ⟨pair, -, rfl⟩ := List.mem_map.1 hpart
    rw [Written.column_cons_iff, Written.word_cons_iff, Written.column_cons_iff]
    exact ⟨occurs_of_declared hreads hdeclared, ⟨_, htarget⟩, .nil⟩
  simpa [joinText] using hcondition

/-- The tables of a statement are joined by aliases that are read. -/
theorem from_clause_written (hreads : flat.ReadsDeclared) {base : TableOccurrence} {first : Nat}
    {tables : SqlPieces} (h : flat.fromClause base = .ok tables) : Written flat tables first 0 := by
  obtain ⟨hdeclared, rfl⟩ := from_clause_eq_ok h
  have hjoins : Written flat (flat.joins.flatMap flat.joinText) first 0 := by
    refine .flatten fun part hpart => ?_
    obtain ⟨join, hjoin, rfl⟩ := List.mem_map.1 hpart
    exact join_written hreads hjoin (hdeclared join hjoin)
  have hcross : Written flat (flat.crossJoins.flatMap crossText) first 0 := by
    refine .flatten fun part hpart => ?_
    obtain ⟨cross, -, rfl⟩ := List.mem_map.1 hpart
    simp [crossText, Written.nil]
  simpa [baseText] using hjoins.append hcross

/-! ## Statements -/

/-- What the statement reads: the number of rows, or what is selected. -/
def resultList (flat : FlatQuery) (dialect : Dialect) (projection : NameMap (List String)) :
    Except QueryError SqlPieces :=
  if flat.count ∧ !flat.wrapsCount then .ok [.word "COUNT(*)"]
  else flat.selectList dialect projection

/-- The clause that sorts the rows, if they are sorted. -/
def sortClause (flat : FlatQuery) : Except QueryError SqlPieces :=
  if flat.isOrdered then flat.orderClause else .ok []

/-- What stands before the select list of a statement. -/
def opening (flat : FlatQuery) (dialect : Dialect) : SqlPieces :=
  (if flat.wrapsCount then [SqlPiece.word "SELECT COUNT(*) FROM ("] else []) ++
    [SqlPiece.word "SELECT"] ++ (if flat.distinct then [SqlPiece.word " DISTINCT"] else []) ++
    blankBefore (if flat.isScalar then none else dialect.topClause flat.skip flat.take) ++
    [SqlPiece.word " "]

/-- What stands after the clauses of a statement. -/
def closing (flat : FlatQuery) (dialect : Dialect) : SqlPieces :=
  blankBefore (if flat.isScalar then none
    else dialect.pagingClause flat.skip flat.take flat.isOrdered) ++
    (if flat.wrapsCount then [SqlPiece.word ") AS ", SqlPiece.name "counted"] else [])

/-- A statement clause by clause. -/
theorem statement_eq (base : TableOccurrence) (projection : NameMap (List String)) :
    flat.statement dialect base projection = do
      let list ← flat.resultList dialect projection
      let tables ← flat.fromClause base
      let filters ← flat.conjunction dialect " WHERE " 0 flat.filters
      let groups ← flat.groupClause
      let having ← flat.conjunction dialect " HAVING "
        (flat.filters.flatMap Expr.boundValues).length flat.having
      let order ← flat.sortClause
      return flat.opening dialect ++ list ++ tables ++ filters ++ groups ++ having ++
        flat.setPieces ++ order ++ flat.closing dialect := by
  unfold statement resultList sortClause opening closing
  cases flat.wrapsCount <;> cases flat.isOrdered <;> cases flat.count <;> simp

/-- An optional clause is the same whatever is read and passed. -/
theorem fixed_blank_before (clause : Option String) : Fixed (blankBefore clause) := by
  cases clause <;> simp [Fixed, blankBefore]

/-- What stands before the select list is the same whatever is read and passed. -/
theorem fixed_opening (flat : FlatQuery) (dialect : Dialect) : Fixed (flat.opening dialect) := by
  unfold opening
  refine .append (.append (.append (.append ?_ ?_) ?_) (fixed_blank_before _)) ?_
  · cases flat.wrapsCount <;> simp [Fixed]
  · simp [Fixed]
  · cases flat.distinct <;> simp [Fixed]
  · simp [Fixed]

/-- What stands after the clauses is the same whatever is read and passed. -/
theorem fixed_closing (flat : FlatQuery) (dialect : Dialect) : Fixed (flat.closing dialect) := by
  unfold closing
  refine .append (fixed_blank_before _) ?_
  cases flat.wrapsCount <;> simp [Fixed]

/-- A combination with another statement is the same whatever is read and passed. -/
theorem fixed_set_pieces (flat : FlatQuery) : Fixed flat.setPieces := by
  unfold setPieces
  cases flat.setOperation <;> simp [Fixed]

/-- The statement of a flat query reads columns of aliases that are read under those names, in its
clause of tables and elsewhere, and has a slot for each bound value in their order. -/
theorem statement_written (hreads : flat.ReadsDeclared) {base : TableOccurrence}
    {projection : NameMap (List String)} {pieces : SqlPieces}
    (h : flat.statement dialect base projection = .ok pieces) :
    Written flat pieces 0 flat.boundValues.length ∧
      ∃ tables, flat.fromClause base = .ok tables ∧ tables <:+: pieces := by
  rw [statement_eq] at h
  obtain ⟨list, hlist, h⟩ := Action.bind_eq_ok_iff.1 h
  obtain ⟨tables, htables, h⟩ := Action.bind_eq_ok_iff.1 h
  obtain ⟨filters, hfilters, h⟩ := Action.bind_eq_ok_iff.1 h
  obtain ⟨groups, hgroups, h⟩ := Action.bind_eq_ok_iff.1 h
  obtain ⟨having, hhaving, h⟩ := Action.bind_eq_ok_iff.1 h
  obtain ⟨order, horder, hpieces⟩ := Action.bind_eq_ok_iff.1 h
  obtain rfl := Except.ok.inj hpieces
  have hlist : Written flat list 0 0 := by
    unfold resultList at hlist
    split at hlist
    · cases hlist
      exact Written.word_cons_iff.2 .nil
    · exact select_list_written hreads hlist
  have horder : ∀ first, Written flat order first 0 := by
    intro first
    unfold sortClause at horder
    split at horder
    · exact order_clause_written hreads horder
    · cases horder
      exact .nil
  have hread := ((Written.of_fixed (flat.fixed_opening dialect)).append hlist).append
    (from_clause_written hreads htables)
  have hgrouped := (hread.append (conjunction_written hreads hfilters)).append
    (group_clause_written hreads hgroups)
  have hfiltered : Written flat
      (flat.opening dialect ++ list ++ tables ++ filters ++ groups ++ having) 0
      flat.boundValues.length := by
    rw [boundValues, List.flatMap_append, List.length_append]
    have hlater := conjunction_written hreads hhaving
    simpa using hgrouped.append (by simpa using hlater)
  refine ⟨?_, tables, htables, ?_⟩
  · exact ((hfiltered.append (.of_fixed flat.fixed_set_pieces)).append (horder _)).append
      (.of_fixed (flat.fixed_closing dialect))
  · exact ⟨flat.opening dialect ++ list, filters ++ groups ++ having ++ flat.setPieces ++ order ++
      flat.closing dialect, by simp only [List.append_assoc]⟩

end FlatQuery

end Orm
