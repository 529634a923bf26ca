import Orm.Sql.Dialect
import Orm.Sql.GroupedLayout

/-!
# The statement of a query

`FlatQuery.statement` gives the pieces of the statement for a flat query and `FlatQuery.render` its
text and parameters. The parameters are the bound values of the filters and then of the conditions
on groups, numbered from zero in the order in which their slots occur.
-/

namespace Orm

/-- A statement with the parameters that it needs. -/
structure RenderedQuery where
  text : String
  params : List CommandParameter
deriving DecidableEq

/-- The command that executes a rendered query. -/
def RenderedQuery.command (rendered : RenderedQuery) : Command :=
  .statement rendered.text rendered.params

namespace FlatQuery

/-- The alias of the statement for a referenced one, which must be declared. -/
def declared (flat : FlatQuery) (aliasName : String) : Except QueryError String :=
  if flat.aliases.contains (flat.resolve aliasName) then .ok (flat.resolve aliasName)
  else .error (.unknownAlias aliasName)

/-- A column of a referenced alias. -/
def columnPiece (flat : FlatQuery) (ref : ColumnRef) : Except QueryError SqlPiece :=
  (flat.declared ref.aliasName).map fun aliasName => .column aliasName ref.column

/-- Slots for parameters from a number on, with commas between them. -/
def slots (first count : Nat) : SqlPieces :=
  separated ", " ((List.range count).map fun offset => [.slot (first + offset)])

/-- The pieces of an expression, its parameters being numbered from `first` on. A comparison with
null becomes a test for null, and nothing is one of no items. -/
def exprPieces (flat : FlatQuery) (dialect : Dialect) (first : Nat) :
    Expr → Except QueryError SqlPieces
  | .column ref => return [← flat.columnPiece ref]
  | .literal value => .ok (if value.isNull then [.word "NULL"] else [.slot first])
  | .binary .eq left (.literal .null) =>
      return (← exprPieces flat dialect first left) ++ [.word " IS NULL"]
  | .binary .notEq left (.literal .null) =>
      return (← exprPieces flat dialect first left) ++ [.word " IS NOT NULL"]
  | .binary op left right => do
      let leftPieces ← exprPieces flat dialect first left
      let rightPieces ← exprPieces flat dialect (first + left.boundValues.length) right
      return .word "(" :: leftPieces ++ [.word " ", .word op.symbol, .word " "] ++ rightPieces ++
        [.word ")"]
  | .not inner =>
      return .word "NOT (" :: (← exprPieces flat dialect first inner) ++ [.word ")"]
  | .isNull inner => return (← exprPieces flat dialect first inner) ++ [.word " IS NULL"]
  | .isNotNull inner => return (← exprPieces flat dialect first inner) ++ [.word " IS NOT NULL"]
  | .oneOf inner items =>
      if items.isEmpty then .ok [.word "1 = 0"]
      else do
        let innerPieces ← exprPieces flat dialect first inner
        return innerPieces ++ [.word " IN ("] ++
          slots (first + inner.boundValues.length) items.length ++ [.word ")"]
  | .like inner _ => do
      let innerPieces ← exprPieces flat dialect first inner
      return innerPieces ++ [.word " LIKE ", .slot (first + inner.boundValues.length)]
  | .aggregate op argument =>
      let function := dialect.aggregateFunction op
      match argument with
      | some ref =>
          return [.word function, .word "(", ← flat.columnPiece ref, .word ")"]
      | none =>
          if op = .count then .ok [.word function, .word "(", .word "*", .word ")"]
          else .error (.aggregateArgumentRequired op)

/-- The pieces of each of some conditions, whose parameters are numbered from `first` on. -/
def conditionPieces (flat : FlatQuery) (dialect : Dialect) :
    Nat → List Expr → Except QueryError (List SqlPieces)
  | _, [] => .ok []
  | first, condition :: rest => do
      let pieces ← flat.exprPieces dialect first condition
      return pieces :: (← conditionPieces flat dialect (first + condition.boundValues.length) rest)

/-- A clause of conditions that all hold, after its keyword, or nothing if there are none. -/
def conjunction (flat : FlatQuery) (dialect : Dialect) (keyword : String) (first : Nat)
    (conditions : List Expr) : Except QueryError SqlPieces :=
  if conditions.isEmpty then .ok []
  else do
    return .word keyword :: separated " AND " (← flat.conditionPieces dialect first conditions)

/-- An aggregate of a column under an output name. -/
def aggregatePieces (flat : FlatQuery) (dialect : Dialect) (op : AggregateOp) (ref : ColumnRef)
    (name : String) : Except QueryError SqlPieces :=
  return [.word (dialect.aggregateFunction op), .word "(", ← flat.columnPiece ref, .word ")",
    .word " AS ", .name name]

/-- The selected columns of an alias; with more than one alias each is named by both. -/
def projectionPieces (flat : FlatQuery) (qualified : Bool) (aliasName column : String) :
    Except QueryError SqlPieces :=
  return (← flat.columnPiece ⟨aliasName, column⟩) ::
    (if qualified then [.word " AS ", .name (aliasName ++ "." ++ column)] else [])

/-- What the statement reads: keys and aggregates of groups, aggregates over all rows, selected
columns, or all columns of the default occurrence. -/
def selectList (flat : FlatQuery) (dialect : Dialect) (projection : NameMap (List String)) :
    Except QueryError SqlPieces :=
  if flat.isGrouped then do
    let layout := GroupedLayout.of flat
    let keys ← layout.keys.mapM fun key => do
      return [← flat.columnPiece key.1, .word " AS ", .name key.2]
    let aggregates ← layout.aggregates.mapM fun aggregate =>
      flat.aggregatePieces dialect aggregate.1.op aggregate.1.ref aggregate.2
    return separated ", " (keys ++ aggregates)
  else if !flat.aggregates.isEmpty then do
    let items ← flat.aggregates.mapM fun term =>
      flat.aggregatePieces dialect term.op ⟨term.aliasName, term.column⟩
        (term.op.tag ++ "_" ++ term.column)
    return separated ", " items
  else if projection.isEmpty then do
    return [.star (← flat.declared flat.child.aliasName)]
  else do
    let qualified := 1 < projection.size
    let items ← projection.toList.mapM fun entry =>
      entry.2.mapM (flat.projectionPieces qualified entry.1)
    return separated ", " items.flatten

/-- A join along a relationship with the condition that pairs its keys. -/
def joinPieces (flat : FlatQuery) (join : JoinEntry) : Except QueryError SqlPieces := do
  let source ← flat.declared join.source
  let pairs := join.spec.keyPairs.map fun pair =>
    [.column source pair.1, .word " = ", .column join.target pair.2]
  return [.word (if join.spec.isOuter then " LEFT OUTER JOIN " else " INNER JOIN "),
    .table join.spec.targetTable, .word " AS ", .name join.target, .word " ON "] ++
    separated " AND " pairs

/-- The tables that the statement reads: the base table, then joins along relationships, then cross
joins. -/
def fromClause (flat : FlatQuery) (base : TableOccurrence) : Except QueryError SqlPieces := do
  let joins ← flat.joins.mapM flat.joinPieces
  return [.word " FROM ", .table base.table, .word " AS ", .name (flat.resolve base.aliasName)] ++
    joins.flatten ++
    flat.crossJoins.flatMap fun cross =>
      [.word " CROSS JOIN ", .table cross.table, .word " AS ", .name cross.aliasName]

/-- The clause of the group keys, or nothing. -/
def groupClause (flat : FlatQuery) : Except QueryError SqlPieces :=
  if flat.isGrouped then do
    let keys ← (flat.grouping.flatMap GroupingEntry.keys).mapM fun key => do
      return [← flat.columnPiece key]
    return .word " GROUP BY " :: separated ", " keys
  else .ok []

/-- The clause that sorts the rows. -/
def orderClause (flat : FlatQuery) : Except QueryError SqlPieces := do
  let terms ← flat.ordering.mapM fun term => do
    return (← flat.columnPiece ⟨term.aliasName, term.column⟩) ::
      (if term.direction = .descending then [.word " DESC"] else [])
  return .word " ORDER BY " :: separated ", " terms

/-- Whether only a part of the rows is asked for. -/
def isPaged (flat : FlatQuery) : Bool := flat.skip.isSome || flat.take.isSome

/-- Whether the rows are counted by a statement around the one that reads them. -/
def wrapsCount (flat : FlatQuery) : Bool := flat.count && (flat.distinct || flat.isPaged)

/-- Whether the inner statement gives a single row of numbers. -/
def isScalar (flat : FlatQuery) : Bool :=
  flat.count && !flat.wrapsCount || !flat.aggregates.isEmpty

/-- Whether the rows are sorted; a statement inside another is only if it is also paged. -/
def isOrdered (flat : FlatQuery) : Bool :=
  !flat.isScalar && !(flat.wrapsCount && !flat.isPaged) && !flat.ordering.isEmpty

/-- The combination with another statement. -/
def setPieces (flat : FlatQuery) : SqlPieces :=
  match flat.setOperation with
  | none => []
  | some operation => [.word " ", .word operation.kind.keyword, .word " ", .word operation.sql]

/-- The statement of a flat query that reads the given columns from the given base table. -/
def statement (flat : FlatQuery) (dialect : Dialect) (base : TableOccurrence)
    (projection : NameMap (List String)) : Except QueryError SqlPieces := do
  let list ← if flat.count ∧ !flat.wrapsCount then .ok [.word "COUNT(*)"]
    else flat.selectList dialect projection
  let tables ← flat.fromClause base
  let filters ← flat.conjunction dialect " WHERE " 0 flat.filters
  let groups ← flat.groupClause
  let having ← flat.conjunction dialect " HAVING "
    (flat.filters.flatMap Expr.boundValues).length flat.having
  let order ← if flat.isOrdered then flat.orderClause else .ok []
  let top := if flat.isScalar then none else dialect.topClause flat.skip flat.take
  let paging :=
    if flat.isScalar then none else dialect.pagingClause flat.skip flat.take flat.isOrdered
  -- A limit stands before the list or at the end, as the dialect wants it.
  let inner := [.word "SELECT"] ++ (if flat.distinct then [.word " DISTINCT"] else []) ++
    blankBefore top ++ [.word " "] ++ list ++ tables ++ filters ++ groups ++ having ++
    flat.setPieces ++ order ++ blankBefore paging
  return if flat.wrapsCount then
      .word "SELECT COUNT(*) FROM (" :: inner ++ [.word ") AS ", .name "counted"]
    else inner

/-- The values that the statement of a flat query passes, in the order of their slots. -/
def boundValues (flat : FlatQuery) : List Value :=
  (flat.filters ++ flat.having).flatMap Expr.boundValues

/-- The parameters of a flat query: its own, then those of a combined statement. -/
def params (flat : FlatQuery) (dialect : Dialect) : List CommandParameter :=
  dialect.params flat.boundValues ++
    match flat.setOperation with
    | none => []
    | some operation => operation.params.map fun param => .input param.1 param.2

/-- The text and parameters of a flat query that reads the given columns from the given base
table. -/
def render (flat : FlatQuery) (dialect : Dialect) (base : TableOccurrence)
    (projection : NameMap (List String)) : Except QueryError RenderedQuery :=
  (flat.statement dialect base projection).map fun pieces =>
    ⟨dialect.text pieces, flat.params dialect⟩

end FlatQuery

end Orm
