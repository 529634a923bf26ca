import Orm.Exchange.Command
import Orm.Sql.DoubleQuotes

/-!
# Exchanged queries

An expression is an object whose only member names its kind, an operator an array that begins with
its name. Flat queries can be shown but not given: they are made from queries.
-/

namespace Orm

/-- The names of aggregates. -/
def AggregateOp.names : List (String × AggregateOp) :=
  [("Count", .count), ("Sum", .sum), ("Avg", .avg), ("Min", .min), ("Max", .max),
    ("StdDev", .stdDev), ("Var", .variance)]

/-- The names of operators between expressions. -/
def BinaryOp.names : List (String × BinaryOp) :=
  [("Eq", .eq), ("NotEq", .notEq), ("Lt", .lt), ("LtEq", .ltEq), ("Gt", .gt), ("GtEq", .gtEq),
    ("And", .and), ("Or", .or), ("Add", .add), ("Sub", .sub), ("Mul", .mul), ("Div", .div)]

/-- The names of the sides of a relationship. -/
def RelationshipSide.names : List (String × RelationshipSide) :=
  [("Children", .children), ("Parents", .parents)]

/-- The names of the ways to combine two queries. -/
def SetKind.names : List (String × SetKind) :=
  [("union", .union), ("union_all", .unionAll), ("intersect", .intersect), ("except", .except)]

/-- The aggregate of an exchanged form. -/
def AggregateOp.ofExchange? : Json → Option AggregateOp := Json.asNamed? names

/-- The exchanged form of an aggregate. -/
def AggregateOp.toExchange : AggregateOp → Json := Json.ofNamed names

/-- The column of an exchanged form. -/
def ColumnRef.ofExchange? (document : Json) : Option ColumnRef :=
  (document.asPair? Json.asText? Json.asText?).map fun (aliasName, column) => ⟨aliasName, column⟩

/-- The exchanged form of a column of an alias. -/
def ColumnRef.toExchange (ref : ColumnRef) : Json := .array [.text ref.aliasName, .text ref.column]

namespace Expr

/-- The expression of an exchanged form. -/
def ofExchange? : Json → Option Expr
  | .object [("col", ref)] => (ColumnRef.ofExchange? ref).map .column
  | .object [("lit", value)] => (Value.ofExchange? value).map .literal
  | .object [("bin", .array [op, left, right])] => do
      return .binary (← op.asNamed? BinaryOp.names) (← ofExchange? left) (← ofExchange? right)
  | .object [("not", inner)] => (ofExchange? inner).map .not
  | .object [("isnull", inner)] => (ofExchange? inner).map .isNull
  | .object [("notnull", inner)] => (ofExchange? inner).map .isNotNull
  | .object [("in", .array [inner, items])] => do
      return .oneOf (← ofExchange? inner) (← items.asList? Value.ofExchange?)
  | .object [("like", .array [inner, .text pattern])] => do
      return .like (← ofExchange? inner) pattern
  | .object [("agg", .array [op, argument])] => do
      let op ← AggregateOp.ofExchange? op
      match argument with
      | .null => return .aggregate op none
      | ref => return .aggregate op (some (← ColumnRef.ofExchange? ref))
  | _ => none

/-- The exchanged form of an expression. -/
def toExchange : Expr → Json
  | .column ref => .object [("col", ref.toExchange)]
  | .literal value => .object [("lit", value.toExchange)]
  | .binary op left right =>
      .object [("bin", .array [.ofNamed BinaryOp.names op, toExchange left, toExchange right])]
  | .not inner => .object [("not", toExchange inner)]
  | .isNull inner => .object [("isnull", toExchange inner)]
  | .isNotNull inner => .object [("notnull", toExchange inner)]
  | .oneOf inner items =>
      .object [("in", .array [toExchange inner, .ofList Value.toExchange items])]
  | .like inner pattern => .object [("like", .array [toExchange inner, .text pattern])]
  | .aggregate op argument =>
      .object [("agg", .array [op.toExchange, .ofOption ColumnRef.toExchange argument])]

end Expr

/-- The aggregate of a grouped query in its exchanged form. -/
def GroupAggregate.ofExchange? (document : Json) : Option GroupAggregate :=
  (document.asPair? AggregateOp.ofExchange? ColumnRef.ofExchange?).map fun (op, ref) => ⟨op, ref⟩

/-- The join along a relationship in its exchanged form. -/
def JoinSpec.ofExchange? (isOuter : Bool) (relationship side : Json) : Option JoinSpec := do
  return .ofRelationship (← Relationship.ofExchange? relationship)
    (← side.asNamed? RelationshipSide.names) isOuter

/-- The operator with a name and some arguments. -/
def QueryOperator.ofParts? : String → List Json → Option QueryOperator
  | "join", [.text source, relationship, side, .text target] => do
      return .join source (← JoinSpec.ofExchange? false relationship side) target
  | "left_join", [.text source, relationship, side, .text target] => do
      return .join source (← JoinSpec.ofExchange? true relationship side) target
  | "cross", [.text source, table, .text target] => do
      return .crossJoin source (← Table.ofExchange? table) target
  | "group", [.text aliasName, keys, aggregates] => do
      return .groupBy aliasName (← keys.asList? ColumnRef.ofExchange?)
        (← aggregates.asList? GroupAggregate.ofExchange?)
  | "filter", [condition] => (Expr.ofExchange? condition).map .filter
  | "having", [condition] => (Expr.ofExchange? condition).map .having
  | "select", [value] => (Expr.ofExchange? value).map .select
  | "distinct", [] => some .distinct
  | "order", [.text aliasName, .text column] => some (.orderBy aliasName column .ascending)
  | "order_desc", [.text aliasName, .text column] => some (.orderBy aliasName column .descending)
  | "skip", [number] => number.asNat?.map .skip
  | "take", [number] => number.asNat?.map .take
  | "count", [] => some .count
  | "agg", [op, .text aliasName, .text column] => do
      return .aggregate (← AggregateOp.ofExchange? op) aliasName column
  | kind, [.text sql, params] => do
      return .combine ⟨← SetKind.names.lookup kind, sql, ← Value.pairsOfExchange? params⟩
  | _, _ => none

/-- The operator of an exchanged form. -/
def QueryOperator.ofExchange? : Json → Option QueryOperator
  | .array (.text name :: arguments) => ofParts? name arguments
  | _ => none

/-- The occurrence of a table in its exchanged form. -/
def TableOccurrence.ofExchange? (document : Json) : Option TableOccurrence :=
  (document.asPair? Json.asText? Table.ofExchange?).map fun (aliasName, table) => ⟨aliasName, table⟩

/-- The exchanged form of the occurrence of a table. -/
def TableOccurrence.toExchange (occurrence : TableOccurrence) : Json :=
  .array [.text occurrence.aliasName, occurrence.table.toExchange]

/-- The query of an exchanged form. -/
def Query.ofExchange? (document : Json) : Option Query := do
  let base ← document.required? "base" TableOccurrence.ofExchange?
  let operators ← document.listMember? "ops" QueryOperator.ofExchange?
  return operators.foldl Query.apply (.ofTable base.aliasName base.table)

/-- The dialect that a document names. -/
def Dialect.ofExchange? (document : Json) : Option Dialect := do
  let name ← document.asText?
  [Dialect.brackets, .doubleQuotes, .boastful].find? fun dialect => dialect.name = name

/-- The exchanged form of a join. -/
def JoinEntry.toExchange (join : JoinEntry) : Json :=
  let spec := join.spec
  .array [.text join.source,
    .object [("primary", spec.primaryTable.toExchange), ("pk", .ofList .text spec.primaryKeys),
      ("foreign", spec.foreignTable.toExchange), ("fk", .ofList .text spec.foreignKeys),
      ("outer", .bool spec.isOuter), ("direction", .ofNamed RelationshipSide.names spec.side),
      ("target", spec.targetTable.toExchange), ("pairs", .ofPairs .text spec.keyPairs)],
    .text join.target]

/-- The exchanged form of an aggregate of a group. -/
def GroupAggregate.toExchange (aggregate : GroupAggregate) : Json :=
  .array [aggregate.op.toExchange, aggregate.ref.toExchange]

/-- The exchanged form of a grouping. -/
def GroupingEntry.toExchange (grouping : GroupingEntry) : Json :=
  .array [.text grouping.aliasName, .ofList ColumnRef.toExchange grouping.keys,
    .ofList GroupAggregate.toExchange grouping.aggregates]

/-- The exchanged form of a column that rows are sorted by. -/
def OrderTerm.toExchange (term : OrderTerm) : Json :=
  .array [.text term.aliasName, .text term.column, .bool (term.direction = .descending)]

/-- The exchanged form of an aggregate over all rows. -/
def AggregateTerm.toExchange (term : AggregateTerm) : Json :=
  .array [term.op.toExchange, .text term.aliasName, .text term.column]

/-- The exchanged form of a combination. -/
def SetOperation.toExchange (operation : SetOperation) : Json :=
  .array [.text operation.kind.keyword, .text operation.sql,
    .ofPairs Value.toExchange operation.params]

/-- The exchanged form of a flat query, without the members that are empty. -/
def FlatQuery.toExchange (flat : FlatQuery) : Json :=
  let listed {α : Type} (name : String) (encode : α → Json) (items : List α) :=
    if items.isEmpty then [] else [(name, Json.ofList encode items)]
  let flag (name : String) (set : Bool) := if set then [(name, Json.bool true)] else []
  .object ([("base", flat.base.toExchange),
      ("aliases", .ofPairs Table.toExchange flat.aliases.toList),
      ("child", flat.child.toExchange), ("source", .text flat.sourceAlias)] ++
    listed "filters" Expr.toExchange flat.filters ++
    listed "having" Expr.toExchange flat.having ++
    listed "projections" Expr.toExchange flat.projections ++
    listed "joins" JoinEntry.toExchange flat.joins ++
    listed "cross" TableOccurrence.toExchange flat.crossJoins ++
    listed "order" OrderTerm.toExchange flat.ordering ++
    listed "grouping" GroupingEntry.toExchange flat.grouping ++
    listed "aggregates" AggregateTerm.toExchange flat.aggregates ++
    flag "distinct" flat.distinct ++ flag "count" flat.count ++
    flat.skip.toList.map (fun count => ("skip", .ofNat count)) ++
    flat.take.toList.map (fun count => ("take", .ofNat count)) ++
    flat.setOperation.toList.map (fun operation => ("set", operation.toExchange)))

/-- The exchanged form of the columns of a grouped query. -/
def GroupedLayout.toExchange (layout : GroupedLayout) : Json :=
  .object [
    ("keys", .ofList (fun key => .array [key.1.toExchange, .text key.2]) layout.keys),
    ("aggregates", .ofList (fun (aggregate, name) =>
      .array [aggregate.op.toExchange, aggregate.ref.toExchange, .text name]) layout.aggregates)]

/-- The exchanged form of selected columns by alias. -/
def projectionToExchange (projection : NameMap (List String)) : Json :=
  .ofPairs (.ofList .text) projection.toList

/-- The selected columns of an exchanged form. -/
def projectionOfExchange? (document : Json) : Option (NameMap (List String)) :=
  (document.asList? (Json.asPair? Json.asText? (Json.asList? Json.asText?))).map NameMap.ofList

end Orm
