import Orm.Data.NameMap
import Orm.Query.Operator

/-!
# Flat queries

A `FlatQuery` has one place for each kind of operator. `Query.flatten` puts the operators of a
query in their places and refuses a query whose operators contradict each other. An alias that no
operator declares can be a new name of the base table: `FlatQuery.sourceAlias` is the alias that
the base table has in the end, and `FlatQuery.resolve` maps the one it began with to it.
-/

namespace Orm

/-- A join along a relationship between two aliases. -/
structure JoinEntry where
  source : String
  spec : JoinSpec
  target : String
deriving DecidableEq, Repr

/-- The grouping of the rows of an alias. -/
structure GroupingEntry where
  aliasName : String
  keys : List ColumnRef
  aggregates : List GroupAggregate
deriving DecidableEq, Repr

/-- A column that rows are sorted by. -/
structure OrderTerm where
  aliasName : String
  column : String
  direction : OrderDirection
deriving DecidableEq, Repr

/-- An aggregate over all rows. -/
structure AggregateTerm where
  op : AggregateOp
  aliasName : String
  column : String
deriving DecidableEq, Repr

/-- An alias and the table it stands for. -/
structure TableOccurrence where
  aliasName : String
  table : Table
deriving DecidableEq, Repr, Inhabited

/-- A query with its operators sorted by kind. `child` is the occurrence whose columns are read
when none are selected. -/
structure FlatQuery where
  base : TableOccurrence
  filters : List Expr
  having : List Expr
  joins : List JoinEntry
  crossJoins : List TableOccurrence
  aliases : NameMap Table
  ordering : List OrderTerm
  projections : List Expr
  grouping : List GroupingEntry
  distinct : Bool
  child : TableOccurrence
  skip : Option Nat
  take : Option Nat
  setOperation : Option SetOperation
  count : Bool
  aggregates : List AggregateTerm
deriving DecidableEq

/-- Why the operators of a query do not fit together, or why a query cannot be written. -/
inductive QueryError
  | nestedBaseTable (aliasName : String)
  | duplicateDistinct
  | duplicateSkip (previous requested : Nat)
  | incompatibleTake (previous requested : Nat)
  | duplicateCount
  | duplicateSetOperation
  | setOperationWithTake
  | setOperationWithCount
  | unknownAlias (aliasName : String)
  | aggregateArgumentRequired (op : AggregateOp)
  | groupingWithoutKeys (aliasName : String)
deriving DecidableEq, Repr

/-- The text of a query error. -/
def QueryError.message : QueryError → String
  | .nestedBaseTable aliasName => s!"base table '{aliasName}' appears inside the chain"
  | .duplicateDistinct => "distinct applied more than once"
  | .duplicateSkip previous requested =>
      s!"skip already set to {previous}; cannot skip {requested}"
  | .incompatibleTake previous requested =>
      s!"take already set to {previous}; cannot take {requested}"
  | .duplicateCount => "count applied more than once"
  | .duplicateSetOperation => "only one set operation is supported per query"
  | .setOperationWithTake => "set operations cannot be combined with take"
  | .setOperationWithCount => "set operations cannot be combined with count"
  | .unknownAlias aliasName => s!"unknown alias '{aliasName}'"
  | .aggregateArgumentRequired op => "aggregate " ++ op.tag ++ " requires a column argument"
  | .groupingWithoutKeys aliasName => s!"group by on '{aliasName}' has no keys"

namespace FlatQuery

/-- The flat query of a table without operators. -/
def ofTable (aliasName : String) (table : Table) : FlatQuery where
  base := ⟨aliasName, table⟩
  filters := []
  having := []
  joins := []
  crossJoins := []
  aliases := NameMap.empty.insert aliasName table
  ordering := []
  projections := []
  grouping := []
  distinct := false
  child := ⟨aliasName, table⟩
  skip := none
  take := none
  setOperation := none
  count := false
  aggregates := []

/-- Whether a join leads to an alias. -/
def isJoinTarget (flat : FlatQuery) (aliasName : String) : Bool :=
  flat.joins.any (fun join => join.target = aliasName) ||
    flat.crossJoins.any (fun cross => cross.aliasName = aliasName)

/-- The alias that the base table has in the statement. -/
def sourceAlias (flat : FlatQuery) : String :=
  if flat.child.table = flat.base.table ∧ !flat.isJoinTarget flat.child.aliasName then
    flat.child.aliasName
  else flat.base.aliasName

/-- The alias that a referenced alias has in the statement. -/
def resolve (flat : FlatQuery) (aliasName : String) : String :=
  if aliasName = flat.base.aliasName then flat.sourceAlias else aliasName

/-- Whether rows are grouped. -/
def isGrouped (flat : FlatQuery) : Bool := !flat.grouping.isEmpty

/-- Adds a column under its alias unless it is there. -/
def addProjection (flat : FlatQuery) (known : NameMap (List String)) (ref : ColumnRef) :
    NameMap (List String) :=
  let aliasName := flat.resolve ref.aliasName
  let columns := (known.find? aliasName).getD []
  known.insert aliasName (if ref.column ∈ columns then columns else columns ++ [ref.column])

/-- The selected columns by alias, each once and in the order of their first use. -/
def projectionColumns (flat : FlatQuery) : NameMap (List String) :=
  (flat.projections.flatMap Expr.columns).foldl flat.addProjection .empty

end FlatQuery

/-- A flat query in the making, with the aliases that joins start from or lead to, each once. -/
structure Flattening where
  flat : FlatQuery
  endpoints : List String
deriving DecidableEq

namespace Flattening

/-- Notes that a join starts from or leads to an alias. -/
def observe (state : Flattening) (aliasName : String) : Flattening :=
  if aliasName ∈ state.endpoints then state
  else { state with endpoints := state.endpoints ++ [aliasName] }

/-- A flattening with the flat query changed. -/
def update (state : Flattening) (change : FlatQuery → FlatQuery) : Flattening :=
  { state with flat := change state.flat }

/-- The greatest number of rows after one more limit: a limit may be lowered, and one row may be
asked for at any time. -/
def tighterTake (previous : Option Nat) (requested : Nat) : Except QueryError Nat :=
  match previous with
  | none => .ok requested
  | some previous =>
      if requested ≤ previous ∨ requested = 1 then .ok (min previous requested)
      else .error (.incompatibleTake previous requested)

/-- Puts one operator in its place. -/
def step (state : Flattening) : QueryOperator → Except QueryError Flattening
  | .base aliasName _ => .error (.nestedBaseTable aliasName)
  | .join source spec target =>
      .ok (((state.update fun flat =>
        { flat with
          aliases := flat.aliases.insert target spec.targetTable
          joins := flat.joins ++ [⟨source, spec, target⟩] }).observe source).observe target)
  | .crossJoin source table target =>
      .ok (((state.update fun flat =>
        { flat with
          aliases := flat.aliases.insert target table
          crossJoins := flat.crossJoins ++ [⟨target, table⟩] }).observe source).observe target)
  | .groupBy aliasName keys aggregates =>
      if keys.isEmpty then .error (.groupingWithoutKeys aliasName)
      else .ok (state.update fun flat =>
        { flat with grouping := flat.grouping ++ [⟨aliasName, keys, aggregates⟩] })
  | .filter condition =>
      .ok (state.update fun flat => { flat with filters := flat.filters ++ [condition] })
  | .having condition =>
      .ok (state.update fun flat => { flat with having := flat.having ++ [condition] })
  | .select value =>
      .ok (state.update fun flat => { flat with projections := flat.projections ++ [value] })
  | .distinct =>
      if state.flat.distinct then .error .duplicateDistinct
      else .ok (state.update fun flat => { flat with distinct := true })
  | .orderBy aliasName column direction =>
      .ok (state.update fun flat =>
        { flat with ordering := flat.ordering ++ [⟨aliasName, column, direction⟩] })
  | .combine operation =>
      if state.flat.setOperation.isSome then .error .duplicateSetOperation
      else if state.flat.take.isSome then .error .setOperationWithTake
      else if state.flat.count then .error .setOperationWithCount
      else .ok (state.update fun flat => { flat with setOperation := some operation })
  | .skip requested =>
      match state.flat.skip with
      | some previous => .error (.duplicateSkip previous requested)
      | none => .ok (state.update fun flat => { flat with skip := some requested })
  | .take requested =>
      if state.flat.setOperation.isSome then .error .setOperationWithTake
      else (tighterTake state.flat.take requested).map fun limit =>
        state.update fun flat => { flat with take := some limit }
  | .count =>
      if state.flat.count then .error .duplicateCount
      else if state.flat.setOperation.isSome then .error .setOperationWithCount
      else .ok (state.update fun flat => { flat with count := true })
  | .aggregate op aliasName column =>
      .ok (state.update fun flat =>
        { flat with aggregates := flat.aggregates ++ [⟨op, aliasName, column⟩] })

/-- The flat query, with the occurrence whose columns are read by default. With joins none of which
mentions the base alias, the first alias that they mention is a new name of the base table. -/
def finish (state : Flattening) : FlatQuery :=
  let flat := state.flat
  let hasJoins := !flat.joins.isEmpty || !flat.crossJoins.isEmpty
  match state.endpoints with
  | aliasName :: _ =>
      if hasJoins ∧ flat.base.aliasName ∉ state.endpoints then
        -- The alias can be the target of a join that was declared before.
        let table := (flat.aliases.find? aliasName).getD flat.base.table
        { flat with child := ⟨aliasName, table⟩, aliases := flat.aliases.insert aliasName table }
      else { flat with child := flat.base }
  | [] => { flat with child := flat.base }

end Flattening

/-- The flat query of a query whose operators fit together. -/
def Query.flatten (query : Query) : Except QueryError FlatQuery :=
  (query.operators.foldlM Flattening.step
    ⟨.ofTable query.baseAlias query.baseTable, []⟩).map Flattening.finish

end Orm
