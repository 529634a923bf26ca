import Orm.Query.Expr
import Orm.Schema.Relationship

/-!
# Queries

A query is a base table and the operators applied to it, first applied first. Every builder gives a
new query and leaves the one it is applied to as it was.
-/

namespace Orm

/-- A join along a relationship. -/
structure JoinSpec where
  primaryTable : Table
  primaryKeys : List String
  foreignTable : Table
  foreignKeys : List String
  isOuter : Bool
  side : RelationshipSide
deriving DecidableEq, Repr

namespace JoinSpec

/-- The join along a relationship to one of its sides. -/
def ofRelationship (relationship : Relationship) (side : RelationshipSide) (isOuter : Bool) :
    JoinSpec where
  primaryTable := relationship.primaryTable
  primaryKeys := relationship.primaryKeys
  foreignTable := relationship.foreignTable
  foreignKeys := relationship.foreignKeys
  isOuter := isOuter
  side := side

/-- The table that the join leads to. -/
def targetTable (join : JoinSpec) : Table :=
  match join.side with
  | .children => join.foreignTable
  | .parents => join.primaryTable

/-- The pairs of a key column where the join starts and the one it leads to. -/
def keyPairs (join : JoinSpec) : List (String × String) :=
  match join.side with
  | .children => join.primaryKeys.zip join.foreignKeys
  | .parents => join.foreignKeys.zip join.primaryKeys

end JoinSpec

/-- An aggregate of a column in a grouped query. -/
structure GroupAggregate where
  op : AggregateOp
  ref : ColumnRef
deriving DecidableEq, Repr

/-- The rows of two queries combined. -/
inductive SetKind
  | union
  | unionAll
  | intersect
  | except
deriving DecidableEq, Repr

/-- The keyword of a combination. -/
def SetKind.keyword : SetKind → String
  | .union => "UNION"
  | .unionAll => "UNION ALL"
  | .intersect => "INTERSECT"
  | .except => "EXCEPT"

/-- A combination with a statement that is written already and has parameters of its own. -/
structure SetOperation where
  kind : SetKind
  sql : String
  params : List (String × Value)
deriving DecidableEq

/-- One operator of a query. -/
inductive QueryOperator
  | base (aliasName : String) (table : Table)
  | join (source : String) (spec : JoinSpec) (target : String)
  | crossJoin (source : String) (table : Table) (target : String)
  | groupBy (aliasName : String) (keys : List ColumnRef) (aggregates : List GroupAggregate)
  | filter (condition : Expr)
  | having (condition : Expr)
  | select (value : Expr)
  | distinct
  | orderBy (aliasName column : String) (direction : OrderDirection)
  | combine (operation : SetOperation)
  | skip (count : Nat)
  | take (count : Nat)
  | count
  | aggregate (op : AggregateOp) (aliasName column : String)
deriving DecidableEq

/-- A base table and the operators applied to it. -/
structure Query where
  baseAlias : String
  baseTable : Table
  operators : List QueryOperator
deriving DecidableEq

namespace Query

/-- The rows of a table. -/
def ofTable (aliasName : String) (table : Table) : Query := ⟨aliasName, table, []⟩

/-- A query with one more operator. -/
def apply (query : Query) (operator : QueryOperator) : Query :=
  { query with operators := query.operators ++ [operator] }

end Query

end Orm
