import Orm.Value.Basic

/-!
# Expressions of a query

Conditions and selected values. `Expr.columns` lists the columns that an expression reads and
`Expr.boundValues` the values that become parameters of a statement, both from left to right.
-/

namespace Orm

/-- A column of a table occurrence, which is known by its alias. -/
structure ColumnRef where
  aliasName : String
  column : String
deriving DecidableEq, Repr, Inhabited

/-- An operator between two expressions. -/
inductive BinaryOp
  | eq
  | notEq
  | lt
  | ltEq
  | gt
  | gtEq
  | and
  | or
  | add
  | sub
  | mul
  | div
deriving DecidableEq, Repr

/-- The sign of an operator. -/
def BinaryOp.symbol : BinaryOp → String
  | .eq => "="
  | .notEq => "<>"
  | .lt => "<"
  | .ltEq => "<="
  | .gt => ">"
  | .gtEq => ">="
  | .and => "AND"
  | .or => "OR"
  | .add => "+"
  | .sub => "-"
  | .mul => "*"
  | .div => "/"

/-- A function from the values of a column to one value. -/
inductive AggregateOp
  | count
  | sum
  | avg
  | min
  | max
  | stdDev
  | variance
deriving DecidableEq, Repr

/-- The word for an aggregate; the output columns of a grouped query begin with it. -/
def AggregateOp.tag : AggregateOp → String
  | .count => "COUNT"
  | .sum => "SUM"
  | .avg => "AVG"
  | .min => "MIN"
  | .max => "MAX"
  | .stdDev => "STDDEV"
  | .variance => "VAR"

/-- The order of a sorted column. -/
inductive OrderDirection
  | ascending
  | descending
deriving DecidableEq, Repr

/-- A condition or a selected value. An aggregate without an argument counts rows. -/
inductive Expr
  | column (ref : ColumnRef)
  | literal (value : Value)
  | binary (op : BinaryOp) (left right : Expr)
  | not (inner : Expr)
  | isNull (inner : Expr)
  | isNotNull (inner : Expr)
  | oneOf (inner : Expr) (items : List Value)
  | like (inner : Expr) (pattern : String)
  | aggregate (op : AggregateOp) (argument : Option ColumnRef)
deriving DecidableEq, Inhabited

namespace Expr

/-- The columns that an expression reads, from left to right. -/
def columns : Expr → List ColumnRef
  | .column ref => [ref]
  | .literal _ => []
  | .binary _ left right => columns left ++ columns right
  | .not inner | .isNull inner | .isNotNull inner | .oneOf inner _ | .like inner _ => columns inner
  | .aggregate _ argument => argument.toList

/-- The values of an expression that a statement passes as parameters, from left to right. A null
is written out, and an empty list of items makes the whole test a constant. -/
def boundValues : Expr → List Value
  | .column _ => []
  | .literal value => if value.isNull then [] else [value]
  | .binary _ left right => boundValues left ++ boundValues right
  | .not inner | .isNull inner | .isNotNull inner => boundValues inner
  | .oneOf inner items => if items.isEmpty then [] else boundValues inner ++ items
  | .like inner pattern => boundValues inner ++ [.text pattern]
  | .aggregate _ _ => []

end Expr

end Orm
