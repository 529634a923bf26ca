import Orm.Entity.Store
import Orm.Query.Expr
import Orm.Text.LowerCase
import Orm.Text.Search

/-!
# Groups

A group of a grouped query: its key, and one entity for each alias that gave a key or an aggregate.
`GroupedRow.aggregate` finds an aggregate by the words of its output column.
-/

namespace Orm

open Text

/-- Why an aggregate of a group cannot be read. -/
inductive AggregateError
  | noMatchingColumn (op : AggregateOp) (key column : String)
  | unsupportedRowShape (key : String)
  | coercion (cause : CoercionError)
deriving DecidableEq, Repr

/-- The text of an aggregate error. -/
def AggregateError.message : AggregateError → String
  | .noMatchingColumn op key column =>
      "no " ++ op.tag ++ s!" aggregate for column '{column}' in group {key}"
  | .unsupportedRowShape key => s!"group {key} carries no rows to read aggregates from"
  | .coercion cause => cause.message

/-- A group of a grouped query. -/
structure GroupedRow where
  key : List Value
  rows : List EntityId
deriving DecidableEq

namespace GroupedRow

/-- The key of a group in messages. -/
def keyLabel (group : GroupedRow) : String :=
  "(" ++ ", ".intercalate (group.key.map Value.display) ++ ")"

/-- Whether an output column holds an aggregate of a column: its name has the word of the aggregate
before an underscore and the column after one, without regard to case. -/
def holdsAggregate (op : AggregateOp) (column name : String) : Bool :=
  let lowered := (lower name).toList
  occursIn (lower (op.tag ++ "_")).toList lowered && occursIn (lower ("_" ++ column)).toList lowered

/-- The value of the first column of an entity that holds an aggregate. -/
def aggregateIn (op : AggregateOp) (column : String) (entity : Entity) : Option Value :=
  (entity.values.toList.find? fun entry => holdsAggregate op column entry.1).map Prod.snd

/-- An aggregate of a column, read as a type; a null reads as the default of the type. -/
def aggregate {α : Type} [Readable α] (group : GroupedRow) (store : EntityStore)
    (op : AggregateOp) (column : String) : Except AggregateError α :=
  if group.rows.isEmpty then .error (.unsupportedRowShape group.keyLabel)
  else
    match group.rows.findSome? fun id => (store.get? id).bind (aggregateIn op column) with
    | none => .error (.noMatchingColumn op group.keyLabel column)
    | some value =>
        if value.isNull then .ok Readable.nullDefault
        else (Readable.ofValue value).mapError .coercion

end GroupedRow

end Orm
