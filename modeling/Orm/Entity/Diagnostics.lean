import Orm.Entity.Basic

/-!
# Entities in diagnostics

How values, states and entities are shown to someone who looks for a fault. Unlike
`Value.display`, this text tells values of different kinds apart.
-/

namespace Orm

open Text

/-- Parts with commas between them, in brackets. -/
def bracketed (parts : List String) : String := "[" ++ ", ".intercalate parts ++ "]"

/-- A floating-point number with at least one digit after its point, and with an exponent if it is
very great or very small. -/
def Binary64.debugText (x : Binary64) : String :=
  if x.isNaN ∨ x.isInfinite then String.ofList x.text
  else
    let decimal := x.shortest .upward
    let digits :=
      if x.isZero then ['0', '.', '0']
      else if -4 < decimal.point ∧ decimal.point ≤ 16 then decimal.positional 1
      else decimal.scientific []
    String.ofList ((if x.isNegative then ['-'] else []) ++ digits)

namespace Value

mutual
/-- A value with its kind. -/
def debugText : Value → String
  | .null => "Null"
  | .bool flag => if flag then "Bool(true)" else "Bool(false)"
  | .int number => "Int(" ++ intText number.toInt ++ ")"
  | .float number => "Float(" ++ number.debugText ++ ")"
  | .text content => "Text(" ++ escaped content ++ ")"
  | .date day => "Date(" ++ String.ofList (Pattern.date.write (.ofDate day)) ++ ")"
  | .dateTime moment =>
      "DateTime(" ++ String.ofList (Pattern.exactDateTime.write (.ofDateTime moment)) ++ ")"
  | .blob bytes => "Blob(" ++ bracketed (bytes.map fun byte => toString byte.toNat) ++ ")"
  | .array items => "Array(" ++ bracketed (debugTexts items) ++ ")"

/-- Values with their kinds. -/
def debugTexts : List Value → List String
  | [] => []
  | item :: rest => debugText item :: debugTexts rest
end

end Value

/-- A table with all its names. -/
def Table.debugText (table : Table) : String :=
  "Table \x7b schema: " ++ escaped table.schema ++ ", name: " ++ escaped table.name ++
    ", full_name: " ++ escaped table.fullName ++ " \x7d"

/-- A state with the columns that were edited. -/
def EntityState.debugText : EntityState → String
  | .unchanged => "Unchanged"
  | .created => "Created"
  | .modified columns => "Modified(" ++ bracketed (columns.map escaped) ++ ")"
  | .deletePending => "Delete"
  | .deleted => "Deleted"

/-- An entity with its identity, its state and its values. -/
def Entity.debugText (entity : Entity) (id : EntityId) : String :=
  let values := entity.values.toList.map fun entry =>
    escaped entry.1 ++ ": " ++ entry.2.debugText
  "Entity \x7b id: EntityId(" ++ id.label ++ "), table: " ++ entity.table.debugText ++
    ", state: " ++ entity.state.debugText ++ ", values: \x7b" ++ ", ".intercalate values ++
    "\x7d, .. \x7d"

end Orm
