import Orm.Sql.Brackets
import Orm.Text.Blank
import Orm.Text.LowerCase

/-!
# Statements without a query

The first rows of a table, the row with given keys, the call of a procedure, and the affinity that
belongs to the name of a type.
-/

namespace Orm

open Text

/-- The pieces of the statement for the first rows of a table. -/
def topRowsPieces (dialect : Dialect) (table : Table) (count : Nat) : SqlPieces :=
  .word "SELECT " ::
    (match dialect.topClause none (some count) with
      | none => []
      | some clause => [.word clause, .word " "]) ++
    [.word "* FROM ", .table table] ++ blankBefore (dialect.pagingClause none (some count) false)

/-- The statement for the first rows of a table. -/
def topRowsText (dialect : Dialect) (table : Table) (count : Nat) : String :=
  dialect.text (topRowsPieces dialect table count)

/-- The conditions that some columns equal the parameters from a number on. -/
def equalsSlots (first : Nat) : List String → List SqlPieces
  | [] => []
  | column :: rest => [.name column, .word " = ", .slot first] :: equalsSlots (first + 1) rest

/-- The pieces of the statement for the rows with given values in some columns. -/
def individualPieces (table : Table) (keys : List String) : SqlPieces :=
  [.word "SELECT * FROM ", .table table] ++
    if keys.isEmpty then [] else .word " WHERE " :: separated " AND " (equalsSlots 0 keys)

/-- The statement for the rows with given values in some columns. -/
def individualText (dialect : Dialect) (table : Table) (keys : List String) : String :=
  dialect.text (individualPieces table keys)

/-- Why a procedure cannot be called. -/
structure ArgumentCountError where
  procedure : String
  expected : Nat
  actual : Nat
deriving DecidableEq, Repr

/-- The text of the error for a wrong number of arguments. -/
def ArgumentCountError.message (error : ArgumentCountError) : String :=
  let expected := error.expected
  let actual := error.actual
  "procedure " ++ error.procedure ++ s!" takes {expected} arguments, got {actual}"

namespace ProcedureParameter

/-- A parameter of a procedure with a value. -/
def bind (param : ProcedureParameter) (value : Value) : CommandParameter :=
  ⟨param.name, value, param.direction, some param.typeTag⟩

end ProcedureParameter

/-- The call of a procedure: its inputs with the arguments, by ordinal, and then its other outputs
with nulls that the database fills. -/
def ProcedureDefinition.call (definition : ProcedureDefinition) (arguments : List Value) :
    Except ArgumentCountError Command :=
  let inputs := definition.inputs
  if inputs.length = arguments.length then
    let bound := (inputs.zip arguments).map fun pair => pair.1.bind pair.2
    let results := (definition.outputs.filter fun param => !param.direction.isInput).map
      fun param => param.bind .null
    .ok ⟨definition.name.qualified, bound ++ results, none, true⟩
  else .error ⟨definition.name.qualified, inputs.length, arguments.length⟩

/-- The name of a type without a length or precision in parentheses, in lower case. -/
def baseTypeTag (tag : String) : String :=
  asciiLower (trim (String.ofList (tag.toList.takeWhile (· ≠ '('))))

/-- The affinity of a type of the database; an unknown type has the affinity `other`. -/
def affinityOfTag (tag : String) : Affinity :=
  (Brackets.typeMappings.lookup (baseTypeTag tag)).getD .other

end Orm
