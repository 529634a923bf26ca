import Orm.Schema.Procedure
import Orm.Value.Basic

/-!
# Commands and their results

What a database is asked to execute and what it answers.
-/

namespace Orm

/-- A value that a command passes under a name. -/
structure CommandParameter where
  name : String
  value : Value
  direction : ParameterDirection
  typeTag : Option String
deriving DecidableEq

/-- The parameter that passes a value in. -/
def CommandParameter.input (name : String) (value : Value) : CommandParameter :=
  ⟨name, value, .input, none⟩

/-- A statement or procedure call; the timeout is a number of seconds. -/
structure Command where
  text : String
  params : List CommandParameter
  timeout : Option Nat
  isProcedure : Bool
deriving DecidableEq

namespace Command

/-- The command of a statement, without a timeout. -/
def statement (text : String) (params : List CommandParameter) : Command :=
  ⟨text, params, none, false⟩

/-- The names and values of the parameters in order. -/
def paramPairs (command : Command) : List (String × Value) :=
  command.params.map fun param => (param.name, param.value)

end Command

/-- Rows of values under named columns. -/
structure ResultSet where
  columns : List String
  rows : List (List Value)
deriving DecidableEq

namespace ResultSet

/-- Each row as pairs of a column and its value. -/
def records (set : ResultSet) : List (List (String × Value)) :=
  set.rows.map fun row => set.columns.zip row

/-- The first value of the first row. -/
def firstValue (set : ResultSet) : Option Value :=
  set.rows.head?.bind List.head?

end ResultSet

/-- What a database answers to a command. -/
inductive CommandResult
  | rows (set : ResultSet)
  | affected (count : Nat)
  | scalar (value : Value)
  | sets (results : List (String × CommandResult))
deriving Inhabited

/-- Why a database refuses something. -/
inductive DriverError
  | connect (message : String)
  | execute (message : String)
  | constraint (message : String)
  | transaction (message : String)
  | discovery (message : String)
deriving DecidableEq, Repr

/-- The text of a refusal. -/
def DriverError.message : DriverError → String
  | .connect message => "connect failed: " ++ message
  | .execute message => "command failed: " ++ message
  | .constraint message => "constraint violated: " ++ message
  | .transaction message => "transaction failed: " ++ message
  | .discovery message => "schema discovery failed: " ++ message

end Orm
