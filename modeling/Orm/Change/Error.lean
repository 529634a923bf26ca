import Orm.Database.ProviderError
import Orm.Entity.State
import Orm.Text.Escaped

/-!
# Errors of a submission

Why pending changes cannot be written.
-/

namespace Orm

open Text

/-- Why pending changes cannot be written. -/
inductive PersistError
  | statement (entity : EntityId) (table : Table) (operation : WriteOperation)
      (cause : DriverError)
  | dependencyCycle (tables : List String)
  | missingPrimaryKey (table : Table) (operation : WriteOperation) (column : String)
  | unsupportedConflictPolicy (policy : ConflictPolicy) (dialect : String)
  | conflict (entity : EntityId) (table : Table) (message : String)
  | metadata (cause : ProviderError)
  | transaction (cause : DriverError)
deriving DecidableEq, Repr

/-- The text of a submission error. -/
def PersistError.message : PersistError → String
  | .statement entity table operation cause =>
      operation.label ++ " of entity " ++ entity.label ++ " on " ++ table.fullName ++
        " failed: " ++ cause.message
  | .dependencyCycle tables =>
      "insert order cannot be resolved; cycle among [" ++
        ", ".intercalate (tables.map escaped) ++ "]"
  | .missingPrimaryKey table operation column =>
      operation.label ++ " on " ++ table.fullName ++ s!" needs a primary key value for '{column}'"
  | .unsupportedConflictPolicy policy dialect =>
      "conflict policy " ++ policy.label ++ s!" is not supported by the {dialect} dialect"
  | .conflict entity table message =>
      "insert of entity " ++ entity.label ++ " on " ++ table.fullName ++
        s!" conflicts with an existing row: {message}"
  | .metadata cause => "metadata unavailable: " ++ cause.message
  | .transaction cause => "transaction control failed: " ++ cause.message

end Orm
