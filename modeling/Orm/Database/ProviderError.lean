import Orm.Database.Command
import Orm.Query.Flat
import Orm.Sql.Lookup

/-!
# Errors of a database access

Why metadata or rows cannot be had.
-/

namespace Orm

/-- Why metadata or rows cannot be had. -/
inductive ProviderError
  | offlineMetadata (what target : String)
  | unknownTable (table : String)
  | argumentCount (cause : ArgumentCountError)
  | query (cause : QueryError)
  | driver (cause : DriverError)
  | unexpectedResult (command detail : String)
deriving DecidableEq, Repr

/-- The text of a provider error. -/
def ProviderError.message : ProviderError → String
  | .offlineMetadata what target => s!"offline schema cache has no {what} for {target}"
  | .unknownTable table => s!"table '{table}' not found in the catalog"
  | .argumentCount cause => cause.message
  | .query cause => cause.message
  | .driver cause => cause.message
  | .unexpectedResult command detail => s!"unexpected result from '{command}': {detail}"

end Orm
