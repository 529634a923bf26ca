import Orm.Audit.Digest
import Orm.Context.Desk
import Orm.Failure
import Orm.Text.Escaped

/-!
# Contexts

A `Context` is the way into a database: its dialect, the database and its catalog, and the options
that it works with. Its actions are on a `Desk`. This module opens a context and has the actions
that concern single entities; queries and submissions have modules of their own.
-/

namespace Orm

open Text

/-- The way into a database. -/
structure Context (σ : Type) where
  owner : OwnerId
  dialect : Dialect
  database : Database σ
  catalog : Catalog σ
  connectionString : String
  transaction : TransactionOptions
  defaultConflict : ConflictPolicy
  cachePath : Option String

namespace Context

variable {σ α : Type}

/-- The schema cache of a context with given settings: a saved one if it works offline. -/
def openCache (settings : Settings) (files : FileStore) : Except Failure SchemaCache := do
  settings.validate.mapError SettingsError.failure
  match settings.schemaCachePath with
  | some path =>
      if settings.useOfflineCache then (SchemaCache.load files path).mapError CacheError.failure
      else return .empty
  | none => return .empty

/-- The context with given settings. -/
def ofSettings (owner : OwnerId) (database : Database σ) (catalog : Catalog σ)
    (settings : Settings) : Context σ where
  owner := owner
  dialect := .brackets
  database := database
  catalog := catalog
  connectionString := settings.connectionString
  transaction := settings.transaction
  defaultConflict := settings.defaultConflict
  cachePath := settings.schemaCachePath

/-- The hash of the connection string, which stands for it in events and diagnostics. -/
def hash (context : Context σ) : String := connectionHash context.connectionString

/-- The columns of a table. -/
def columns (context : Context σ) (table : Table) :
    StateM (Desk σ) (Except Failure ColumnMap) := do
  return (← Desk.surroundings (Surroundings.columns context.catalog table)).mapError
    ProviderError.failure

/-- A new row of a table, which waits for its insert. -/
def createEntity (context : Context σ) (table : Table) :
    StateM (Desk σ) (Except Failure EntityId) := do
  match ← context.columns table with
  | .error failure => return .error failure
  | .ok columns =>
      let entity := Entity.fresh table columns (some context.owner)
      return .ok (← Desk.addTracked false { entity with onConflict := context.defaultConflict })

/-- Gives up all pending changes, and tells how many there were. -/
def clearPendingChanges : StateM (Desk σ) Nat := fun desk =>
  (desk.tracked.pending.size,
    { desk with tracked := { desk.tracked with pending := .empty } })

/-- Opens a connection. -/
def connect (context : Context σ) : StateM (Surroundings σ) (Except ProviderError Unit) := do
  Surroundings.note (.connect context.connectionString)
  return (← Surroundings.ask (context.database.connect context.connectionString)).mapError .driver

/-- The open connection, on which every command is published. -/
def connection (context : Context σ) : Connection (Surroundings σ) :=
  Surroundings.announced context.database.connection context.hash context.transaction.timeout

/-- Saves the schema cache at a path. -/
def saveCacheTo (path : String) : StateM (Desk σ) (Except Failure Unit) := fun desk =>
  match desk.around.cache.save desk.around.files path with
  | .error error => (.error error.failure, desk)
  | .ok files => (.ok (), { desk with around := { desk.around with files := files } })

/-- Saves the schema cache at the path of the settings, and gives that path. -/
def saveCache (context : Context σ) : StateM (Desk σ) (Except Failure String) := do
  match context.cachePath with
  | none =>
      return .error (.plain .invalidOperation .config "no schema_cache_path configured")
  | some path => return (← saveCacheTo path).map fun _ => path

/-- The context in diagnostics, with the number of its pending entities. -/
def debugText (context : Context σ) (pending : Nat) : String :=
  let timeout := match context.transaction.timeout with
    | none => "None"
    | some 0 => "Some(0ns)"
    | some seconds => "Some(" ++ toString seconds ++ "s)"
  "DataContext \x7b connection: " ++ escaped context.hash ++ ", pending: " ++ toString pending ++
    ", options: TransactionOptions \x7b isolation: " ++ context.transaction.isolation.title ++
    ", timeout: " ++ timeout ++ " \x7d, .. \x7d"

end Context

/-- What answers questions about the schema in diagnostics. -/
def SchemaCache.providerText (cache : SchemaCache) : String :=
  "MsSqlProvider \x7b offline: " ++ (if cache.isOffline then "true" else "false") ++ ", .. \x7d"

end Orm
