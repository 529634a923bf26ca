import Orm.Audit.CommandEvent
import Orm.Audit.Subscriptions
import Orm.Change.WritePlan
import Orm.Database.Connection
import Orm.Database.ProviderError
import Orm.Files
import Orm.Schema.Cache

/-!
# The surroundings of a context

What a context works with apart from its entities: its schema cache, its subscribers, files, and an
outside world of any kind `σ` that answers as a database and as a catalog. The journal records in
order all that reaches the outside world or a subscriber.
-/

namespace Orm

/-- A column as the catalog describes it. -/
structure CatalogColumn where
  name : String
  typeTag : String
  isNullable : Bool
  isPrimaryKey : Bool
  isIdentity : Bool
deriving DecidableEq, Repr

/-- The column that the catalog describes, with the affinity of its type. -/
def CatalogColumn.column (raw : CatalogColumn) : Column :=
  ⟨raw.name, affinityOfTag raw.typeTag, raw.typeTag, raw.isNullable, raw.isPrimaryKey,
    raw.isIdentity⟩

/-- What the catalog says about a table and its columns in words. -/
structure Descriptions where
  table : Option String
  columns : NameMap String
deriving DecidableEq

/-- What answers questions about the schema. -/
structure Catalog (σ : Type) where
  tables : StateM σ (Except DriverError (List Table))
  columns : Table → StateM σ (Except DriverError (List CatalogColumn))
  relationships : Table → StateM σ (Except DriverError (List Relationship))
  procedures : StateM σ (Except DriverError (List ProcedureNode))
  descriptions : Table → StateM σ (Except DriverError Descriptions)

/-- What opens connections, and the connection that is open. -/
structure Database (σ : Type) where
  connect : String → StateM σ (Except DriverError Unit)
  connection : Connection σ

/-- Something that reached the outside world or a subscriber. -/
inductive JournalEntry
  | connect (connectionString : String)
  | start (options : TransactionOptions)
  | commit
  | rollback
  | execute (command : Command)
  | discover (what target : String)
  | event (subscriber : Nat) (event : CommandEvent)
  | property (watcher : Nat) (entity : EntityId) (column : String)
  | tracked (entity : EntityId)
  | forgotten (entity : EntityId)
  | changed (entity : EntityId) (column : String)
deriving DecidableEq

/-- What a context works with apart from its entities. -/
structure Surroundings (σ : Type) where
  cache : SchemaCache
  events : EventRegistry
  watchers : Subscriptions Nat
  journal : List JournalEntry
  files : FileStore
  outside : σ

namespace Surroundings

variable {σ α : Type}

/-- Records something in the journal. -/
def note (entry : JournalEntry) : StateM (Surroundings σ) Unit :=
  modify fun around => { around with journal := around.journal ++ [entry] }

/-- Lets the outside world act. -/
def ask (action : StateM σ α) : StateM (Surroundings σ) α := fun around =>
  let (answer, outside) := action around.outside
  (answer, { around with outside := outside })

/-- Tells all subscribers of a command, in order. -/
def publish (event : CommandEvent) : StateM (Surroundings σ) Unit :=
  modify fun around =>
    { around with
      journal := around.journal ++ around.events.receivers.map fun subscriber =>
        .event subscriber event
      events := around.events.afterPublish }

/-- A command as it is sent: a timeout is added if it has none. -/
def timed (timeout : Option Nat) (command : Command) : Command :=
  { command with timeout := command.timeout.or timeout }

/-- Publishes a command, sends it, and gives the answer. -/
def send (execute : Command → StateM σ α) (hash : String) (timeout : Option Nat)
    (command : Command) : StateM (Surroundings σ) α := do
  let command := timed timeout command
  publish ⟨command.text, command.paramPairs, hash⟩
  -- Subscribers know of the command before the database does.
  note (.execute command)
  ask (execute command)

/-- A connection on which every command is published before it is sent. -/
def announced (connection : Connection σ) (hash : String) (timeout : Option Nat) :
    Connection (Surroundings σ) where
  start options := do
    note (.start options)
    ask (connection.start options)
  execute := send connection.execute hash timeout
  commit := do
    note .commit
    ask connection.commit
  rollback := do
    note .rollback
    ask connection.rollback
  startAsync options := do
    note (.start options)
    ask (connection.startAsync options)
  executeAsync := send connection.executeAsync hash timeout
  commitAsync := do
    note .commit
    ask connection.commitAsync
  rollbackAsync := do
    note .rollback
    ask connection.rollbackAsync

/-- Asks the catalog, which is recorded first. -/
def discover (what target : String) (question : StateM σ (Except DriverError α)) :
    StateM (Surroundings σ) (Except ProviderError α) := do
  note (.discover what target)
  return (← ask question).mapError .driver

/-- Answers a question from the cache. While the cache is online, what it does not know is loaded;
while it is offline, that is an error. -/
def lookup (what target : String) (known : SchemaCache → Option α)
    (learn : SchemaCache → α → SchemaCache)
    (load : StateM (Surroundings σ) (Except ProviderError α)) :
    StateM (Surroundings σ) (Except ProviderError α) := fun around =>
  if around.cache.isOffline then
    match known around.cache with
    | some answer => (.ok answer, around)
    | none => (.error (.offlineMetadata what target), around)
  else
    let (answer, cache, around) := SchemaCache.consult known learn load around.cache around
    (answer, { around with cache := cache })

/-- The tables of the schema. -/
def tables (catalog : Catalog σ) :
    StateM (Surroundings σ) (Except ProviderError (List Table)) :=
  lookup "tables" "catalog" SchemaCache.tables SchemaCache.learnTables
    (discover "tables" "" catalog.tables)

/-- The columns of a table; a table without columns does not exist. -/
def columns (catalog : Catalog σ) (table : Table) :
    StateM (Surroundings σ) (Except ProviderError ColumnMap) :=
  lookup "columns" table.fullName (fun cache => cache.columns table)
    (fun cache columns => cache.learnColumns table columns) do
      match ← discover "columns" table.fullName (catalog.columns table) with
      | .error error => return .error error
      | .ok [] => return .error (.unknownTable table.fullName)
      | .ok raw => return .ok (ColumnMap.ofColumns (raw.map CatalogColumn.column))

/-- The relationships of a table. -/
def relationships (catalog : Catalog σ) (table : Table) :
    StateM (Surroundings σ) (Except ProviderError RelationshipSet) :=
  lookup "relationships" table.fullName (fun cache => cache.relationships table)
    (fun cache set => cache.learnRelationships table set) do
      let found ← discover "relationships" table.fullName (catalog.relationships table)
      return found.map (RelationshipSet.partition table)

/-- The procedures of the schema. -/
def procedures (catalog : Catalog σ) :
    StateM (Surroundings σ) (Except ProviderError (List ProcedureNode)) :=
  lookup "stored procedures" "catalog" SchemaCache.procedures SchemaCache.learnProcedures
    (discover "sprocs" "" catalog.procedures)

/-- What the catalog says about a table in words; this is not kept in the cache. -/
def descriptions (catalog : Catalog σ) (table : Table) :
    StateM (Surroundings σ) (Except ProviderError Descriptions) := do
  if (← get).cache.isOffline then
    return .error (.offlineMetadata "descriptions" table.fullName)
  else discover "descriptions" table.fullName (catalog.descriptions table)

/-- The metadata for a submission. Without known relationships an offline cache gives none, so that
rows are written in the order of their creation. -/
def schemaSource (catalog : Catalog σ) : SchemaSource (Surroundings σ) where
  columns := columns catalog
  relationships table := do
    match ← relationships catalog table with
    | .error (.offlineMetadata _ _) => return .ok .empty
    | answer => return answer

end Surroundings

end Orm
