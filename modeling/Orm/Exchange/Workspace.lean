import Orm.Exchange.Query
import Orm.Scripted.Catalog
import Orm.Scripted.Database
import Orm.Workspace.Basic

/-!
# Exchanged workspaces

Scripts, catalogs and owners as documents. An owner is a context over a scripted database and a
written catalog, or a bare owner.
-/

namespace Orm

/-- The rule of an exchanged form. -/
def ScriptRule.ofExchange? (document : Json) : Option ScriptRule := do
  let answer ← match ← document.optional? "error" DriverError.ofExchange? with
    | some cause => some (.error cause)
    | none => (document.required? "result" CommandResult.ofExchange?).map .ok
  return ⟨← document.textMember? "on", answer, ← document.optional? "times" Json.asNat?⟩

/-- The refusals that a document names. -/
def refusalsOfExchange? (document : Json) : Option (NameMap DriverError) :=
  document.memberOr? "fail" .empty (Json.asMap? DriverError.ofExchange?)

/-- The script of an exchanged form. -/
def Script.ofExchange? (document : Json) : Option Script := do
  let refusals ← refusalsOfExchange? document
  return ⟨← document.listMember? "rules" ScriptRule.ofExchange?, refusals.find? "connect",
    refusals.find? "begin", refusals.find? "commit", refusals.find? "rollback"⟩

/-- The names of the kinds of questions to a catalog. -/
def CatalogTopic.names : List (String × CatalogTopic) :=
  [("tables", .tables), ("columns", .columns), ("relationships", .relationships),
    ("sprocs", .procedures), ("descriptions", .descriptions)]

/-- The catalog of an exchanged form. -/
def WrittenCatalog.ofExchange? (document : Json) : Option WrittenCatalog := do
  let refusals ← refusalsOfExchange? document
  return {
    tables := ← document.listMember? "tables" Table.ofExchange?
    columns := ← document.memberOr? "columns" .empty
      (Json.asMap? (Json.asList? CatalogColumn.ofExchange?))
    relationships := ← document.listMember? "relationships" Relationship.ofExchange?
    procedures := ← document.listMember? "sprocs" ProcedureNode.ofJson?
    descriptions := ← document.memberOr? "descriptions" .empty
      (Json.asMap? Descriptions.ofExchange?)
    refusals := CatalogTopic.names.filterMap fun (name, topic) =>
      (refusals.find? name).map fun cause => (topic, cause) }

/-- The names of policies for conflicts. -/
def ConflictPolicy.names : List (String × ConflictPolicy) :=
  [("Throw", .throw), ("Update", .update), ("DoNothing", .doNothing)]

/-- The names of clone modes. -/
def CloneMode.names : List (String × CloneMode) := [("Insert", .insert), ("Update", .update)]

/-- The isolation level that a document names. -/
def IsolationLevel.ofExchange? (document : Json) : Option IsolationLevel := do
  let title ← document.asText?
  all.find? fun level => level.title = title

/-- The transaction options among the members of a document. -/
def TransactionOptions.ofExchange? (document : Json) : Option TransactionOptions := do
  return ⟨← document.memberOr? "isolation" .unspecified IsolationLevel.ofExchange?,
    ← document.optional? "timeout" Json.asNat?⟩

/-- The dialect among the members of a document. -/
def Dialect.memberOfExchange? (document : Json) : Option Dialect :=
  document.memberOr? "dialect" .brackets ofExchange?

/-- The cache with the snapshot among the members of a document. -/
def SchemaCache.memberOfExchange? (document : Json) : Option SchemaCache := do
  match ← document.optional? "snapshot" SchemaSnapshot.ofJson? with
  | none => return .empty
  | some snapshot => return .ofSnapshot snapshot

/-- The files among the members of a document. -/
def FileStore.memberOfExchange? (document : Json) : Option FileStore :=
  (document.memberOr? "files" .empty (Json.asMap? Json.asText?)).map ofTexts

/-- The described schema among the members of a document; a reason to fail replaces the
relationships. -/
def SchemaDescription.ofExchange? (document : Json) : Option SchemaDescription := do
  let columns ← document.memberOr? "columns" .empty (Json.asMap? ColumnMap.ofExchange?)
  let relationships ← document.listMember? "relationships" Relationship.ofExchange?
  match ← document.optional? "fail" Json.asText? with
  | some reason => return ⟨columns, .error reason⟩
  | none => return ⟨columns, .ok relationships⟩

/-- The bare owner of an exchanged form. -/
def BareOwner.ofExchange? (document : Json) : Option BareOwner := do
  return {
    schema := ← SchemaDescription.ofExchange? document
    dialect := ← Dialect.memberOfExchange? document
    transaction := ← TransactionOptions.ofExchange? document
    commandTimeout := ← document.optional? "command_timeout" Json.asNat?
    announces := !(← document.memberOr? "plain" false Json.asBool?) }

/-- A context with its cache, opened with the settings of a text. -/
def Context.ofSettingsText {σ : Type} (id : OwnerId) (files : FileStore) (database : Database σ)
    (catalog : Catalog σ) (text : String) : Except Failure (Context σ × SchemaCache) := do
  let settings ← (Settings.read text).mapError SettingsError.failure
  return (.ofSettings id database catalog settings, ← openCache settings files)

/-- The context of an exchanged form with its cache; its settings can make it fail. -/
def Context.ofExchange? (id : OwnerId) (files : FileStore) (document : Json) :
    Option (Except Failure (Context ScriptedDatabase × SchemaCache)) := do
  let written ← document.required? "catalog" WrittenCatalog.ofExchange?
  match ← document.optional? "config" Json.asText? with
  | some text => return ofSettingsText id files ScriptedDatabase.database written.catalog text
  | none =>
      let context : Context ScriptedDatabase := {
        owner := id
        dialect := ← Dialect.memberOfExchange? document
        database := ScriptedDatabase.database
        catalog := written.catalog
        connectionString := ← document.memberOr? "connection" "Server=test" Json.asText?
        transaction := ← TransactionOptions.ofExchange? document
        defaultConflict := ← document.memberOr? "default_conflict" .throw
          (Json.asNamed? ConflictPolicy.names)
        cachePath := ← document.optional? "cache_path" Json.asText? }
      return .ok (context, ← SchemaCache.memberOfExchange? document)

/-- The owner of an exchanged form; a context can fail to open. -/
def Owner.ofExchange? (id : OwnerId) (files : FileStore) (document : Json) :
    Option (Except Failure (Owner ScriptedDatabase)) :=
  match document.given? "pending" with
  | some pending => do return .ok (.fresh (.bare (← BareOwner.ofExchange? pending)) .empty)
  | none => do
      let opened ← Context.ofExchange? id files document
      return opened.map fun (context, cache) => .fresh (.context context) cache

end Orm
