import Orm.Context.Surroundings
import Orm.Exchange.Value
import Orm.Schema.Document
import Orm.Settings

/-!
# Exchanged schemas

A table is given by its full name or by its schema and name. Descriptions of columns leave out
what is usual.
-/

namespace Orm

/-- The table of an exchanged form. -/
def Table.ofExchange? : Json → Option Table
  | .text fullName => some (.ofFullName fullName)
  | .array [.text schema, .text name] => some (.named schema name)
  | _ => none

/-- The exchanged form of a table. -/
def Table.toExchange (table : Table) : Json := .array [.text table.schema, .text table.name]

/-- All that there is to say about a table. -/
def Table.summary (table : Table) : Json :=
  .object [("schema", .text table.schema), ("name", .text table.name),
    ("full_name", .text table.fullName), ("display", .text table.fullName)]

/-- The affinity of an exchanged form. -/
def Affinity.ofExchange? (document : Json) : Option Affinity := do
  ofLabel? (← document.asText?)

/-- The column of an exchanged form. -/
def Column.ofExchange? (document : Json) : Option Column := do
  let column := Column.plain (← document.textMember? "name")
    (← document.memberOr? "affinity" .other Affinity.ofExchange?)
    (← document.memberOr? "type" "int" Json.asText?)
  let column :=
    if ← document.memberOr? "pk" false Json.asBool? then column.primaryKey else column
  let column :=
    if ← document.memberOr? "identity" false Json.asBool? then column.identity else column
  return if ← document.memberOr? "not_null" false Json.asBool? then column.notNull else column

/-- The exchanged form of a column. -/
def Column.toExchange (column : Column) : Json :=
  .array [.text column.name, .text column.affinity.label, .text column.typeTag,
    .bool column.isNullable, .bool column.isPrimaryKey, .bool column.isIdentity]

/-- The columns that a document lists. -/
def ColumnMap.ofExchange? (document : Json) : Option ColumnMap :=
  (document.asList? Column.ofExchange?).map ofColumns

/-- The exchanged form of the columns of a table. -/
def ColumnMap.toExchange (columns : ColumnMap) : Json := .ofPairs Column.toExchange columns.toList

/-- The column of a catalog in its exchanged form. -/
def CatalogColumn.ofExchange? (document : Json) : Option CatalogColumn := do
  return {
    name := ← document.textMember? "name"
    typeTag := ← document.memberOr? "type" "int" Json.asText?
    isNullable := ← document.memberOr? "nullable" true Json.asBool?
    isPrimaryKey := ← document.memberOr? "pk" false Json.asBool?
    isIdentity := ← document.memberOr? "identity" false Json.asBool? }

/-- The relationship of an exchanged form. -/
def Relationship.ofExchange? (document : Json) : Option Relationship := do
  return {
    name := ← document.textMember? "name"
    primaryTable := ← document.required? "primary" Table.ofExchange?
    primaryKeys := ← document.required? "pk" (Json.asList? Json.asText?)
    foreignTable := ← document.required? "foreign" Table.ofExchange?
    foreignKeys := ← document.required? "fk" (Json.asList? Json.asText?) }

/-- The exchanged form of a relationship. -/
def Relationship.toExchange (relationship : Relationship) : Json :=
  .object [("name", .text relationship.name), ("primary", relationship.primaryTable.toExchange),
    ("pk", .ofList .text relationship.primaryKeys),
    ("foreign", relationship.foreignTable.toExchange),
    ("fk", .ofList .text relationship.foreignKeys)]

/-- The exchanged form of the relationships of a table. -/
def RelationshipSet.toExchange (set : RelationshipSet) : Json :=
  .object [("children", .ofList Relationship.toExchange set.children),
    ("parents", .ofList Relationship.toExchange set.parents)]

/-- What a cache knows under the name of a kind of knowledge; some kinds need a table or a name. -/
def SchemaCache.factOfExchange? (cache : SchemaCache) (kind : String) (document : Json) :
    Option Json := do
  let table := document.required? "table" Table.ofExchange?
  let name := document.textMember? "name"
  match kind with
  | "tables" => return .ofOption (.ofList Table.toExchange) cache.tables
  | "columns" => return .ofOption ColumnMap.toExchange (cache.columns (← table))
  | "relationships" =>
      return .ofOption RelationshipSet.toExchange (cache.relationships (← table))
  | "sprocs" => return .ofOption (.ofList ProcedureNode.toJson) cache.procedures
  | "primary_key" => return .ofOption .text (cache.primaryKey (← table))
  | "params" =>
      return .ofOption (.ofList ProcedureParameter.toJson) (cache.procedureParams.find? (← name))
  | "package" =>
      return .ofOption (.ofList ProcedureDefinition.toJson) (cache.packages.find? (← name))
  | "individuals" => return .ofList .text cache.individuals
  | "snapshot" => return cache.snapshot.toJson
  | _ => none

/-- The exchanged form of settings. -/
def Settings.toExchange (settings : Settings) : Json :=
  .object [("connection_string", .text settings.connectionString),
    ("schema_cache_path", .ofOption .text settings.schemaCachePath),
    ("use_offline_cache", .bool settings.useOfflineCache),
    ("isolation", .text settings.transaction.isolation.title),
    ("timeout", .ofOption (fun seconds => .text (toString seconds)) settings.transaction.timeout),
    ("default_conflict", .text settings.defaultConflict.label)]

/-- The input parameter of an exchanged form. -/
def ProcedureParameter.ofExchange? : Json → Option ProcedureParameter
  | .array [.text name, .text tag, ordinal] => do
      return ⟨name, tag, .input, .ofNat (← ordinal.asNat?)⟩
  | _ => none

/-- The procedure definition of an exchanged form, which has no package. -/
def ProcedureDefinition.ofExchange? (document : Json) : Option ProcedureDefinition := do
  let name : ProcedureName := ⟨← document.textMember? "owner", "", ← document.textMember? "name"⟩
  return ⟨name, ← document.required? "params" (Json.asList? ProcedureParameter.ofExchange?)⟩

/-- The exchanged form of descriptions. -/
def Descriptions.toExchange (descriptions : Descriptions) : Json :=
  .object [("table", .ofOption .text descriptions.table),
    ("columns", .ofMap .text descriptions.columns)]

/-- The descriptions of an exchanged form. -/
def Descriptions.ofExchange? (document : Json) : Option Descriptions := do
  return ⟨← document.optional? "table" Json.asText?,
    ← document.memberOr? "columns" .empty (Json.asMap? Json.asText?)⟩

end Orm
