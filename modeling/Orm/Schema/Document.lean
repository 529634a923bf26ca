import Orm.Json.Decoding
import Orm.Schema.Snapshot

/-!
# Schemas as JSON documents

For each description of the schema, the document that holds it and the reader of such documents.
-/

namespace Orm

/-- The document of a table. -/
def Table.toJson (table : Table) : Json :=
  .object [("Schema", .text table.schema), ("Name", .text table.name),
    ("FullName", .text table.fullName)]

/-- The table of a document. -/
def Table.ofJson? (document : Json) : Option Table :=
  match document.asFields? ["Schema", "Name", "FullName"] with
  | some [some schema, some name, some fullName] => do
      return ⟨← schema.asText?, ← name.asText?, ← fullName.asText?⟩
  | _ => none

/-- The document of an affinity. -/
def Affinity.toJson (affinity : Affinity) : Json := .text affinity.label

/-- The affinity of a document. -/
def Affinity.ofJson? (document : Json) : Option Affinity :=
  document.asBareAlternative?.bind Affinity.ofLabel?

/-- The document of a column. -/
def Column.toJson (column : Column) : Json :=
  .object [("Name", .text column.name), ("Affinity", column.affinity.toJson),
    ("TypeTag", .text column.typeTag), ("IsNullable", .bool column.isNullable),
    ("IsPrimaryKey", .bool column.isPrimaryKey), ("IsIdentity", .bool column.isIdentity)]

/-- The column of a document. -/
def Column.ofJson? (document : Json) : Option Column :=
  match document.asFields?
      ["Name", "Affinity", "TypeTag", "IsNullable", "IsPrimaryKey", "IsIdentity"] with
  | some [some name, some affinity, some typeTag, some isNullable, some isPrimaryKey,
      some isIdentity] => do
      return ⟨← name.asText?, ← Affinity.ofJson? affinity, ← typeTag.asText?,
        ← isNullable.asBool?, ← isPrimaryKey.asBool?, ← isIdentity.asBool?⟩
  | _ => none

/-- The document of a relationship. -/
def Relationship.toJson (relationship : Relationship) : Json :=
  .object [("Name", .text relationship.name),
    ("PrimaryTable", relationship.primaryTable.toJson),
    ("PrimaryKeys", .ofList .text relationship.primaryKeys),
    ("ForeignTable", relationship.foreignTable.toJson),
    ("ForeignKeys", .ofList .text relationship.foreignKeys)]

/-- The relationship of a document. -/
def Relationship.ofJson? (document : Json) : Option Relationship :=
  match document.asFields?
      ["Name", "PrimaryTable", "PrimaryKeys", "ForeignTable", "ForeignKeys"] with
  | some [some name, some primaryTable, some primaryKeys, some foreignTable,
      some foreignKeys] => do
      return ⟨← name.asText?, ← Table.ofJson? primaryTable, ← primaryKeys.asList? Json.asText?,
        ← Table.ofJson? foreignTable, ← foreignKeys.asList? Json.asText?⟩
  | _ => none

/-- The document of the relationships of a table. -/
def RelationshipSet.toJson (set : RelationshipSet) : Json :=
  .object [("Children", .ofList Relationship.toJson set.children),
    ("Parents", .ofList Relationship.toJson set.parents)]

/-- The relationships of a document. -/
def RelationshipSet.ofJson? (document : Json) : Option RelationshipSet :=
  match document.asFields? ["Children", "Parents"] with
  | some [some children, some parents] => do
      return ⟨← children.asList? Relationship.ofJson?, ← parents.asList? Relationship.ofJson?⟩
  | _ => none

/-- The document of a parameter direction. -/
def ParameterDirection.toJson (direction : ParameterDirection) : Json := .text direction.label

/-- The parameter direction of a document. -/
def ParameterDirection.ofJson? (document : Json) : Option ParameterDirection :=
  document.asBareAlternative?.bind ParameterDirection.ofLabel?

/-- The document of a parameter. -/
def ProcedureParameter.toJson (param : ProcedureParameter) : Json :=
  .object [("Name", .text param.name), ("TypeTag", .text param.typeTag),
    ("Direction", param.direction.toJson), ("Ordinal", .int param.ordinal.toNat)]

/-- The parameter of a document. -/
def ProcedureParameter.ofJson? (document : Json) : Option ProcedureParameter :=
  match document.asFields? ["Name", "TypeTag", "Direction", "Ordinal"] with
  | some [some name, some typeTag, some direction, some ordinal] => do
      let ordinal ← ordinal.asIntBetween? 0 (UInt32.size - 1)
      return ⟨← name.asText?, ← typeTag.asText?, ← ParameterDirection.ofJson? direction,
        .ofNat ordinal.toNat⟩
  | _ => none

/-- The document of the name of a procedure. -/
def ProcedureName.toJson (name : ProcedureName) : Json :=
  .object [("Owner", .text name.owner), ("Package", .text name.package), ("Name", .text name.name)]

/-- The name of a procedure that a document holds. -/
def ProcedureName.ofJson? (document : Json) : Option ProcedureName :=
  match document.asFields? ["Owner", "Package", "Name"] with
  | some [some owner, some package, some name] => do
      return ⟨← owner.asText?, ← package.asText?, ← name.asText?⟩
  | _ => none

/-- The document of a procedure definition. -/
def ProcedureDefinition.toJson (definition : ProcedureDefinition) : Json :=
  .object [("Name", definition.name.toJson),
    ("Params", .ofList ProcedureParameter.toJson definition.params)]

/-- The procedure definition of a document. -/
def ProcedureDefinition.ofJson? (document : Json) : Option ProcedureDefinition :=
  match document.asFields? ["Name", "Params"] with
  | some [some name, some params] => do
      return ⟨← ProcedureName.ofJson? name, ← params.asList? ProcedureParameter.ofJson?⟩
  | _ => none

/-- The document of a discovered procedure. -/
def ProcedureNode.toJson : ProcedureNode → Json
  | .root name inner => .object [("Root", .array [.text name, toJson inner])]
  | .package name definitions =>
      .object [("Package", .array [.text name, .ofList ProcedureDefinition.toJson definitions])]
  | .single definition => .object [("Definition", definition.toJson)]
  | .empty => .text "Empty"

/-- The discovered procedure of a document. -/
def ProcedureNode.ofJson? : Json → Option ProcedureNode
  | .text "Empty" => some .empty
  | .object [("Empty", .null)] => some .empty
  | .object [("Root", .array [.text name, inner])] => (ofJson? inner).map (.root name)
  | .object [("Package", .array [.text name, definitions])] =>
      (definitions.asList? ProcedureDefinition.ofJson?).map (.package name)
  | .object [("Definition", definition)] =>
      (ProcedureDefinition.ofJson? definition).map .single
  | _ => none

/-- The document of a snapshot. -/
def SchemaSnapshot.toJson (snapshot : SchemaSnapshot) : Json :=
  .object [("PrimaryKeys", .ofMap .text snapshot.primaryKeys),
    ("Tables", .ofMap Table.toJson snapshot.tables),
    ("Columns", .ofMap (.ofMap Column.toJson) snapshot.columns),
    ("Relationships", .ofMap RelationshipSet.toJson snapshot.relationships),
    ("Sprocs", .ofList ProcedureNode.toJson snapshot.procedures),
    ("SprocsParams", .ofMap (.ofList ProcedureParameter.toJson) snapshot.procedureParams),
    ("Packages", .ofMap (.ofList ProcedureDefinition.toJson) snapshot.packages),
    ("Individuals", .ofList .text snapshot.individuals),
    ("IsOffline", .bool snapshot.isOffline)]

/-- A field that may be missing, with the value that stands for a missing one. -/
def Json.optionalField? {α : Type} (missing : α) (decode : Json → Option α) :
    Option Json → Option α
  | none => some missing
  | some document => decode document

/-- The snapshot of a document; a missing field is an empty one. -/
def SchemaSnapshot.ofJson? (document : Json) : Option SchemaSnapshot :=
  match document.asFields? ["PrimaryKeys", "Tables", "Columns", "Relationships", "Sprocs",
      "SprocsParams", "Packages", "Individuals", "IsOffline"] with
  | some [primaryKeys, tables, columns, relationships, procedures, procedureParams, packages,
      individuals, isOffline] => do
      return {
        primaryKeys := ← Json.optionalField? .empty (Json.asMap? Json.asText?) primaryKeys
        tables := ← Json.optionalField? .empty (Json.asMap? Table.ofJson?) tables
        columns := ←
          Json.optionalField? .empty (Json.asMap? (Json.asMap? Column.ofJson?)) columns
        relationships := ←
          Json.optionalField? .empty (Json.asMap? RelationshipSet.ofJson?) relationships
        procedures := ←
          Json.optionalField? [] (Json.asList? ProcedureNode.ofJson?) procedures
        procedureParams := ←
          Json.optionalField? .empty (Json.asMap? (Json.asList? ProcedureParameter.ofJson?))
            procedureParams
        packages := ←
          Json.optionalField? .empty (Json.asMap? (Json.asList? ProcedureDefinition.ofJson?))
            packages
        individuals := ← Json.optionalField? [] (Json.asList? Json.asText?) individuals
        isOffline := ← Json.optionalField? false Json.asBool? isOffline }
  | _ => none

end Orm
