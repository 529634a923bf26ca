import Orm.Schema.Snapshot

/-!
# The schema cache

A `SchemaCache` keeps what was learnt about a schema. Tables and procedures are known all at once
or not at all; columns and relationships are known table by table. Each kind of knowledge has an
answer, a way to learn it, and `consult`, which asks a loader only for what is not known.
-/

namespace Orm

/-- What is known of a schema, and whether the live catalog may be asked for more. -/
structure SchemaCache where
  primaryKeys : NameMap String
  tableMap : Option (NameMap Table)
  columnMaps : NameMap ColumnMap
  relationshipSets : NameMap RelationshipSet
  procedureList : Option (List ProcedureNode)
  procedureParams : NameMap (List ProcedureParameter)
  packages : NameMap (List ProcedureDefinition)
  individuals : List String
  isOffline : Bool
deriving DecidableEq, Inhabited

namespace SchemaCache

/-- The cache of a schema of which nothing is known. -/
def empty : SchemaCache :=
  ⟨.empty, none, .empty, .empty, none, .empty, .empty, [], false⟩

/-- The known tables in the order of their full names. -/
def tables (cache : SchemaCache) : Option (List Table) :=
  cache.tableMap.map NameMap.values

/-- The known columns of a table. -/
def columns (cache : SchemaCache) (table : Table) : Option ColumnMap :=
  cache.columnMaps.find? table.fullName

/-- The known relationships of a table. -/
def relationships (cache : SchemaCache) (table : Table) : Option RelationshipSet :=
  cache.relationshipSets.find? table.fullName

/-- The known procedures. -/
def procedures (cache : SchemaCache) : Option (List ProcedureNode) := cache.procedureList

/-- The known key column of a table whose primary key is a single column. -/
def primaryKey (cache : SchemaCache) (table : Table) : Option String :=
  cache.primaryKeys.find? table.fullName

/-- The cache with the tables of the schema. -/
def learnTables (cache : SchemaCache) (tables : List Table) : SchemaCache :=
  { cache with
    tableMap := some (NameMap.ofList (tables.map fun table => (table.fullName, table))) }

/-- The cache with the columns of a table, and with its key if that is a single column. -/
def learnColumns (cache : SchemaCache) (table : Table) (columns : ColumnMap) : SchemaCache :=
  { cache with
    primaryKeys := match columns.primaryKeys with
      | [key] => cache.primaryKeys.insert table.fullName key
      | _ => cache.primaryKeys
    columnMaps := cache.columnMaps.insert table.fullName columns }

/-- The cache with the relationships of a table. -/
def learnRelationships (cache : SchemaCache) (table : Table) (set : RelationshipSet) :
    SchemaCache :=
  { cache with relationshipSets := cache.relationshipSets.insert table.fullName set }

/-- The parameters of every definition of a node under its qualified name. -/
def indexParams (known : NameMap (List ProcedureParameter)) (node : ProcedureNode) :
    NameMap (List ProcedureParameter) :=
  node.definitions.foldl (fun known definition =>
    known.insert definition.name.qualified definition.params) known

/-- The definitions of a node that is a package under its name. -/
def indexPackage (known : NameMap (List ProcedureDefinition)) :
    ProcedureNode → NameMap (List ProcedureDefinition)
  | .package name definitions => known.insert name definitions
  | _ => known

/-- The cache with the procedures of the schema, their parameters and their packages. -/
def learnProcedures (cache : SchemaCache) (nodes : List ProcedureNode) : SchemaCache :=
  { cache with
    procedureList := some nodes
    procedureParams := nodes.foldl indexParams cache.procedureParams
    packages := nodes.foldl indexPackage cache.packages }

/-- The cache with a table among those of which single rows were looked up. -/
def recordIndividual (cache : SchemaCache) (table : Table) : SchemaCache :=
  { cache with individuals := SchemaSnapshot.addIndividual cache.individuals table.fullName }

/-- Answers a question from the cache if it can, and else by a loader, whose answer the cache then
learns. A loader that fails leaves the cache as it is. -/
def consult {α ε σ : Type} (known : SchemaCache → Option α)
    (learn : SchemaCache → α → SchemaCache) (load : σ → Except ε α × σ)
    (cache : SchemaCache) (state : σ) : Except ε α × SchemaCache × σ :=
  match known cache with
  | some answer => (.ok answer, cache, state)
  | none =>
      match load state with
      | (.ok answer, state) => (.ok answer, learn cache answer, state)
      | (.error error, state) => (.error error, cache, state)

/-- All that the cache knows. -/
def snapshot (cache : SchemaCache) : SchemaSnapshot where
  primaryKeys := cache.primaryKeys
  tables := cache.tableMap.getD .empty
  columns := cache.columnMaps
  relationships := cache.relationshipSets
  procedures := cache.procedureList.getD []
  procedureParams := cache.procedureParams
  packages := cache.packages
  individuals := cache.individuals
  isOffline := cache.isOffline

/-- The cache that knows what a snapshot says; no tables or no procedures count as unknown. -/
def ofSnapshot (snapshot : SchemaSnapshot) : SchemaCache where
  primaryKeys := snapshot.primaryKeys
  tableMap := if snapshot.tables.isEmpty then none else some snapshot.tables
  columnMaps := snapshot.columns
  relationshipSets := snapshot.relationships
  procedureList := if snapshot.procedures.isEmpty then none else some snapshot.procedures
  procedureParams := snapshot.procedureParams
  packages := snapshot.packages
  individuals := snapshot.individuals
  isOffline := snapshot.isOffline

end SchemaCache

end Orm
