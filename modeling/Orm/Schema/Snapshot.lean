import Orm.Schema.Column
import Orm.Schema.Procedure
import Orm.Schema.Relationship

/-!
# Snapshots of the schema

A `SchemaSnapshot` is all that a schema cache knows, as data. Maps have the full names of tables or
the names of procedures and packages as keys.
-/

namespace Orm

/-- What is known of a schema. -/
structure SchemaSnapshot where
  primaryKeys : NameMap String
  tables : NameMap Table
  columns : NameMap ColumnMap
  relationships : NameMap RelationshipSet
  procedures : List ProcedureNode
  procedureParams : NameMap (List ProcedureParameter)
  packages : NameMap (List ProcedureDefinition)
  individuals : List String
  isOffline : Bool
deriving DecidableEq, Inhabited

namespace SchemaSnapshot

/-- The snapshot of a schema of which nothing is known. -/
def empty : SchemaSnapshot :=
  ⟨.empty, .empty, .empty, .empty, [], .empty, .empty, [], false⟩

/-- Adds a procedure unless one with the same identity is there. -/
def addProcedure (known : List ProcedureNode) (node : ProcedureNode) : List ProcedureNode :=
  if known.any fun other => other.name = node.name then known else known ++ [node]

/-- Adds a name unless it is there. -/
def addIndividual (known : List String) (name : String) : List String :=
  if name ∈ known then known else known ++ [name]

/-- What two snapshots know together. Where both have an entry, that of the first counts, and
procedures are told apart by their identity. -/
def merge (first second : SchemaSnapshot) : SchemaSnapshot where
  primaryKeys := first.primaryKeys.union second.primaryKeys
  tables := first.tables.union second.tables
  columns := first.columns.union second.columns
  relationships := first.relationships.union second.relationships
  procedures := second.procedures.foldl addProcedure first.procedures
  procedureParams := first.procedureParams.union second.procedureParams
  packages := first.packages.union second.packages
  individuals := second.individuals.foldl addIndividual first.individuals
  isOffline := first.isOffline || second.isOffline

end SchemaSnapshot

end Orm
