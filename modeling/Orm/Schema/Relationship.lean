import Orm.Schema.Table

/-!
# Relationships

A relationship says that the foreign keys of one table refer, position by position, to the primary
keys of another. `RelationshipSet.partition` sorts relationships by the part that a table has in
them.
-/

namespace Orm

/-- A reference from the rows of one table to those of another. -/
structure Relationship where
  name : String
  primaryTable : Table
  primaryKeys : List String
  foreignTable : Table
  foreignKeys : List String
deriving DecidableEq, Repr, Inhabited

namespace Relationship

/-- Whether the rows of a table refer to others through the relationship. -/
def isParentOf (relationship : Relationship) (table : Table) : Bool :=
  relationship.foreignTable = table

/-- The pairs of a primary-key column and the column that refers to it. -/
def keyPairs (relationship : Relationship) : List (String × String) :=
  relationship.primaryKeys.zip relationship.foreignKeys

end Relationship

/-- The side of a relationship that a join leads to. -/
inductive RelationshipSide
  | children
  | parents
deriving DecidableEq, Repr

/-- The relationships of one table: those in which it is referred to and those in which it
refers. -/
structure RelationshipSet where
  children : List Relationship
  parents : List Relationship
deriving DecidableEq, Repr, Inhabited

namespace RelationshipSet

/-- The set without relationships. -/
def empty : RelationshipSet := ⟨[], []⟩

/-- The relationships that a table has a part in, by that part. -/
def partition (table : Table) (relationships : List Relationship) : RelationshipSet where
  children := relationships.filter fun relationship => relationship.primaryTable = table
  parents := relationships.filter fun relationship => relationship.foreignTable = table

end RelationshipSet

end Orm
