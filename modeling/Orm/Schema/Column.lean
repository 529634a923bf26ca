import Orm.Data.NameMap
import Orm.Value.Affinity

/-!
# Columns

The description of a column and the columns of a table, which are kept in the order of their
names.
-/

namespace Orm

/-- The description of a column; `typeTag` is the name of its type in the database. -/
structure Column where
  name : String
  affinity : Affinity
  typeTag : String
  isNullable : Bool
  isPrimaryKey : Bool
  isIdentity : Bool
deriving DecidableEq, Repr, Inhabited

namespace Column

/-- A column that holds nulls and is no key. -/
def plain (name : String) (affinity : Affinity) (typeTag : String) : Column :=
  ⟨name, affinity, typeTag, true, false, false⟩

/-- The column as a primary key, which holds no nulls. -/
def primaryKey (column : Column) : Column :=
  { column with isPrimaryKey := true, isNullable := false }

/-- The column with values that the database assigns. -/
def identity (column : Column) : Column := { column with isIdentity := true }

/-- The column without nulls. -/
def notNull (column : Column) : Column := { column with isNullable := false }

end Column

/-- The columns of a table under their names. -/
abbrev ColumnMap := NameMap Column

namespace ColumnMap

/-- The columns of a list; of two with one name the later counts. -/
def ofColumns (columns : List Column) : ColumnMap :=
  NameMap.ofList (columns.map fun column => (column.name, column))

/-- The names of the primary-key columns in order. -/
def primaryKeys (columns : ColumnMap) : List String :=
  (columns.values.filter Column.isPrimaryKey).map Column.name

/-- Whether the column under a name belongs to the primary key. -/
def isPrimaryKey (columns : ColumnMap) (name : String) : Bool :=
  (columns.find? name).any Column.isPrimaryKey

end ColumnMap

end Orm
