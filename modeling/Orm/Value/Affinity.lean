/-!
# Storage families

The affinity of a column says which kind of value it stores, whatever the database calls its type.
-/

namespace Orm

/-- The storage family of a column. -/
inductive Affinity
  | boolean
  | integer
  | float
  | decimal
  | text
  | date
  | dateTime
  | binary
  | guid
  | array
  | other
deriving DecidableEq, Repr, Inhabited

namespace Affinity

/-- All storage families. -/
def all : List Affinity :=
  [.boolean, .integer, .float, .decimal, .text, .date, .dateTime, .binary, .guid, .array, .other]

/-- The name of a storage family. -/
def label : Affinity → String
  | .boolean => "Boolean"
  | .integer => "Integer"
  | .float => "Float"
  | .decimal => "Decimal"
  | .text => "Text"
  | .date => "Date"
  | .dateTime => "DateTime"
  | .binary => "Binary"
  | .guid => "Guid"
  | .array => "Array"
  | .other => "Other"

/-- The storage family with the given name. -/
def ofLabel? (label : String) : Option Affinity :=
  all.find? fun affinity => affinity.label = label

end Affinity

end Orm
