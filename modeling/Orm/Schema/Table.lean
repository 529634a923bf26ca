/-!
# Tables

A table is known by its schema and name. Its full name is kept beside them and is the key of every
metadata cache.
-/

namespace Orm

/-- A table of a schema. -/
structure Table where
  schema : String
  name : String
  fullName : String
deriving DecidableEq, Repr, Inhabited

namespace Table

/-- The table of a schema with a name; an empty schema is left out of the full name. -/
def named (schema name : String) : Table :=
  ⟨schema, name, if schema.isEmpty then name else schema ++ "." ++ name⟩

/-- The table with a full name: the first dot ends the schema, and without a dot there is none. -/
def ofFullName (fullName : String) : Table :=
  let chars := fullName.toList
  match chars.dropWhile (· ≠ '.') with
  | [] => named "" fullName
  | _ :: name => named (String.ofList (chars.takeWhile (· ≠ '.'))) (String.ofList name)

/-- Whether a table comes before another: by schema, then by name, then by full name. -/
def comesBefore (left right : Table) : Bool :=
  left.schema < right.schema ||
    left.schema == right.schema &&
      (left.name < right.name || left.name == right.name && left.fullName < right.fullName)

/-- Tables in order, each once. -/
def sortDistinct (tables : List Table) : List Table :=
  (tables.mergeSort fun left right => !right.comesBefore left).eraseReps

end Table

end Orm
