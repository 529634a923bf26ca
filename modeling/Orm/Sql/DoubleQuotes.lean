import Orm.Sql.Dialect

/-!
# The dialect with double quotes

A small dialect: names stand between double quotes, parameters are numbered from one after a colon,
and rows are limited by `LIMIT` and `OFFSET`. It reads back no assigned keys and resolves no
conflicts; `Dialect.boastful` is the same but claims that it does.
-/

namespace Orm

namespace DoubleQuotes

/-- The characters of a name with each quote written twice. -/
def doubled : List Char → List Char
  | [] => []
  | c :: rest => if c = '"' then '"' :: '"' :: doubled rest else c :: doubled rest

/-- A name between double quotes. -/
def quote (identifier : String) : String :=
  String.ofList ('"' :: doubled identifier.toList ++ ['"'])

/-- The limit and the offset of a query. -/
def pagingClause (skip take : Option Nat) (_ordered : Bool) : Option String :=
  match skip, take with
  | none, none => none
  | none, some take => some s!"LIMIT {take}"
  | some skip, none => some s!"OFFSET {skip}"
  | some skip, some take => some s!"LIMIT {take} OFFSET {skip}"

end DoubleQuotes

/-- The dialect with double quotes. -/
def Dialect.doubleQuotes : Dialect where
  name := "lite"
  quote := DoubleQuotes.quote
  parameter := fun index => ":" ++ toString (index + 1)
  topClause := fun _ _ => none
  pagingClause := DoubleQuotes.pagingClause
  aggregateFunction := AggregateOp.tag
  identityQuery := none
  supports := fun policy => policy = .throw
  upsert := fun _ => none

/-- The dialect with double quotes that claims to resolve conflicts. -/
def Dialect.boastful : Dialect :=
  { Dialect.doubleQuotes with name := "odd", supports := fun _ => true }

end Orm
