import Orm.Sql.Dialect
import Orm.Value.Affinity

/-!
# The dialect with bracketed names

Names stand in brackets, a closing bracket in a name being written twice. Rows are limited by `TOP`
or by `OFFSET` and `FETCH`, and an insert that may meet an existing row is a `MERGE`.
-/

namespace Orm

namespace Brackets

/-- The characters of a name with each closing bracket written twice. -/
def doubled : List Char → List Char
  | [] => []
  | c :: rest => if c = ']' then ']' :: ']' :: doubled rest else c :: doubled rest

/-- A name in brackets. -/
def quote (identifier : String) : String :=
  String.ofList ('[' :: doubled identifier.toList ++ [']'])

/-- The limit of a query without an offset. -/
def topClause : Option Nat → Option Nat → Option String
  | none, some take => some s!"TOP {take}"
  | _, _ => none

/-- The offset and limit of a query; an offset needs an order. -/
def pagingClause (skip take : Option Nat) (ordered : Bool) : Option String :=
  skip.map fun skip =>
    (if ordered then "" else "ORDER BY (SELECT NULL) ") ++ s!"OFFSET {skip} ROWS" ++
      match take with
      | none => ""
      | some take => s!" FETCH NEXT {take} ROWS ONLY"

/-- The name of an aggregate. -/
def aggregateFunction : AggregateOp → String
  | .count => "COUNT"
  | .sum => "SUM"
  | .avg => "AVG"
  | .min => "MIN"
  | .max => "MAX"
  | .stdDev => "STDEV"
  | .variance => "VAR"

/-- The comparison or assignment of a column of the target row with the source row. -/
def targetEqualsSource (column : String) : SqlPieces :=
  [.word "[target].", .name column, .word " = [source].", .name column]

/-- The statement that inserts a row or resolves the conflict with one that has the same keys. -/
def upsert (request : Upsert) : Option SqlPieces :=
  if request.keys.isEmpty ∨ request.policy = .throw then none
  else
    let updates := (request.columns.filter fun column => column.1 ∉ request.keys).map fun column =>
      targetEqualsSource column.1
    some (
      [.word "MERGE INTO ", .table request.table,
        .word " WITH (HOLDLOCK) AS [target] USING (SELECT "] ++
      separated ", " (request.columns.map fun column =>
        [column.2, .word " AS ", .name column.1]) ++
      [.word ") AS [source] ON "] ++
      separated " AND " (request.keys.map targetEqualsSource) ++
      (if request.policy = .update ∧ !updates.isEmpty then
        .word " WHEN MATCHED THEN UPDATE SET " :: separated ", " updates
       else []) ++
      [.word " WHEN NOT MATCHED THEN INSERT ("] ++
      separated ", " (request.columns.map fun column => [.name column.1]) ++
      [.word ") VALUES ("] ++
      separated ", " (request.columns.map fun column => [.word "[source].", .name column.1]) ++
      [.word ");"])

/-- The types of the database and their affinities. -/
def typeMappings : List (String × Affinity) :=
  [("bit", .boolean), ("tinyint", .integer), ("smallint", .integer), ("int", .integer),
    ("bigint", .integer), ("real", .float), ("float", .float), ("decimal", .decimal),
    ("numeric", .decimal), ("money", .decimal), ("smallmoney", .decimal), ("char", .text),
    ("nchar", .text), ("varchar", .text), ("nvarchar", .text), ("text", .text), ("ntext", .text),
    ("xml", .text), ("date", .date), ("datetime", .dateTime), ("datetime2", .dateTime),
    ("smalldatetime", .dateTime), ("datetimeoffset", .dateTime), ("binary", .binary),
    ("varbinary", .binary), ("image", .binary), ("rowversion", .binary), ("timestamp", .binary),
    ("uniqueidentifier", .guid)]

end Brackets

/-- The dialect with bracketed names. -/
def Dialect.brackets : Dialect where
  name := "mssql"
  quote := Brackets.quote
  parameter := fun index => s!"@p{index}"
  topClause := Brackets.topClause
  pagingClause := Brackets.pagingClause
  aggregateFunction := Brackets.aggregateFunction
  identityQuery := some "SELECT SCOPE_IDENTITY()"
  supports := fun _ => true
  upsert := Brackets.upsert

end Orm
