import Orm.Database.Command
import Orm.Database.Transaction
import Orm.Query.Expr
import Orm.Schema.Table

/-!
# Statements and dialects

A statement is a list of pieces: fixed words, names, and slots for parameters. A `Dialect` is the
set of a database's conventions, and `Dialect.text` writes the pieces by them. Values occur in no
piece, so they cannot get into a text.
-/

namespace Orm

/-- A piece of a statement. -/
inductive SqlPiece
  | word (text : String)
  | name (identifier : String)
  | table (table : Table)
  | column (aliasName name : String)
  | star (aliasName : String)
  | slot (index : Nat)
deriving DecidableEq, Repr

/-- A statement before it is written. -/
abbrev SqlPieces := List SqlPiece

/-- An insert that says what happens to a row that exists already. Each column comes with the piece
that stands for its value. -/
structure Upsert where
  table : Table
  columns : List (String × SqlPiece)
  keys : List String
  policy : ConflictPolicy
deriving DecidableEq

/-- A table by its schema and name, each quoted. -/
def quotedTable (quote : String → String) (table : Table) : String :=
  if table.schema.isEmpty then quote table.name
  else quote table.schema ++ "." ++ quote table.name

/-- The conventions of a database. A top clause stands after the word that begins a query, a paging
clause at its end; the latter depends on whether the rows are ordered. -/
structure Dialect where
  name : String
  quote : String → String
  parameter : Nat → String
  topClause : Option Nat → Option Nat → Option String
  pagingClause : Option Nat → Option Nat → Bool → Option String
  aggregateFunction : AggregateOp → String
  identityQuery : Option String
  supports : ConflictPolicy → Bool
  upsert : Upsert → Option SqlPieces
  quoteTable : Table → String := quotedTable quote

namespace Dialect

/-- The text of one piece. -/
def pieceText (dialect : Dialect) : SqlPiece → String
  | .word text => text
  | .name identifier => dialect.quote identifier
  | .table table => dialect.quoteTable table
  | .column aliasName name => dialect.quote aliasName ++ "." ++ dialect.quote name
  | .star aliasName => dialect.quote aliasName ++ ".*"
  | .slot index => dialect.parameter index

/-- The text of a statement. -/
def text (dialect : Dialect) (pieces : SqlPieces) : String :=
  String.join (pieces.map dialect.pieceText)

/-- Values as parameters numbered from zero. -/
def params (dialect : Dialect) (values : List Value) : List CommandParameter :=
  values.mapIdx fun index value => .input (dialect.parameter index) value

/-- The command of a statement whose slots take the given values. -/
def command (dialect : Dialect) (pieces : SqlPieces) (values : List Value) : Command :=
  .statement (dialect.text pieces) (dialect.params values)

end Dialect

/-- Parts of a statement with a fixed word between them. -/
def separated (word : String) (parts : List SqlPieces) : SqlPieces :=
  [SqlPiece.word word].intercalate parts

/-- An optional clause after a blank. -/
def blankBefore : Option String → SqlPieces
  | none => []
  | some clause => [.word " ", .word clause]

end Orm
