import Orm.Context.Basic
import Orm.Sql.Select

/-!
# Reading through a context

Queries, first rows, single rows and procedure calls. What is read becomes entities of the context.
Every read opens a connection and sends one command.
-/

namespace Orm

/-- A flat query and its statement. -/
structure CompiledQuery where
  flat : FlatQuery
  rendered : RenderedQuery
deriving DecidableEq

namespace CompiledQuery

/-- The table that the rows of the query become entities of. -/
def resultTable (compiled : CompiledQuery) : Table := compiled.flat.child.table

end CompiledQuery

/-- What a procedure call gave. -/
inductive ProcedureResult
  | nothing
  | scalar (value : Value)
  | rows (set : ResultSet)
  | several (results : List (String × ProcedureResult))
deriving Inhabited

mutual
/-- The result of a procedure call that answered a command. -/
def ProcedureResult.ofCommand : CommandResult → ProcedureResult
  | .affected _ => .nothing
  | .scalar value => .scalar value
  | .rows set => .rows set
  | .sets results => .several (ProcedureResult.ofCommands results)

/-- The named results of a procedure call that answered a command. -/
def ProcedureResult.ofCommands :
    List (String × CommandResult) → List (String × ProcedureResult)
  | [] => []
  | (name, result) :: rest =>
      (name, ProcedureResult.ofCommand result) :: ProcedureResult.ofCommands rest
end

/-- What a result is, in words. -/
def CommandResult.title : CommandResult → String
  | .rows _ => "rows"
  | .affected _ => "an affected-row count"
  | .scalar _ => "a scalar"
  | .sets _ => "multiple result sets"

/-- The rows of a result, which must be rows. -/
def CommandResult.expectRows (result : CommandResult) (command : String) :
    Except ProviderError ResultSet :=
  match result with
  | .rows set => .ok set
  | other => .error (.unexpectedResult command ("expected rows, got " ++ other.title))

mutual
/-- The single value of a result: the first of some rows, and that of the first of several
results. -/
def CommandResult.single : CommandResult → Value
  | .scalar value => value
  | .rows set => set.firstValue.getD .null
  | .affected count => .int (if Value.FitsInt64 count then .ofNat count else .maxValue)
  | .sets results => CommandResult.firstSingle results

/-- The single value of the first of several results. -/
def CommandResult.firstSingle : List (String × CommandResult) → Value
  | [] => .null
  | (_, result) :: _ => CommandResult.single result
end

/-- Checks that a query gives rows of a table, neither groups nor numbers. -/
def FlatQuery.requireRows (flat : FlatQuery) : Except Failure Unit :=
  if flat.isGrouped then
    .error (.plain .unsupported .query "grouped queries are read with execute_grouped")
  else if flat.count ∨ !flat.aggregates.isEmpty then
    .error (.plain .unsupported .query
      "count and aggregate queries are read with execute_scalar")
  else .ok ()

namespace Context

variable {σ α : Type}

/-- The flat query and the statement of a query. -/
def compile (context : Context σ) (query : Query) : Except Failure CompiledQuery := do
  let flat ← query.flatten.mapError QueryError.failure
  let rendered ← (flat.render context.dialect flat.base flat.projectionColumns).mapError
    fun error => (ProviderError.query error).failure
  return ⟨flat, rendered⟩

/-- Opens a connection and sends a command by one of its ways. -/
def sendBy (context : Context σ)
    (execute : Command → StateM (Surroundings σ) (Except DriverError CommandResult))
    (command : Command) : StateM (Desk σ) (Except Failure CommandResult) := Desk.surroundings do
  match ← context.connect with
  | .error error => return .error error.failure
  | .ok () => return (← execute command).mapError DriverError.failure

/-- Opens a connection and sends a command. -/
def send (context : Context σ) (command : Command) :
    StateM (Desk σ) (Except Failure CommandResult) :=
  context.sendBy context.connection.execute command

/-- Opens a connection and sends a command asynchronously. -/
def sendAsync (context : Context σ) (command : Command) :
    StateM (Desk σ) (Except Failure CommandResult) :=
  context.sendBy context.connection.executeAsync command

/-- Makes the rows of a result entities of a table. -/
def materialize (context : Context σ) (table : Table) (columns : ColumnMap) (set : ResultSet) :
    StateM (Desk σ) (List EntityId) :=
  Desk.addAll (set.records.map (Entity.materialized table columns (some context.owner)))

/-- The entities of the rows that a command reads, which `send` sends. -/
def readRows (context : Context σ)
    (send : Command → StateM (Desk σ) (Except Failure CommandResult)) (table : Table)
    (columns : ColumnMap) (command : Command) :
    StateM (Desk σ) (Except Failure (List EntityId)) := do
  match ← send command with
  | .error failure => return .error failure
  | .ok result =>
      match result.expectRows command.text with
      | .error error => return .error error.failure
      | .ok set => return .ok (← context.materialize table columns set)

/-- The table and the columns that the rows of a query belong to, with the query. -/
def prepareRows (context : Context σ) (query : Query) :
    StateM (Desk σ) (Except Failure (CompiledQuery × ColumnMap)) := do
  match (do
    let compiled ← context.compile query
    compiled.flat.requireRows
    return compiled : Except Failure CompiledQuery) with
  | .error failure => return .error failure
  | .ok compiled => return (← context.columns compiled.resultTable).map fun columns =>
      (compiled, columns)

/-- The rows of a query as entities. -/
def executeQuery (context : Context σ) (query : Query) :
    StateM (Desk σ) (Except Failure (List EntityId)) := do
  match ← context.prepareRows query with
  | .error failure => return .error failure
  | .ok (compiled, columns) =>
      context.readRows context.send compiled.resultTable columns compiled.rendered.command

/-- The rows of a query as entities, read asynchronously. -/
def executeQueryAsync (context : Context σ) (query : Query) :
    StateM (Desk σ) (Except Failure (List EntityId)) := do
  match ← context.prepareRows query with
  | .error failure => return .error failure
  | .ok (compiled, columns) =>
      context.readRows context.sendAsync compiled.resultTable columns compiled.rendered.command

/-- The cell of a row under a column, null if there is none; of two cells the later counts. -/
def cell (record : List (String × Value)) (column : String) : Value :=
  ((NameMap.ofList record).find? column).getD .null

/-- The entity of a group for an alias. -/
def groupEntity (context : Context σ) (flat : FlatQuery) (cache : SchemaCache)
    (layout : GroupedLayout) (record : List (String × Value)) (aliasName : String) : Entity :=
  let table := (flat.aliases.find? aliasName).getD flat.base.table
  Entity.materialized table ((cache.columns table).getD .empty) (some context.owner)
    ((layout.namesOf aliasName).map fun name => (name, cell record name))

/-- Makes the rows of a grouped query groups. -/
def materializeGroups (context : Context σ) (flat : FlatQuery) :
    List (List (String × Value)) → StateM (Desk σ) (List GroupedRow)
  | [] => return []
  | record :: rest => do
      let layout := GroupedLayout.of flat
      let cache := (← get).around.cache
      let rows ← Desk.addAll
        (layout.aliases.map (context.groupEntity flat cache layout record))
      let group := ⟨layout.keys.map fun key => cell record key.2, rows⟩
      return group :: (← materializeGroups context flat rest)

/-- The groups of a grouped query. -/
def executeGrouped (context : Context σ) (query : Query) :
    StateM (Desk σ) (Except Failure (List GroupedRow)) := do
  match context.compile query with
  | .error failure => return .error failure
  | .ok compiled =>
      if !compiled.flat.isGrouped then
        return .error
          (.plain .unsupported .query "execute_grouped needs a query with group_by")
      else
        match ← context.send compiled.rendered.command with
        | .error failure => return .error failure
        | .ok result =>
            match result.expectRows compiled.rendered.text with
            | .error error => return .error error.failure
            | .ok set => return .ok (← context.materializeGroups compiled.flat set.records)

/-- The number of a count or aggregate query, read as a type; a null reads as the default of the
type. -/
def executeScalar [Readable α] (context : Context σ) (query : Query) :
    StateM (Desk σ) (Except Failure α) := do
  match context.compile query with
  | .error failure => return .error failure
  | .ok compiled =>
      match ← context.send compiled.rendered.command with
      | .error failure => return .error failure
      | .ok result =>
          let value := result.single
          if value.isNull then return .ok Readable.nullDefault
          else return (Readable.ofValue value).mapError CoercionError.failure

/-- The number of rows that are read if none is given. -/
def defaultTopRows : Nat := 100

/-- The first rows of a table as entities. -/
def topRows (context : Context σ) (table : Table) (count : Option Nat) :
    StateM (Desk σ) (Except Failure (List EntityId)) := do
  match ← context.columns table with
  | .error failure => return .error failure
  | .ok columns =>
      let text := topRowsText context.dialect table (count.getD defaultTopRows)
      context.readRows context.send table columns (.statement text [])

/-- The first row with given values in some columns, as an entity. -/
def individualBy (context : Context σ) (table : Table) (keys : List (String × Value)) :
    StateM (Desk σ) (Except Failure (Option EntityId)) := do
  match ← context.columns table with
  | .error failure => return .error failure
  | .ok columns =>
      Desk.surroundings (modify fun around =>
        { around with cache := around.cache.recordIndividual table })
      let text := individualText context.dialect table (keys.map Prod.fst)
      let command := Command.statement text (context.dialect.params (keys.map Prod.snd))
      return (← context.readRows context.send table columns command).map List.head?

/-- The column of the primary key of a table, if it is a single one. -/
def singleKey (cache : SchemaCache) (table : Table) (columns : ColumnMap) :
    Except Failure String :=
  match cache.primaryKey table with
  | some key => .ok key
  | none =>
      match columns.primaryKeys with
      | [key] => .ok key
      | _ => .error (.plain .unsupported .provider
          (table.fullName ++ " has no single-column primary key"))

/-- The row of a table with a given primary key, as an entity. -/
def individual (context : Context σ) (table : Table) (key : Value) :
    StateM (Desk σ) (Except Failure (Option EntityId)) := do
  match ← context.columns table with
  | .error failure => return .error failure
  | .ok columns =>
      match singleKey (← get).around.cache table columns with
      | .error failure => return .error failure
      | .ok column => context.individualBy table [(column, key)]

/-- Whether a name stands for a procedure: its qualified or its bare name, without regard to the
case of the letters A to Z. -/
def namesProcedure (name : String) (definition : ProcedureDefinition) : Bool :=
  Text.asciiEqual definition.name.qualified name || Text.asciiEqual definition.name.name name

/-- The first procedure with a name. -/
def procedureDefinition (context : Context σ) (name : String) :
    StateM (Desk σ) (Except Failure ProcedureDefinition) := do
  match ← Desk.surroundings (Surroundings.procedures context.catalog) with
  | .error error => return .error error.failure
  | .ok nodes =>
      match (nodes.flatMap ProcedureNode.definitions).find? (namesProcedure name) with
      | some definition => return .ok definition
      | none =>
          return .error (.plain .notFound .provider s!"stored procedure '{name}'")

/-- Calls a procedure with arguments by one of the ways of a connection. -/
def callBy (context : Context σ)
    (execute : Command → StateM (Surroundings σ) (Except DriverError CommandResult))
    (name : String) (arguments : List Value) :
    StateM (Desk σ) (Except Failure ProcedureResult) := do
  match ← context.procedureDefinition name with
  | .error failure => return .error failure
  | .ok definition => Desk.surroundings do
      match ← context.connect with
      | .error error => return .error error.failure
      | .ok () =>
          match definition.call arguments with
          | .error cause => return .error (ProviderError.argumentCount cause).failure
          | .ok command =>
              match ← execute command with
              | .error cause => return .error (ProviderError.driver cause).failure
              | .ok result => return .ok (.ofCommand result)

/-- Calls a procedure with arguments. -/
def executeProcedure (context : Context σ) (name : String) (arguments : List Value) :
    StateM (Desk σ) (Except Failure ProcedureResult) :=
  context.callBy context.connection.execute name arguments

/-- Calls a procedure with arguments asynchronously. -/
def executeProcedureAsync (context : Context σ) (name : String) (arguments : List Value) :
    StateM (Desk σ) (Except Failure ProcedureResult) :=
  context.callBy context.connection.executeAsync name arguments

end Context

end Orm
