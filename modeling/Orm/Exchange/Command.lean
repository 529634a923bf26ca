import Orm.Context.Queries
import Orm.Exchange.Schema

/-!
# Exchanged commands and results

Commands are shown as they are sent; results are given by what they hold.
-/

namespace Orm

/-- The exchanged form of a parameter. -/
def CommandParameter.toExchange (param : CommandParameter) : Json :=
  .array [.text param.name, param.value.toExchange, .text param.direction.label,
    .ofOption .text param.typeTag]

/-- The exchanged form of a command. -/
def Command.toExchange (command : Command) : Json :=
  .array [.text "exec", .text command.text, .ofList CommandParameter.toExchange command.params,
    .ofOption .ofNat command.timeout, .bool command.isProcedure]

/-- The rows of an exchanged form. -/
def ResultSet.ofExchange? (document : Json) : Option ResultSet := do
  return ⟨← document.required? "columns" (Json.asList? Json.asText?),
    ← document.required? "rows" (Json.asList? (Json.asList? Value.ofExchange?))⟩

/-- The exchanged form of rows. -/
def ResultSet.toExchange (set : ResultSet) : Json :=
  .object [("columns", .ofList .text set.columns),
    ("rows", .ofList (.ofList Value.toExchange) set.rows)]

mutual
/-- The result of an exchanged form. -/
def CommandResult.ofExchange? : Json → Option CommandResult
  | .object [("rows", set)] => (ResultSet.ofExchange? set).map .rows
  | .object [("affected", count)] => count.asNat?.map .affected
  | .object [("scalar", value)] => (Value.ofExchange? value).map .scalar
  | .object [("sets", .array results)] => (CommandResult.listOfExchange? results).map .sets
  | _ => none

/-- The named results of exchanged forms. -/
def CommandResult.listOfExchange? : List Json → Option (List (String × CommandResult))
  | [] => some []
  | .array [.text name, result] :: rest => do
      let result ← CommandResult.ofExchange? result
      return (name, result) :: (← CommandResult.listOfExchange? rest)
  | _ :: _ => none
end

mutual
/-- The exchanged form of what a procedure gave. -/
def ProcedureResult.toExchange : ProcedureResult → Json
  | .nothing => .text "unit"
  | .scalar value => .object [("scalar", value.toExchange)]
  | .rows set => .object [("set", set.toExchange)]
  | .several results => .object [("multiple", .array (ProcedureResult.listToExchange results))]

/-- The exchanged forms of named results. -/
def ProcedureResult.listToExchange : List (String × ProcedureResult) → List Json
  | [] => []
  | (name, result) :: rest =>
      .array [.text name, ProcedureResult.toExchange result] ::
        ProcedureResult.listToExchange rest
end

/-- The refusal of an exchanged form. -/
def DriverError.ofExchange? (document : Json) : Option DriverError := do
  let message ← document.textMember? "message"
  match ← document.textMember? "kind" with
  | "Connect" => return .connect message
  | "Execute" => return .execute message
  | "Constraint" => return .constraint message
  | "Transaction" => return .transaction message
  | "Discovery" => return .discovery message
  | _ => none

/-- The exchanged form of a statement with its parameters. -/
def RenderedQuery.toExchange (rendered : RenderedQuery) : Json :=
  .object [("sql", .text rendered.text),
    ("params", .ofList CommandParameter.toExchange rendered.params)]

/-- The exchanged form of a compiled query. -/
def CompiledQuery.toExchange (compiled : CompiledQuery) : Json :=
  .object [("table", compiled.resultTable.toExchange), ("sql", .text compiled.rendered.text),
    ("params", .ofList CommandParameter.toExchange compiled.rendered.params)]

end Orm
