import Orm.Context.Surroundings
import Orm.Text.Search

/-!
# A database that follows a script

A `ScriptedDatabase` answers commands by rules instead of by data, so that a run can be repeated.
The first rule whose word occurs in a command answers it. Without a rule a statement that reads
back an assigned key gets the next key, a query gets no rows, and all else affects one row.
-/

namespace Orm

/-- The answer to commands in which a word occurs; `usesLeft` limits how often it is given. -/
structure ScriptRule where
  word : String
  answer : Except DriverError CommandResult
  usesLeft : Option Nat

/-- The rules of a database, and the calls that it refuses. -/
structure Script where
  rules : List ScriptRule
  connectRefusal : Option DriverError
  startRefusal : Option DriverError
  commitRefusal : Option DriverError
  rollbackRefusal : Option DriverError

/-- The script without rules. -/
def Script.empty : Script := ⟨[], none, none, none, none⟩

/-- A database that follows a script, with the next key that it assigns. -/
structure ScriptedDatabase where
  script : Script
  nextKey : Int64

namespace ScriptRule

/-- Whether a rule answers a command. -/
def applies (rule : ScriptRule) (text : String) : Bool :=
  rule.usesLeft != some 0 && Text.occursIn rule.word.toList text.toList

/-- A rule after it was used. -/
def used (rule : ScriptRule) : ScriptRule :=
  { rule with usesLeft := rule.usesLeft.map fun count => count - 1 }

/-- The answer of the first rule for a command, and the rules afterwards. -/
def answerOf? (text : String) :
    List ScriptRule → Option (Except DriverError CommandResult × List ScriptRule)
  | [] => none
  | rule :: rest =>
      if rule.applies text then some (rule.answer, rule.used :: rest)
      else (answerOf? text rest).map fun found => (found.1, rule :: found.2)

end ScriptRule

namespace ScriptedDatabase

/-- A database before its first command. -/
def start (script : Script) : ScriptedDatabase := ⟨script, 100⟩

/-- A call without a result, which fails if the script refuses it. -/
def call (refusal : Script → Option DriverError) :
    StateM ScriptedDatabase (Except DriverError Unit) := fun database =>
  match refusal database.script with
  | some cause => (.error cause, database)
  | none => (.ok (), database)

/-- The answer to a command without a rule. -/
def unscripted (command : Command) : StateM ScriptedDatabase CommandResult := fun database =>
  if Text.occursIn "SCOPE_IDENTITY".toList command.text.toList then
    (.scalar (.int database.nextKey), { database with nextKey := database.nextKey + 1 })
  else if Text.beginsWith "SELECT".toList command.text.toList then (.rows ⟨[], []⟩, database)
  else (.affected 1, database)

/-- The answer to a command. -/
def execute (command : Command) :
    StateM ScriptedDatabase (Except DriverError CommandResult) := fun database =>
  match ScriptRule.answerOf? command.text database.script.rules with
  | some (answer, rules) =>
      (answer, { database with script := { database.script with rules := rules } })
  | none =>
      let (result, database) := unscripted command database
      (.ok result, database)

/-- The connection to a scripted database. -/
def connection : Connection ScriptedDatabase where
  start _ := call Script.startRefusal
  execute := execute
  commit := call Script.commitRefusal
  rollback := call Script.rollbackRefusal

/-- A scripted database as contexts see it. -/
def database : Database ScriptedDatabase where
  connect _ := call Script.connectRefusal
  connection := connection

end ScriptedDatabase

end Orm
