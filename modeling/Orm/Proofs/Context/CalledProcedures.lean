import Mathlib.Data.List.Find
import Orm.Proofs.Context.Announcement
import Orm.Proofs.Context.MergedProcedures

/-!
# The procedure that a name calls

A name stands for the first procedure that has it as its qualified or as its bare name. So the
qualified name of a procedure, even if no other one has it, calls another procedure that was
discovered before and has it as its bare name. `qualified_name_calls_iff` says when it calls its
own, and what is executed.
-/

namespace Orm

open Text (asciiEqual)

variable {σ : Type}

/-! ## What is executed -/

namespace Surroundings

/-- The database is not asked to execute anything. -/
def SendsNothing (before after : Surroundings σ) : Prop :=
  executed after.journal = executed before.journal

instance : IsPreorder (Surroundings σ) SendsNothing where
  refl := fun _ => rfl
  trans := fun _ _ _ hfirst hsecond => hsecond.trans hfirst

/-- A question to a catalog executes nothing. -/
theorem sends_nothing_discover {α : Type} (what target : String)
    (question : StateM σ (Except DriverError α)) :
    Action.Along SendsNothing (discover what target question) := by
  intro around
  rw [discover_apply, SendsNothing, executed, executed, List.filterMap_append]
  exact List.append_nil _

/-- Nor does anything that is asked about a schema. -/
theorem allows_questions_sends_nothing (catalog : Catalog σ) :
    AllowsQuestions catalog SendsNothing where
  columns := fun _ => sends_nothing_discover _ _ _
  relationships := fun _ => sends_nothing_discover _ _ _
  procedures := sends_nothing_discover _ _ _
  learn := fun _ _ => rfl

/-- A command that is sent is executed once, with a timeout if it has none. -/
theorem executed_send {α : Type} (execute : Command → StateM σ α) (hash : String)
    (timeout : Option Nat) (command : Command) (around : Surroundings σ) :
    executed (send execute hash timeout command around).2.journal
      = executed around.journal ++ [timed timeout command] := by
  have hjournal : (send execute hash timeout command around).2.journal
      = around.journal ++ (around.events.receivers.map (JournalEntry.event ·
          ((timed timeout command).event hash)) ++ [.execute (timed timeout command)]) :=
    List.append_assoc _ _ _
  rw [hjournal, executed, List.filterMap_append]
  exact congrArg _ (executed_of_sent _ _ _)

end Surroundings

namespace Context

/-! ## Calls -/

/-- Calls a procedure that was found by one of the ways of a connection. -/
def invoke (context : Context σ)
    (execute : Command → StateM (Surroundings σ) (Except DriverError CommandResult))
    (definition : ProcedureDefinition) (arguments : List Value) :
    StateM (Surroundings σ) (Except Failure ProcedureResult) := do
  match ← context.connect with
  | .error error => return .error error.failure
  | .ok () =>
      match definition.call arguments with
      | .error cause => return .error (ProviderError.argumentCount cause).failure
      | .ok command =>
          match ← execute command with
          | .error cause => return .error (ProviderError.driver cause).failure
          | .ok result => return .ok (.ofCommand result)

variable {context : Context σ} {desk : Desk σ} {nodes : List ProcedureNode}

/-- A name calls the first procedure that it stands for. -/
theorem call_by_of_found {name : String} {found : ProcedureDefinition}
    (hnodes : (Surroundings.procedures context.catalog desk.around).1 = .ok nodes)
    (hfound : (nodes.flatMap ProcedureNode.definitions).find? (namesProcedure name) = some found)
    (execute : Command → StateM (Surroundings σ) (Except DriverError CommandResult))
    (arguments : List Value) :
    context.callBy execute name arguments desk
      = Desk.surroundings (context.invoke execute found arguments)
          { desk with around := (Surroundings.procedures context.catalog desk.around).2 } := by
  have hdefinition : context.procedureDefinition name desk
      = (.ok found,
          { desk with around := (Surroundings.procedures context.catalog desk.around).2 }) := by
    rcases hanswer : Surroundings.procedures context.catalog desk.around with ⟨answer, around⟩
    rw [hanswer] at hnodes
    obtain rfl : answer = .ok nodes := hnodes
    simp only [procedureDefinition, Action.bind_apply, Desk.surroundings, hanswer, hfound]
    rfl
  rw [callBy, Action.bind_apply, hdefinition]
  rfl

/-- A procedure that is called on an open connection with as many arguments as it takes is executed
once. -/
theorem executed_invoke {definition : ProcedureDefinition} {arguments : List Value}
    {command : Command} {around : Surroundings σ} (hconnect : (context.connect around).1 = .ok ())
    (hcall : definition.call arguments = .ok command)
    (execute : Command → StateM σ (Except DriverError CommandResult)) (hash : String)
    (timeout : Option Nat) :
    executed (context.invoke (Surroundings.send execute hash timeout) definition arguments
      around).2.journal = executed around.journal ++ [Surroundings.timed timeout command] := by
  have hconnected : executed (context.connect around).2.journal = executed around.journal := by
    show executed (around.journal ++ [.connect context.connectionString]) = _
    rw [executed, List.filterMap_append]
    exact List.append_nil _
  rw [← hconnected, ← Surroundings.executed_send execute hash timeout command]
  rw [invoke, Action.bind_apply, hconnect]
  simp only [hcall, Action.bind_apply]
  cases (Surroundings.send execute hash timeout command (context.connect around).2).1 <;> rfl

/-! ## Names -/

/-- Texts that agree with a third one up to the case of letters agree with each other. -/
theorem ascii_equal_of_ascii_equal {left middle right : String}
    (h : asciiEqual middle right = true) : asciiEqual left right = asciiEqual left middle := by
  rw [asciiEqual, beq_iff_eq] at h
  rw [asciiEqual, asciiEqual, h]

section Resolution

variable {before after : List ProcedureDefinition} {definition : ProcedureDefinition}
  {name : String}
  (hunique : ∀ other ∈ before ++ after,
    asciiEqual other.name.qualified definition.name.qualified = false)

include hunique

/-- A qualified name that only one procedure has stands for that one, or for the first one before it
that has it as its bare name. -/
theorem find_names_procedure (hname : asciiEqual definition.name.qualified name = true) :
    (before ++ definition :: after).find? (namesProcedure name)
      = some ((before.find? fun other => asciiEqual other.name.name name).getD definition) := by
  have hbare : before.find? (namesProcedure name)
      = before.find? fun other => asciiEqual other.name.name name := by
    refine List.find?_congr fun other hother => ?_
    rw [namesProcedure, ascii_equal_of_ascii_equal hname,
      hunique other (List.mem_append_left _ hother), Bool.false_or]
  have hown : namesProcedure name definition = true := by
    rw [namesProcedure, hname, Bool.true_or]
  rw [List.find?_append, hbare, List.find?_cons_of_pos hown]
  cases before.find? fun other => asciiEqual other.name.name name <;> rfl

/-- It stands for its own procedure if and only if no one before that has it as its bare name. -/
theorem first_bare_eq_iff :
    (before.find? fun other => asciiEqual other.name.name name).getD definition = definition ↔
      ∀ other ∈ before, asciiEqual other.name.name name = false := by
  constructor
  · intro hsame
    cases hfound : before.find? fun other => asciiEqual other.name.name name with
    | none =>
        intro other hother
        simpa using List.find?_eq_none.1 hfound other hother
    | some found =>
        rw [hfound, Option.getD_some] at hsame
        have hdiffers := hunique found (List.mem_append_left _ (List.mem_of_find?_eq_some hfound))
        rw [hsame, asciiEqual, beq_self_eq_true] at hdiffers
        cases hdiffers
  · intro hnone
    rw [List.find?_eq_none.2 fun other hother => by simp [hnone other hother]]
    rfl

/-- Else it stands for another procedure, which has that bare name and another qualified one. -/
theorem first_bare_of_ne
    (hother : (before.find? fun other => asciiEqual other.name.name name).getD definition
      ≠ definition) :
    let called := (before.find? fun other => asciiEqual other.name.name name).getD definition
    called ∈ before ∧ asciiEqual called.name.name name = true ∧
      asciiEqual called.name.qualified definition.name.qualified = false := by
  cases hfound : before.find? fun other => asciiEqual other.name.name name with
  | none => exact absurd (by rw [hfound]; rfl) hother
  | some found =>
      have hmem := List.mem_of_find?_eq_some hfound
      have hbare := List.find?_some hfound
      exact ⟨hmem, hbare, hunique found (List.mem_append_left _ hmem)⟩

end Resolution

/-- A qualified name that only one of the discovered procedures has, ignoring the case of the
letters A to Z, calls that procedure if and only if no procedure discovered before has it as its
bare name; else it calls the first one that has, which is another procedure of another qualified
name, in both ways of a connection. On an open connection, with as many arguments as that one takes,
nothing but its command is executed. -/
theorem qualified_name_calls_iff (context : Context σ) (desk : Desk σ)
    {nodes : List ProcedureNode} {before after : List ProcedureDefinition}
    {definition : ProcedureDefinition} {name : String}
    (hnodes : (Surroundings.procedures context.catalog desk.around).1 = .ok nodes)
    (hreached : nodes.flatMap ProcedureNode.definitions = before ++ definition :: after)
    (hunique : ∀ other ∈ before ++ after,
      asciiEqual other.name.qualified definition.name.qualified = false)
    (hname : asciiEqual definition.name.qualified name = true) :
    let called := (before.find? fun other => asciiEqual other.name.name name).getD definition
    let around := (Surroundings.procedures context.catalog desk.around).2
    (called = definition ↔ ∀ other ∈ before, asciiEqual other.name.name name = false) ∧
    (called ≠ definition → called ∈ before ∧ asciiEqual called.name.name name = true ∧
      asciiEqual called.name.qualified definition.name.qualified = false) ∧
    (∀ arguments,
      context.executeProcedure name arguments desk
        = Desk.surroundings (context.invoke context.connection.execute called arguments)
            { desk with around := around } ∧
      context.executeProcedureAsync name arguments desk
        = Desk.surroundings (context.invoke context.connection.executeAsync called arguments)
            { desk with around := around }) ∧
    ∀ arguments command, (context.connect around).1 = .ok () →
      called.call arguments = .ok command →
      executed (context.executeProcedure name arguments desk).2.around.journal
        = executed desk.around.journal ++
          [Surroundings.timed context.transaction.timeout command] ∧
      executed (context.executeProcedureAsync name arguments desk).2.around.journal
        = executed desk.around.journal ++
          [Surroundings.timed context.transaction.timeout command] := by
  intro called around
  have hfound := find_names_procedure hunique hname
  rw [← hreached] at hfound
  have hcalls := fun execute arguments => call_by_of_found hnodes hfound execute arguments
  have hasked : executed around.journal = executed desk.around.journal :=
    (Surroundings.allows_questions_sends_nothing context.catalog).lookup_procedures desk.around
  refine ⟨first_bare_eq_iff hunique, first_bare_of_ne hunique,
    fun arguments => ⟨hcalls _ _, hcalls _ _⟩, fun arguments command hconnect hcall => ?_⟩
  have hexecuted := fun execute => executed_invoke hconnect hcall execute context.hash
    context.transaction.timeout
  rw [← hasked]
  constructor
  · rw [executeProcedure, hcalls]
    exact hexecuted context.database.connection.execute
  · rw [executeProcedureAsync, hcalls]
    exact hexecuted context.database.connection.executeAsync

/-- A procedure without an owner that was discovered behind one of the same bare name: its qualified
name, which no other one has, executes that one. -/
theorem run_of_owner_called :
    let owned : ProcedureDefinition := ⟨⟨"dbo", "", "run"⟩, []⟩
    let run : ProcedureDefinition := ⟨⟨"", "", "run"⟩, []⟩
    let nodes : List ProcedureNode := [.single owned, .single run]
    let desk := idleDesk.offline { SchemaSnapshot.empty with procedures := nodes }
    (Surroundings.procedures failing.catalog desk.around).1 = .ok nodes ∧
    asciiEqual owned.name.qualified run.name.qualified = false ∧
    executed (failing.executeProcedure run.name.qualified [] desk).2.around.journal
      = [⟨"dbo.run", [], none, true⟩] := by
  intro owned run nodes desk
  have hnodes : (Surroundings.procedures failing.catalog desk.around).1 = .ok nodes := by
    decide +kernel
  have hunique : ∀ other ∈ [owned] ++ [],
      asciiEqual other.name.qualified run.name.qualified = false := by decide
  have hreached : nodes.flatMap ProcedureNode.definitions = [owned] ++ run :: [] := rfl
  have hname : asciiEqual run.name.qualified run.name.qualified = true := by decide
  obtain ⟨-, -, -, hexecuted⟩ :=
    qualified_name_calls_iff failing desk hnodes hreached hunique hname
  refine ⟨hnodes, by decide, ?_⟩
  exact (hexecuted [] ⟨"dbo.run", [], none, true⟩ rfl (by decide +kernel)).1

end Context

end Orm
