import Orm.Proofs.Context.Lookups
import Orm.Proofs.Context.Observation
import Orm.Proofs.Schema.Merge

/-!
# Procedures of merged caches

Two snapshots are merged procedure by procedure, each with all its definitions, and procedures are
told apart by their derived names. So of the second snapshot a definition is lost if its procedure
has the derived name of another one that comes first (`undo_lost_in_merge`), unless its
qualified name is reached elsewhere. `merged_procedures_reached` says which definitions a merged
cache has, and which names a context can call with it offline.
-/

namespace Orm

variable {σ : Type}

namespace SchemaSnapshot

/-- The definitions that can be reached from the procedures of a snapshot. -/
def definitions (snapshot : SchemaSnapshot) : List ProcedureDefinition :=
  snapshot.procedures.flatMap ProcedureNode.definitions

/-- A procedure of the second snapshot is added to the first if no procedure of that, and none of
the second before it, has its derived name. -/
def Adds (first second : SchemaSnapshot) (node : ProcedureNode) : Prop :=
  ∃ before after, second.procedures = before ++ node :: after ∧
    ∀ other ∈ first.procedures ++ before, other.name ≠ node.name

/-- The procedures that are added are the newcomers. -/
theorem mem_newcomers_iff_adds {first second : SchemaSnapshot} {node : ProcedureNode} :
    node ∈ newcomers ProcedureNode.name first.procedures second.procedures ↔
      first.Adds second node := by
  rw [mem_newcomers_iff, Adds]
  simp only [List.mem_map, not_exists, not_and]

/-- Two snapshots together reach what the first reaches, and then what is reached from the newcomers
of the second. -/
theorem definitions_merge (first second : SchemaSnapshot) :
    (first.merge second).definitions = first.definitions ++
      (newcomers ProcedureNode.name first.procedures second.procedures).flatMap
        ProcedureNode.definitions := by
  rw [definitions, procedures_merge, List.flatMap_append]
  rfl

/-- A definition is reached from two snapshots together if and only if it is reached from the first
or from a procedure that the second adds. -/
theorem mem_definitions_merge {first second : SchemaSnapshot} {definition : ProcedureDefinition} :
    definition ∈ (first.merge second).definitions ↔
      definition ∈ first.definitions ∨
        ∃ node, first.Adds second node ∧ definition ∈ node.definitions := by
  rw [definitions_merge, List.mem_append, List.mem_flatMap]
  simp only [mem_newcomers_iff_adds]

/-- So it is with definitions that have some property. -/
theorem exists_definition_merge {first second : SchemaSnapshot}
    {property : ProcedureDefinition → Prop} :
    (∃ definition ∈ (first.merge second).definitions, property definition) ↔
      (∃ definition ∈ first.definitions, property definition) ∨
        ∃ node, first.Adds second node ∧ ∃ definition ∈ node.definitions, property definition := by
  simp only [mem_definitions_merge]
  constructor
  · rintro ⟨definition, hfirst | ⟨node, hnode, hmem⟩, hproperty⟩
    · exact .inl ⟨definition, hfirst, hproperty⟩
    · exact .inr ⟨node, hnode, definition, hmem, hproperty⟩
  · rintro (⟨definition, hfirst, hproperty⟩ | ⟨node, hnode, definition, hmem, hproperty⟩)
    · exact ⟨definition, .inl hfirst, hproperty⟩
    · exact ⟨definition, .inr ⟨node, hnode, hmem⟩, hproperty⟩

end SchemaSnapshot

/-- A desk at which work goes on offline with what a snapshot says. -/
def Desk.offline (desk : Desk σ) (snapshot : SchemaSnapshot) : Desk σ :=
  { desk with around := { desk.around with
      cache := .ofSnapshot { snapshot with isOffline := true } } }

namespace Context

/-- A name is resolved to the first definition that has it, if the procedures are answered. -/
theorem procedure_definition_ok_iff {context : Context σ} {desk : Desk σ} {name : String}
    {definition : ProcedureDefinition} :
    (context.procedureDefinition name desk).1 = .ok definition ↔
      ∃ nodes, (Surroundings.procedures context.catalog desk.around).1 = .ok nodes ∧
        (nodes.flatMap ProcedureNode.definitions).find? (namesProcedure name)
          = some definition := by
  rcases hanswer : Surroundings.procedures context.catalog desk.around with ⟨_ | nodes, after⟩
  · simp [procedureDefinition, Desk.surroundings, hanswer]
  · simp only [procedureDefinition, Action.bind_apply, Desk.surroundings, hanswer]
    cases hfound : (nodes.flatMap ProcedureNode.definitions).find? (namesProcedure name) <;>
      simp [hfound, -List.find?_flatMap]

/-- A name is resolved offline to the first definition that can be reached and has the name. -/
theorem procedure_definition_offline (context : Context σ) (desk : Desk σ)
    (snapshot : SchemaSnapshot) (name : String) (definition : ProcedureDefinition) :
    (context.procedureDefinition name (desk.offline snapshot)).1 = .ok definition ↔
      snapshot.definitions.find? (namesProcedure name) = some definition := by
  have hanswer : ∀ nodes,
      (Surroundings.procedures context.catalog (desk.offline snapshot).around).1 = .ok nodes ↔
        (if snapshot.procedures.isEmpty then none else some snapshot.procedures) = some nodes :=
    fun nodes => Surroundings.lookup_ok_iff_of_offline rfl
  simp only [procedure_definition_ok_iff, hanswer, SchemaSnapshot.definitions]
  cases snapshot.procedures <;> simp [-List.find?_flatMap]

/-- Everything that the first of two snapshots reaches the merged one reaches, and a name that can
be called with the first stands for the same definition. What the second reaches is there under its
qualified name if and only if the first has that, or a procedure that the second adds. So a name can
be called with the merged snapshot if and only if it can be called with the first or stands for a
definition of a procedure that the second adds. -/
theorem merged_procedures_reached (context : Context σ) (desk : Desk σ)
    (first second : SchemaSnapshot) :
    let merged := first.merge second
    let resolves := fun snapshot name definition =>
      (context.procedureDefinition name (desk.offline snapshot)).1 = .ok definition
    (∀ definition ∈ first.definitions, definition ∈ merged.definitions) ∧
    (∀ definition ∈ second.definitions,
      (∃ same ∈ merged.definitions, same.name.qualified = definition.name.qualified) ↔
        (∃ same ∈ first.definitions, same.name.qualified = definition.name.qualified) ∨
        ∃ node, first.Adds second node ∧
          ∃ same ∈ node.definitions, same.name.qualified = definition.name.qualified) ∧
    (∀ name definition, resolves first name definition → resolves merged name definition) ∧
    ∀ name, (∃ definition, resolves merged name definition) ↔
      (∃ definition, resolves first name definition) ∨
      ∃ node, first.Adds second node ∧
        ∃ definition ∈ node.definitions, namesProcedure name definition = true := by
  intro merged resolves
  refine ⟨fun definition hfirst => SchemaSnapshot.mem_definitions_merge.2 (.inl hfirst),
    fun definition _ => SchemaSnapshot.exists_definition_merge, fun name definition h => ?_,
    fun name => ?_⟩
  · have hfound := (procedure_definition_offline context desk first name definition).1 h
    refine (procedure_definition_offline context desk merged name definition).2 ?_
    rw [SchemaSnapshot.definitions_merge, List.find?_append, hfound, Option.some_or]
  · have hresolves : ∀ snapshot : SchemaSnapshot,
        (∃ definition, resolves snapshot name definition) ↔
          ∃ definition ∈ snapshot.definitions, namesProcedure name definition = true := by
      intro snapshot
      rw [← List.find?_isSome, Option.isSome_iff_exists]
      exact exists_congr fun definition =>
        procedure_definition_offline context desk snapshot name definition
    rw [hresolves, hresolves]
    exact SchemaSnapshot.exists_definition_merge

/-- The package of payroll procedures as one database has it, and as another one has it beside a
procedure of its own. -/
def payrolls : SchemaSnapshot × SchemaSnapshot :=
  ({ SchemaSnapshot.empty with
      procedures := [.package "payroll" [⟨⟨"dbo", "payroll", "run"⟩, []⟩]] },
    { SchemaSnapshot.empty with
      procedures := [.package "payroll" [⟨⟨"dbo", "payroll", "undo"⟩, []⟩],
        .single ⟨⟨"dbo", "", "refresh"⟩, []⟩] })

/-- A desk before any work. -/
def idleDesk : Desk (List Command) :=
  ⟨⟨.empty, .empty⟩, ⟨.empty, .empty, .empty, [], .empty, []⟩⟩

/-- With the merged payrolls the procedures that only one database has can be called. -/
theorem run_and_refresh_reached :
    let merged := payrolls.1.merge payrolls.2
    (failing.procedureDefinition "run" (idleDesk.offline merged)).1
      = .ok ⟨⟨"dbo", "payroll", "run"⟩, []⟩ ∧
    (∃ same ∈ merged.definitions, same.name.qualified = "dbo.refresh") ∧
    ∃ definition, (failing.procedureDefinition "refresh" (idleDesk.offline merged)).1
      = .ok definition := by
  intro merged
  obtain ⟨-, hreached, hfirst, hresolves⟩ :=
    merged_procedures_reached failing idleDesk payrolls.1 payrolls.2
  have hadds : payrolls.1.Adds payrolls.2 (.single ⟨⟨"dbo", "", "refresh"⟩, []⟩) :=
    ⟨[.package "payroll" [⟨⟨"dbo", "payroll", "undo"⟩, []⟩]], [], rfl, by decide⟩
  refine ⟨hfirst "run" _ ?_, ?_, ?_⟩
  · exact (procedure_definition_offline ..).2 (by decide +kernel)
  · exact (hreached ⟨⟨"dbo", "", "refresh"⟩, []⟩ (by decide)).2
      (.inr ⟨_, hadds, _, List.mem_singleton_self _, rfl⟩)
  · exact (hresolves "refresh").2
      (.inr ⟨_, hadds, _, List.mem_singleton_self _, by decide +kernel⟩)

/-- The procedure that only the second package has is lost with the merged payrolls. -/
theorem undo_lost_in_merge :
    let undo : ProcedureDefinition := ⟨⟨"dbo", "payroll", "undo"⟩, []⟩
    let merged := payrolls.1.merge payrolls.2
    undo ∈ payrolls.2.definitions ∧
    (¬ ∃ same ∈ merged.definitions, same.name.qualified = undo.name.qualified) ∧
    (failing.procedureDefinition "undo" (idleDesk.offline payrolls.2)).1 = .ok undo ∧
    ∀ definition,
      (failing.procedureDefinition "undo" (idleDesk.offline merged)).1 ≠ .ok definition := by
  intro undo merged
  refine ⟨by decide, by decide +kernel, ?_, fun definition h => ?_⟩
  · exact (procedure_definition_offline ..).2 (by decide +kernel)
  · have hfound := (procedure_definition_offline ..).1 h
    have hnone : merged.definitions.find? (namesProcedure "undo") = none := by decide +kernel
    exact absurd (hnone.symm.trans hfound) nofun

end Context

end Orm
