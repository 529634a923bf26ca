import Mathlib.Data.List.Basic
import Orm.Sql.Lookup

/-!
# The parameters of a procedure call

A call passes the arguments to the parameters that take one, by their ordinals, and a null to each
of the others. `call_binds_each_once` says which calls are refused and determines the command of
every other call: each declared parameter is bound once, at its place.
-/

namespace Orm

/-! ## The order of parameters -/

/-- Parameters by their ordinals: those of each ordinal are the declared ones, in declared order. -/
structure OrderedByOrdinal (declared ordered : List ProcedureParameter) : Prop where
  ascending : ordered.Pairwise fun first second => first.ordinal ≤ second.ordinal
  ties : ∀ ordinal, ordered.filter (fun param => param.ordinal = ordinal)
    = declared.filter fun param => param.ordinal = ordinal

namespace OrderedByOrdinal

variable {declared ordered other : List ProcedureParameter}

/-- A declared parameter is among the ordered ones, and no other is. -/
theorem mem_iff (h : OrderedByOrdinal declared ordered) {param : ProcedureParameter} :
    param ∈ ordered ↔ param ∈ declared := by
  have hmem : param ∈ ordered.filter (fun other => other.ordinal = param.ordinal) ↔
      param ∈ declared.filter fun other => other.ordinal = param.ordinal := by
    rw [h.ties param.ordinal]
  simpa using hmem

/-- The first of some ordered parameters has the least ordinal. -/
theorem head_le {first : ProcedureParameter} (h : OrderedByOrdinal declared (first :: ordered))
    {param : ProcedureParameter} (hmem : param ∈ declared) : first.ordinal ≤ param.ordinal := by
  rcases List.mem_cons.1 (h.mem_iff.2 hmem) with rfl | hrest
  · exact UInt32.le_refl _
  · exact List.rel_of_pairwise_cons h.ascending hrest

/-- There is one order of the declared parameters by their ordinals. -/
theorem unique (h : OrderedByOrdinal declared ordered) (hother : OrderedByOrdinal declared other) :
    ordered = other := by
  induction ordered generalizing declared other with
  | nil =>
      cases other with
      | nil => rfl
      | cons second rest =>
          have hmem := h.mem_iff.2 (hother.mem_iff.1 List.mem_cons_self)
          cases hmem
  | cons first rest ih =>
      cases other with
      | nil =>
          have hmem := hother.mem_iff.2 (h.mem_iff.1 List.mem_cons_self)
          cases hmem
      | cons second others =>
          have hordinal : first.ordinal = second.ordinal := UInt32.le_antisymm
            (h.head_le (hother.mem_iff.1 List.mem_cons_self))
            (hother.head_le (h.mem_iff.1 List.mem_cons_self))
          -- Both stand before all others of the least ordinal.
          have hties := (h.ties first.ordinal).trans (hother.ties first.ordinal).symm
          rw [List.filter_cons_of_pos (by simp), List.filter_cons_of_pos (by simp [hordinal])]
            at hties
          obtain ⟨rfl, -⟩ := List.cons.inj hties
          have hrest : OrderedByOrdinal rest rest := ⟨h.ascending.of_cons, fun _ => rfl⟩
          refine congrArg (first :: ·) (ih hrest ⟨hother.ascending.of_cons, fun ordinal => ?_⟩)
          have hsame := (hother.ties ordinal).trans (h.ties ordinal).symm
          rw [List.filter_cons, List.filter_cons] at hsame
          split at hsame
          · exact List.cons.inj hsame |>.2
          · exact hsame

/-- Those of some ordered parameters that pass a test are ordered among themselves. -/
theorem filter (h : OrderedByOrdinal declared ordered) (test : ProcedureParameter → Bool) :
    OrderedByOrdinal (declared.filter test) (ordered.filter test) where
  ascending := h.ascending.filter test
  ties := fun ordinal => by
    rw [List.filter_comm, h.ties, List.filter_comm]

end OrderedByOrdinal

namespace ProcedureDefinition

/-- Parameters that are sorted by their ordinals are so ordered: the sorting moves none before
another one of the same ordinal. -/
theorem ordered_by_ordinal (params : List ProcedureParameter) :
    OrderedByOrdinal params (byOrdinal params) := by
  have htrans : ∀ first second third : ProcedureParameter,
      decide (first.ordinal ≤ second.ordinal) = true →
      decide (second.ordinal ≤ third.ordinal) = true →
      decide (first.ordinal ≤ third.ordinal) = true := by
    intro first second third hfirst hsecond
    rw [decide_eq_true_eq] at hfirst hsecond ⊢
    exact UInt32.le_trans hfirst hsecond
  have htotal : ∀ first second : ProcedureParameter,
      (decide (first.ordinal ≤ second.ordinal) || decide (second.ordinal ≤ first.ordinal))
        = true := by
    intro first second
    rw [Bool.or_eq_true, decide_eq_true_eq, decide_eq_true_eq]
    exact UInt32.le_total _ _
  constructor
  · have hsorted := List.pairwise_mergeSort htrans htotal params
    exact hsorted.imp fun hle => of_decide_eq_true hle
  · intro ordinal
    -- Those of one ordinal are in order as they are, so the sorting keeps their order.
    have hkept : (params.filter fun param => param.ordinal = ordinal).Pairwise
        fun first second => decide (first.ordinal ≤ second.ordinal) = true := by
      refine List.pairwise_of_forall_mem_list fun first hfirst second hsecond => ?_
      have hfirst : first.ordinal = ordinal := by simpa using List.of_mem_filter hfirst
      have hsecond : second.ordinal = ordinal := by simpa using List.of_mem_filter hsecond
      exact decide_eq_true (UInt32.le_of_eq (hfirst.trans hsecond.symm))
    have hsublist := List.sublist_mergeSort htrans htotal hkept List.filter_sublist
    have hfiltered := hsublist.filter fun param => param.ordinal = ordinal
    simp only [List.filter_filter, Bool.and_self] at hfiltered
    have hlength := ((List.mergeSort_perm params
      fun first second => first.ordinal ≤ second.ordinal).filter
        fun param => param.ordinal = ordinal).length_eq
    exact (hfiltered.eq_of_length hlength.symm).symm

/-- The outputs that are no inputs. -/
def results (definition : ProcedureDefinition) : List ProcedureParameter :=
  definition.outputs.filter fun param => !param.direction.isInput

/-- What is no input is one of the outputs. -/
theorem results_eq (definition : ProcedureDefinition) : definition.results
    = byOrdinal (definition.params.filter fun param => !param.direction.isInput) := by
  have hresults : (definition.params.filter fun param => param.direction.isOutput).filter
      (fun param => !param.direction.isInput)
        = definition.params.filter fun param => !param.direction.isInput := by
    rw [List.filter_filter]
    refine List.filter_congr fun param _ => ?_
    cases param.direction <;> rfl
  have hordered := (ordered_by_ordinal
    (definition.params.filter fun param => param.direction.isOutput)).filter
      fun param => !param.direction.isInput
  rw [hresults] at hordered
  exact hordered.unique (ordered_by_ordinal _)

/-! ## Calls -/

/-- The number of arguments of a call: one for each parameter that passes a value in. -/
def argumentCount (definition : ProcedureDefinition) : Nat :=
  definition.params.countP fun param =>
    param.direction = .input ∨ param.direction = .inputOutput

/-- The declared parameters in two parts, each by its ordinals: those that take an argument, and
those that only give a value back. -/
structure Parted (definition : ProcedureDefinition) (takers givers : List ProcedureParameter) :
    Prop where
  takers_ordered : OrderedByOrdinal (definition.params.filter fun param =>
    param.direction = .input ∨ param.direction = .inputOutput) takers
  givers_ordered : OrderedByOrdinal (definition.params.filter fun param =>
    param.direction = .output ∨ param.direction = .result) givers
  each_once : (takers ++ givers).Perm definition.params

/-- A command calls a procedure by its qualified name and binds each declared parameter once, with
its own name, direction and type: first those that take an argument, with the arguments one after
the other, then the others with nulls. -/
structure CalledBy (definition : ProcedureDefinition) (arguments : List Value)
    (takers givers : List ProcedureParameter) (command : Command) : Prop where
  parted : definition.Parted takers givers
  named : command.text = definition.name.qualified
  procedure : command.isProcedure = true ∧ command.timeout = none
  described : command.params.map (fun param => (param.name, param.direction, param.typeTag))
    = (takers ++ givers).map fun param => (param.name, param.direction, some param.typeTag)
  passed : command.params.map CommandParameter.value
    = arguments ++ List.replicate givers.length .null

/-- The inputs and the remaining outputs are the two parts of the declared parameters. -/
theorem parted_iff {definition : ProcedureDefinition} {takers givers : List ProcedureParameter} :
    definition.Parted takers givers ↔
      takers = definition.inputs ∧ givers = definition.results := by
  have htakes : ∀ param : ProcedureParameter, param.direction.isInput
      = decide (param.direction = .input ∨ param.direction = .inputOutput) := by
    intro param
    cases param.direction <;> rfl
  have hgives : ∀ param : ProcedureParameter, (!param.direction.isInput)
      = decide (param.direction = .output ∨ param.direction = .result) := by
    intro param
    cases param.direction <;> rfl
  rw [results_eq, inputs]
  constructor
  · intro h
    constructor
    · refine h.takers_ordered.unique ?_
      simp only [htakes]
      exact ordered_by_ordinal _
    · refine h.givers_ordered.unique ?_
      simp only [hgives]
      exact ordered_by_ordinal _
  · rintro ⟨rfl, rfl⟩
    refine ⟨?_, ?_, ?_⟩
    · simp only [htakes]
      exact ordered_by_ordinal _
    · simp only [hgives]
      exact ordered_by_ordinal _
    · have hparts := (List.mergeSort_perm (definition.params.filter fun param =>
          param.direction.isInput) fun first second => first.ordinal ≤ second.ordinal).append
        (List.mergeSort_perm (definition.params.filter fun param => !param.direction.isInput)
          fun first second => first.ordinal ≤ second.ordinal)
      exact hparts.trans (List.filter_append_perm _ _)

/-- There are as many inputs as arguments are asked for. -/
theorem length_inputs (definition : ProcedureDefinition) :
    definition.inputs.length = definition.argumentCount := by
  rw [inputs, byOrdinal, List.length_mergeSort, argumentCount, List.countP_eq_length_filter]
  refine congrArg List.length (List.filter_congr fun param _ => ?_)
  cases param.direction <;> rfl

/-- Parameters are bound to values if they are described like them and pass these values. -/
theorem zip_with_bind_eq_iff {params : List ProcedureParameter} {values : List Value}
    (hlength : params.length = values.length) {bound : List CommandParameter} :
    bound = params.zipWith ProcedureParameter.bind values ↔
      bound.map (fun param => (param.name, param.direction, param.typeTag))
          = params.map (fun param => (param.name, param.direction, some param.typeTag)) ∧
        bound.map CommandParameter.value = values := by
  induction params generalizing values bound with
  | nil =>
      obtain rfl := List.length_eq_zero_iff.1 hlength.symm
      simp
  | cons param rest ih =>
      obtain ⟨value, others, rfl⟩ := List.exists_cons_of_length_pos (by rw [← hlength]; simp)
      cases bound with
      | nil => simp
      | cons first more =>
          have hfirst : first = param.bind value ↔
              (first.name, first.direction, first.typeTag)
                  = (param.name, param.direction, some param.typeTag) ∧ first.value = value := by
            obtain ⟨name, passed, direction, typeTag⟩ := first
            simp only [ProcedureParameter.bind, CommandParameter.mk.injEq, Prod.mk.injEq]
            tauto
          have hrest : rest.length = others.length := by simpa using hlength
          rw [List.zipWith_cons_cons, List.cons_eq_cons, hfirst, ih hrest]
          simp only [List.map_cons, List.cons_eq_cons]
          tauto

/-- A call with an argument for each input binds the inputs to the arguments and the remaining
outputs to nulls. -/
theorem call_eq {definition : ProcedureDefinition} {arguments : List Value}
    (hlength : arguments.length = definition.argumentCount) :
    definition.call arguments = .ok ⟨definition.name.qualified,
      (definition.inputs ++ definition.results).zipWith ProcedureParameter.bind
        (arguments ++ List.replicate definition.results.length .null), none, true⟩ := by
  have hinputs : definition.inputs.length = arguments.length :=
    definition.length_inputs.trans hlength.symm
  have hbound : (definition.inputs.zip arguments).map (fun pair => pair.1.bind pair.2)
      = definition.inputs.zipWith ProcedureParameter.bind arguments := List.map_zip_eq_zipWith
  have hnulls : definition.results.zipWith ProcedureParameter.bind
      (List.replicate definition.results.length .null)
        = definition.results.map fun param => param.bind .null := by
    rw [← List.map_const', List.zipWith_map_right, List.zipWith_self]
  rw [call, if_pos hinputs, List.zipWith_append hinputs, hnulls, ← hbound]
  rfl

/-- A call is refused exactly if it has not one argument for each parameter that takes one, and the
error says how many there should be. Every other call is the only command that binds each declared
parameter once, with its own name, direction and type: first the parameters that take an argument,
by their ordinals and in declared order where those are the same, with the arguments one after the
other; then the remaining ones in the same order with nulls. -/
theorem call_binds_each_once (definition : ProcedureDefinition) (arguments : List Value) :
    (∀ error, definition.call arguments = .error error ↔
      arguments.length ≠ definition.argumentCount ∧
        error = ⟨definition.name.qualified, definition.argumentCount, arguments.length⟩) ∧
    (∀ command, definition.call arguments = .ok command ↔
      ∃ takers givers, definition.CalledBy arguments takers givers command) := by
  by_cases hlength : arguments.length = definition.argumentCount
  · rw [call_eq hlength]
    refine ⟨fun error => by simp [hlength], fun command => ?_⟩
    have hvalues : (definition.inputs ++ definition.results).length
        = (arguments ++ List.replicate definition.results.length Value.null).length := by
      rw [List.length_append, List.length_append, List.length_replicate, length_inputs, hlength]
    constructor
    · intro hcommand
      obtain rfl := Except.ok.inj hcommand
      obtain ⟨hdescribed, hpassed⟩ := (zip_with_bind_eq_iff hvalues).1 rfl
      exact ⟨_, _, parted_iff.2 ⟨rfl, rfl⟩, rfl, ⟨rfl, rfl⟩, hdescribed, hpassed⟩
    · rintro ⟨takers, givers, hcalled⟩
      obtain ⟨rfl, rfl⟩ := parted_iff.1 hcalled.parted
      have hparams := (zip_with_bind_eq_iff hvalues).2 ⟨hcalled.described, hcalled.passed⟩
      obtain ⟨hprocedure, htimeout⟩ := hcalled.procedure
      rw [← hparams, ← hcalled.named, ← hprocedure, ← htimeout]
  · have hinputs : definition.inputs.length ≠ arguments.length := by
      rw [length_inputs]
      exact Ne.symm hlength
    rw [call, if_neg hinputs, length_inputs]
    refine ⟨fun error => by simp [hlength, eq_comm], fun command => ?_⟩
    refine iff_of_false nofun ?_
    rintro ⟨takers, givers, hcalled⟩
    obtain ⟨rfl, rfl⟩ := parted_iff.1 hcalled.parted
    -- A command has as many values as it has names.
    have hdescribed := congrArg List.length hcalled.described
    have hpassed := congrArg List.length hcalled.passed
    simp only [List.length_map, List.length_append, List.length_replicate] at hdescribed hpassed
    omega

/-- A parameter that passes a value in and one back stands with the inputs, and of two parameters
with one ordinal the declared first comes first. -/
example : (ProcedureDefinition.mk ⟨"dbo", "", "Close"⟩ [⟨"@status", "int", .result, 0⟩,
      ⟨"@year", "int", .input, 2⟩, ⟨"@total", "money", .inputOutput, 1⟩,
      ⟨"@month", "int", .input, 2⟩]).call [.int 7, .int 2024, .int 5]
    = .ok ⟨"dbo.Close", [⟨"@total", .int 7, .inputOutput, some "money"⟩,
      ⟨"@year", .int 2024, .input, some "int"⟩, ⟨"@month", .int 5, .input, some "int"⟩,
      ⟨"@status", .null, .result, some "int"⟩], none, true⟩ := by
  cbv

end ProcedureDefinition

end Orm
