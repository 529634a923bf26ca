import Orm.Proofs.Context.BoundValues
import Orm.Proofs.Query.LastOperator
import Orm.Proofs.Sql.Body

/-!
# The parameters of combined statements

A query is combined with the statement and the parameters of another one as they are: neither is
numbered anew. `combined_names_nodup_iff` says when the names of all parameters are distinct, so
that every name stands for the value that it had in its own query: not if both queries pass values
that their dialect numbers, because both begin with the first number.
-/

namespace Orm

/-! ## Names and their values -/

/-- The values that some parameters pass under a name. -/
def passedUnder (params : List CommandParameter) (name : String) : List Value :=
  (params.filter fun param => param.name = name).map CommandParameter.value

/-- Nothing is passed under a name that no parameter has. -/
theorem passed_under_eq_nil_iff {params : List CommandParameter} {name : String} :
    passedUnder params name = [] ↔ name ∉ params.map CommandParameter.name := by
  rw [passedUnder, List.map_eq_nil_iff, List.filter_eq_nil_iff, List.mem_map]
  simp

/-- The names of some parameters are distinct if and only if each of them stands for the value of
its parameter alone. -/
theorem nodup_names_iff {params : List CommandParameter} :
    (params.map CommandParameter.name).Nodup ↔
      ∀ param ∈ params, passedUnder params param.name = [param.value] := by
  induction params with
  | nil => simp
  | cons first rest ih =>
      have hfirst : passedUnder (first :: rest) first.name
          = first.value :: passedUnder rest first.name := by
        simp [passedUnder]
      have hother : ∀ name, first.name ≠ name →
          passedUnder (first :: rest) name = passedUnder rest name := by
        intro name hname
        simp [passedUnder, hname]
      rw [List.map_cons, List.nodup_cons, List.forall_mem_cons, ih, ← passed_under_eq_nil_iff,
        hfirst, List.cons_eq_cons, and_iff_right rfl]
      refine and_congr_right fun hnone => forall₂_congr fun param hmem => ?_
      have hname : first.name ≠ param.name := by
        intro hsame
        exact passed_under_eq_nil_iff.1 hnone (hsame ▸ List.mem_map_of_mem hmem)
      rw [hother _ hname]

namespace FlatQuery

variable {flat plain : FlatQuery} {dialect : Dialect}

/-- The parameters of a flat query pass values in. -/
theorem input_of_mem_params {param : CommandParameter} (h : param ∈ flat.params dialect) :
    CommandParameter.input param.name param.value = param := by
  rw [params, List.mem_append] at h
  rcases h with h | h
  · obtain ⟨index, hindex, rfl⟩ := List.mem_mapIdx.1 h
    rfl
  · split at h
    · cases h
    · obtain ⟨pair, -, rfl⟩ := List.mem_map.1 h
      rfl

/-- The statement of a combined query is that of the query with the other statement before the
clause that sorts the rows. -/
theorem statement_combined {operation : SetOperation} (hset : plain.setOperation = none)
    {base : TableOccurrence} {projection : NameMap (List String)} {pieces : SqlPieces}
    (h : ({ plain with setOperation := some operation } : FlatQuery).statement dialect base
      projection = .ok pieces) :
    ∃ before after, plain.statement dialect base projection = .ok (before ++ after) ∧
      pieces = before ++ ([.word " ", .word operation.kind.keyword, .word " ",
        .word operation.sql] : SqlPieces) ++ after := by
  obtain ⟨list, body, order, hlist, hbody, horder, hpieces⟩ := statement_eq_ok_iff.1 h
  refine ⟨plain.opening dialect ++ list ++ body, order ++ plain.closing dialect, ?_, ?_⟩
  · have hsame := (plain.body_ended dialect base (some operation) plain.count plain.ordering).symm
    have hnone : plain.setPieces = [] := by rw [setPieces, hset]
    refine statement_eq_ok_iff.2 ⟨list, body, order, hlist, hsame.trans hbody, horder, ?_⟩
    rw [hnone, List.append_nil, List.append_assoc _ order]
  · rw [hpieces]
    simp only [List.append_assoc]
    rfl

end FlatQuery

/-- A query combined with the statement and the parameters of a compiled one. -/
def Query.combined (query : Query) (kind : SetKind) (other : CompiledQuery) : Query :=
  query.apply (.combine ⟨kind, other.rendered.text, other.rendered.command.paramPairs⟩)

namespace Context

variable {σ : Type} {context : Context σ} {first second : Query} {other compiled : CompiledQuery}

/-- A compiled query passes its parameters on as they are. -/
theorem params_of_compile {query : Query} (hcompile : context.compile query = .ok compiled) :
    compiled.rendered.command.paramPairs.map (fun param => CommandParameter.input param.1 param.2)
      = compiled.rendered.params := by
  obtain ⟨-, pieces, -, hrendered⟩ := compile_eq_ok_iff.1 hcompile
  rw [hrendered, RenderedQuery.command, Command.paramPairs, Command.statement, List.map_map]
  refine (List.map_congr_left fun param hmem => ?_).trans (List.map_id _)
  exact FlatQuery.input_of_mem_params hmem

/-- A combined query has the text of the first query with that of the second one in it, and the
parameters of both. -/
theorem compile_combined {kind : SetKind} (hother : context.compile second = .ok other)
    (hcompile : context.compile (first.combined kind other) = .ok compiled) :
    ∃ own before after, context.compile first = .ok own ∧
      own.rendered.text = context.dialect.text (before ++ after) ∧
      slotNumbers (before ++ after) = List.range first.boundValues.length ∧
      own.rendered.params = context.dialect.params first.boundValues ∧
      compiled.rendered.text = context.dialect.text (before ++ ([.word " ", .word kind.keyword,
        .word " ", .word other.rendered.text] : SqlPieces) ++ after) ∧
      compiled.rendered.params = own.rendered.params ++ other.rendered.params := by
  obtain ⟨hflat, pieces, hpieces, hrendered⟩ := compile_eq_ok_iff.1 hcompile
  obtain ⟨plain, hplain, hset, hcombined⟩ := Query.flatten_combine hflat
  rw [hcombined] at hpieces hrendered
  obtain ⟨before, after, hown, rfl⟩ := FlatQuery.statement_combined hset hpieces
  have hfirst : context.compile first
      = .ok ⟨plain, context.dialect.text (before ++ after), plain.params context.dialect⟩ :=
    compile_eq_ok_iff.2 ⟨hplain, before ++ after, hown, rfl⟩
  obtain ⟨written, hwritten, -, hslots, hparams⟩ := bound_values_of_compile hfirst
  cases hown.symm.trans hwritten
  rw [hset] at hparams
  refine ⟨_, before, after, hfirst, rfl, hslots, hparams.trans (List.append_nil _), ?_, ?_⟩
  · rw [hrendered]
  · rw [hrendered, ← params_of_compile hother]
    have hsame : plain.params context.dialect = context.dialect.params plain.boundValues := by
      rw [FlatQuery.params, hset, List.append_nil]
    rw [hsame]
    rfl

/-- The names of the parameters of a combined query are those of the first query, which are the
first names of the dialect, and then those of the second one. They are distinct if and only if those
of each query are and no name is in both, and then each stands for the value that it has in its own
query. If the second query is not combined itself, they are not distinct if both queries have
values. -/
theorem combined_names_nodup_iff {kind : SetKind} (hother : context.compile second = .ok other)
    (hcompile : context.compile (first.combined kind other) = .ok compiled) :
    ∃ own before after, context.compile first = .ok own ∧
      own.rendered.text = context.dialect.text (before ++ after) ∧
      slotNumbers (before ++ after) = List.range first.boundValues.length ∧
      own.rendered.params = context.dialect.params first.boundValues ∧
      compiled.rendered.text = context.dialect.text (before ++
        [.word " ", .word kind.keyword, .word " ", .word other.rendered.text] ++ after) ∧
      compiled.rendered.params = own.rendered.params ++ other.rendered.params ∧
      ((compiled.rendered.params.map CommandParameter.name).Nodup ↔
        (own.rendered.params.map CommandParameter.name).Nodup ∧
        (other.rendered.params.map CommandParameter.name).Nodup ∧
        ∀ index < first.boundValues.length,
          context.dialect.parameter index ∉ other.rendered.params.map CommandParameter.name) ∧
      ((compiled.rendered.params.map CommandParameter.name).Nodup →
        ∀ param ∈ own.rendered.params ++ other.rendered.params,
          passedUnder compiled.rendered.params param.name = [param.value]) ∧
      (other.flat.setOperation = none →
        ((compiled.rendered.params.map CommandParameter.name).Nodup ↔
          (own.rendered.params.map CommandParameter.name).Nodup ∧
          (other.rendered.params.map CommandParameter.name).Nodup ∧
          (first.boundValues = [] ∨ second.boundValues = []))) := by
  obtain ⟨own, before, after, hfirst, htext, hslots, hparams, hcombined, hall⟩ :=
    compile_combined hother hcompile
  have hnames : own.rendered.params.map CommandParameter.name
      = (List.range first.boundValues.length).map context.dialect.parameter := by
    rw [hparams, names_params]
  have hshared : (∀ name ∈ own.rendered.params.map CommandParameter.name,
      name ∉ other.rendered.params.map CommandParameter.name) ↔
      ∀ index < first.boundValues.length,
        context.dialect.parameter index ∉ other.rendered.params.map CommandParameter.name := by
    rw [hnames, List.forall_mem_map]
    simp only [List.mem_range]
  have hnodup : (compiled.rendered.params.map CommandParameter.name).Nodup ↔
      (own.rendered.params.map CommandParameter.name).Nodup ∧
      (other.rendered.params.map CommandParameter.name).Nodup ∧
      ∀ index < first.boundValues.length,
        context.dialect.parameter index ∉ other.rendered.params.map CommandParameter.name := by
    rw [hall, List.map_append, List.nodup_append', List.disjoint_left, hshared]
  refine ⟨own, before, after, hfirst, htext, hslots, hparams, hcombined, hall, hnodup, ?_, ?_⟩
  · intro hdistinct param hmem
    rw [← hall] at hmem
    exact nodup_names_iff.1 hdistinct param hmem
  · intro halone
    obtain ⟨-, -, -, -, hvalues⟩ := bound_values_of_compile hother
    rw [halone, Option.elim_none, List.append_nil] at hvalues
    have hsecond : other.rendered.params.map CommandParameter.name
        = (List.range second.boundValues.length).map context.dialect.parameter := by
      rw [hvalues]
      exact names_params context.dialect second.boundValues
    have hfresh : (∀ index < first.boundValues.length,
        context.dialect.parameter index ∉ other.rendered.params.map CommandParameter.name) ↔
        first.boundValues = [] ∨ second.boundValues = [] := by
      rw [hsecond]
      constructor
      · intro hnone
        -- Otherwise both queries use the first name of the dialect.
        by_contra hboth
        obtain ⟨hown, hvalued⟩ := not_or.1 hboth
        refine hnone 0 (List.length_pos_of_ne_nil hown) (List.mem_map_of_mem ?_)
        exact List.mem_range.2 (List.length_pos_of_ne_nil hvalued)
      · intro hempty index hindex
        rcases hempty with hnone | hnone
        · rw [hnone] at hindex
          cases hindex
        · simp [hnone]
    rw [hnodup, hfresh]

/-- All customers. -/
def customers : Query := .ofTable "c" (Table.named "dbo" "Customers")

/-- All customers, combined with those of a name: the only name of a parameter stands for that
name. -/
theorem name_passed_in_union :
    let context := ofNames answeringAnn
    ∃ other compiled, context.compile (customersNamed "Bob") = .ok other ∧
      context.compile (customers.combined .union other) = .ok compiled ∧
      (compiled.rendered.params.map CommandParameter.name).Nodup ∧
      passedUnder compiled.rendered.params "@p0" = [.text "Bob"] := by
  intro context
  have hother : (context.compile (customersNamed "Bob")).map CompiledQuery.rendered
      = .ok ⟨"SELECT [c].* FROM [dbo].[Customers] AS [c] WHERE ([c].[Name] = @p0)",
        [.input "@p0" (.text "Bob")]⟩ := by decide +kernel
  obtain ⟨other, hsecond, hrendered⟩ := Action.map_eq_ok_iff.1 hother
  have hboth : (context.compile (customers.combined .union other)).map
      (fun compiled => compiled.rendered.params.map CommandParameter.name) = .ok ["@p0"] := by
    rw [Query.combined, hrendered]
    decide +kernel
  obtain ⟨compiled, hcompile, hnames⟩ := Action.map_eq_ok_iff.1 hboth
  obtain ⟨own, -, -, -, -, -, hown, -, hall, hiff, hpassed, -⟩ :=
    combined_names_nodup_iff hsecond hcompile
  have hnodup : (compiled.rendered.params.map CommandParameter.name).Nodup := by
    rw [hnames]
    decide
  refine ⟨other, compiled, hsecond, hcompile, hnodup, ?_⟩
  refine hpassed hnodup (.input "@p0" (.text "Bob")) (List.mem_append_right _ ?_)
  rw [hrendered]
  exact List.mem_singleton_self _

/-- The customers of two names: the text has one name for both, so it stands for two values. -/
theorem names_share_parameter :
    let context := ofNames answeringAnn
    ∃ other compiled, context.compile (customersNamed "Bob") = .ok other ∧
      context.compile ((customersNamed "Ann").combined .union other) = .ok compiled ∧
      compiled.rendered.text = "SELECT [c].* FROM [dbo].[Customers] AS [c] " ++
        "WHERE ([c].[Name] = @p0) UNION SELECT [c].* FROM [dbo].[Customers] AS [c] " ++
        "WHERE ([c].[Name] = @p0)" ∧
      passedUnder compiled.rendered.params "@p0" = [.text "Ann", .text "Bob"] ∧
      ¬ (compiled.rendered.params.map CommandParameter.name).Nodup := by
  intro context
  have hother : (context.compile (customersNamed "Bob")).map CompiledQuery.rendered
      = .ok ⟨"SELECT [c].* FROM [dbo].[Customers] AS [c] WHERE ([c].[Name] = @p0)",
        [.input "@p0" (.text "Bob")]⟩ := by decide +kernel
  obtain ⟨other, hsecond, hrendered⟩ := Action.map_eq_ok_iff.1 hother
  have hboth : (context.compile ((customersNamed "Ann").combined .union other)).map
      CompiledQuery.rendered
      = .ok ⟨"SELECT [c].* FROM [dbo].[Customers] AS [c] " ++
          "WHERE ([c].[Name] = @p0) UNION SELECT [c].* FROM [dbo].[Customers] AS [c] " ++
          "WHERE ([c].[Name] = @p0)",
        [.input "@p0" (.text "Ann"), .input "@p0" (.text "Bob")]⟩ := by
    rw [Query.combined, hrendered]
    decide +kernel
  obtain ⟨compiled, hcompile, hcompiled⟩ := Action.map_eq_ok_iff.1 hboth
  refine ⟨other, compiled, hsecond, hcompile, ?_⟩
  rw [hcompiled]
  exact ⟨rfl, by decide +kernel, by decide +kernel⟩

end Context

end Orm
