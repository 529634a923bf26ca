import Orm.Proofs.Context.BoundValues
import Orm.Proofs.Sql.Precedence

/-!
# The conditions of a compiled statement

`conditions_read_back_iff` says when the filters of a compiled query and its conditions on groups
are read as they were written: if no `NOT`, test or operand in them is taken apart by what stands
beside it without parentheses.
-/

namespace Orm.Context

variable {σ : Type} {context : Context σ} {query : Query} {compiled : CompiledQuery}

/-- The filters of a compiled query and its conditions on groups are in its statement, and are read
as they were written if and only if the operands of each of them stay whole. -/
theorem conditions_read_back_iff (hnames : context.dialect.NamesFunctions)
    (hcompile : context.compile query = .ok compiled) :
    ∃ before filters groups having after,
      compiled.rendered.text
        = context.dialect.text (before ++ filters ++ groups ++ having ++ after) ∧
      (compiled.flat.ReadsBack context.dialect " WHERE " 0 compiled.flat.filters filters ↔
        ∀ condition ∈ compiled.flat.filters, condition.isWhole = true) ∧
      (compiled.flat.ReadsBack context.dialect " HAVING "
          (compiled.flat.filters.flatMap Expr.boundValues).length compiled.flat.having having ↔
        ∀ condition ∈ compiled.flat.having, condition.isWhole = true) := by
  obtain ⟨-, pieces, hpieces, hrendered⟩ := compile_eq_ok_iff.1 hcompile
  obtain ⟨list, body, order, -, hbody, -, rfl⟩ := FlatQuery.statement_eq_ok_iff.1 hpieces
  obtain ⟨tables, -, hbody⟩ := Action.bind_eq_ok_iff.1 hbody
  obtain ⟨filters, hfilters, hbody⟩ := Action.bind_eq_ok_iff.1 hbody
  obtain ⟨groups, -, hbody⟩ := Action.bind_eq_ok_iff.1 hbody
  obtain ⟨having, hhaving, hclauses⟩ := Action.bind_eq_ok_iff.1 hbody
  obtain rfl := Except.ok.inj hclauses
  refine ⟨compiled.flat.opening context.dialect ++ list ++ tables, filters, groups, having,
    compiled.flat.setPieces ++ order ++ compiled.flat.closing context.dialect, ?_,
    FlatQuery.conjunction_reads_back_iff hnames hfilters,
    FlatQuery.conjunction_reads_back_iff hnames hhaving⟩
  rw [hrendered]
  simp only [List.append_assoc]

/-- The customers of whom it is unknown whether they have another name. -/
def customersOfUnknownName : Query :=
  ⟨"c", Table.named "dbo" "Customers",
    [.filter (.isNull (.not (.binary .eq (.column ⟨"c", "Name"⟩) (.literal (.text "Ann")))))]⟩

/-- The denial in the condition is read as one of the test. -/
theorem denied_comparison_taken_apart :
    let context := ofNames answeringAnn
    ∃ compiled before filters groups having after,
      context.compile customersOfUnknownName = .ok compiled ∧
      compiled.rendered.text
        = "SELECT [c].* FROM [dbo].[Customers] AS [c] WHERE NOT (([c].[Name] = @p0)) IS NULL" ∧
      compiled.rendered.text
        = context.dialect.text (before ++ filters ++ groups ++ having ++ after) ∧
      ¬ compiled.flat.ReadsBack context.dialect " WHERE " 0 compiled.flat.filters filters := by
  intro context
  have hcompiled : (context.compile customersOfUnknownName).map
      (fun compiled => (compiled.rendered.text, compiled.flat.filters.all Expr.isWhole))
      = .ok ("SELECT [c].* FROM [dbo].[Customers] AS [c] WHERE NOT (([c].[Name] = @p0)) IS NULL",
        false) := by decide +kernel
  have hnames : context.dialect.NamesFunctions := brackets_names_functions
  obtain ⟨compiled, hcompile, hfields⟩ := Action.map_eq_ok_iff.1 hcompiled
  obtain ⟨htext, hwhole⟩ := Prod.mk.inj hfields
  obtain ⟨before, filters, groups, having, after, hclauses, hfilters, -⟩ :=
    conditions_read_back_iff hnames hcompile
  refine ⟨compiled, before, filters, groups, having, after, hcompile, htext, hclauses, ?_⟩
  rw [hfilters, ← List.all_eq_true, hwhole]
  exact Bool.false_ne_true

end Orm.Context
