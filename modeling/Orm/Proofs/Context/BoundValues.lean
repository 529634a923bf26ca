import Orm.Proofs.Change.StatementForm
import Orm.Proofs.Context.Compilation
import Orm.Proofs.Sql.Masking

/-!
# Values are passed, not written

`values_passed_in_order` says that the text of a statement does not depend on the values of a query
or of an entity, and that a query passes its values in the order of their slots.
-/

namespace Orm

/-- The values of the filters of a query and then those of its conditions on groups, as they occur
from left to right. -/
def Query.boundValues (query : Query) : List Value :=
  (query.operators.filterMap QueryOperator.filtered? ++
    query.operators.filterMap QueryOperator.required?).flatMap Expr.boundValues

namespace Context

variable {σ : Type} {context : Context σ} {query : Query} {compiled : CompiledQuery}

/-- A masked query has the text and the names of parameters that it had, or the same failure. -/
theorem compile_masked (context : Context σ) (query : Query) :
    (context.compile query.masked).map (fun compiled => compiled.rendered.command.form)
      = (context.compile query).map (fun compiled => compiled.rendered.command.form) := by
  unfold compile
  rw [query.flatten_masked]
  cases query.flatten with
  | error error => rfl
  | ok flat =>
      simp only [Except.map, Except.mapError, bind, Except.bind, FlatQuery.render,
        FlatQuery.statement_masked, FlatQuery.projection_columns_masked]
      have hbase : flat.masked.base = flat.base := rfl
      rw [hbase]
      cases flat.statement context.dialect flat.base flat.projectionColumns with
      | error error => rfl
      | ok pieces =>
        simp [pure, Except.pure, RenderedQuery.command, Command.form, Command.statement,
          FlatQuery.names_params_masked]

/-- A compiled query has a slot for each value of its filters and then of its conditions on groups,
and passes these values in the order of the slots, before the parameters of a combined statement. -/
theorem bound_values_of_compile (hcompile : context.compile query = .ok compiled) :
    ∃ pieces,
      compiled.flat.statement context.dialect compiled.flat.base compiled.flat.projectionColumns
        = .ok pieces ∧
      compiled.rendered.text = context.dialect.text pieces ∧
      slotNumbers pieces = List.range query.boundValues.length ∧
      compiled.rendered.params = query.boundValues.mapIdx (fun index value =>
          CommandParameter.input (context.dialect.parameter index) value) ++
        compiled.flat.setOperation.elim [] fun operation =>
          operation.params.map fun param => CommandParameter.input param.1 param.2 := by
  obtain ⟨pieces, -, hpieces, htext, -, -, hwritten⟩ := statement_of_compile hcompile
  obtain ⟨hflat, _, -, hrendered⟩ := compile_eq_ok_iff.1 hcompile
  have hholds := FlatQuery.holds_of_flatten hflat
  have hvalues : compiled.flat.boundValues = query.boundValues := by
    rw [FlatQuery.boundValues, hholds.filters, hholds.having, Query.boundValues]
  refine ⟨pieces, hpieces, htext, ?_, ?_⟩
  · rw [hwritten.slots, hvalues, List.range_eq_range']
  · rw [hrendered, FlatQuery.params, Dialect.params, hvalues]
    cases compiled.flat.setOperation <;> rfl

/-- The values of a query and of an entity are passed as parameters and do not get into a text.
Queries that differ in values only have the same text and the same names of parameters, or the same
failure. A compiled query passes the values of its filters and then of its conditions on groups, as
they occur from left to right, in the order of their slots. And the statement that writes an entity
depends on its values only through which of them are present. -/
theorem values_passed_in_order (context : Context σ) :
    (∀ query other : Query, other.masked = query.masked →
      (context.compile other).map (fun compiled => compiled.rendered.command.form)
        = (context.compile query).map (fun compiled => compiled.rendered.command.form)) ∧
    (∀ query compiled, context.compile query = .ok compiled → ∃ pieces,
      compiled.flat.statement context.dialect compiled.flat.base compiled.flat.projectionColumns
        = .ok pieces ∧
      compiled.rendered.text = context.dialect.text pieces ∧
      slotNumbers pieces = List.range query.boundValues.length ∧
      compiled.rendered.params = query.boundValues.mapIdx (fun index value =>
          CommandParameter.input (context.dialect.parameter index) value) ++
        compiled.flat.setOperation.elim [] fun operation =>
          operation.params.map fun param => CommandParameter.input param.1 param.2) ∧
    ∀ (operation : WriteOperation) (entity : Entity) (values : NameMap Value)
      (columns : ColumnMap) (filled : List String),
      (∀ column, ({ entity with values := values } : Entity).hasValue column
        = entity.hasValue column) →
      (Batch.statementFor context.dialect operation { entity with values := values } columns
          filled).map (Option.map (WriteStatement.form context.dialect))
        = (Batch.statementFor context.dialect operation entity columns filled).map
            (Option.map (WriteStatement.form context.dialect)) := by
  refine ⟨?_, ?_, ?_⟩
  · intro query other hsame
    rw [← context.compile_masked other, hsame, context.compile_masked query]
  · intro query compiled
    exact bound_values_of_compile
  · intro operation entity values columns filled hpresent
    exact WriteStatement.statement_for_form hpresent operation filled

/-- The customers with a given name. -/
def customersNamed (name : String) : Query :=
  ⟨"c", Table.named "dbo" "Customers",
    [.filter (.binary .eq (.column ⟨"c", "Name"⟩) (.literal (.text name)))]⟩

/-- A name that looks like a part of a statement does not become one. -/
theorem quoted_name_passed :
    let context := ofNames answeringAnn
    let text := "SELECT [c].* FROM [dbo].[Customers] AS [c] WHERE ([c].[Name] = @p0)"
    (context.compile (customersNamed "Ann")).map (fun compiled => compiled.rendered.command.form)
        = .ok (text, ["@p0"]) ∧
      (context.compile (customersNamed "' OR 1 = 1 --")).map
          (fun compiled => compiled.rendered.command.form) = .ok (text, ["@p0"]) := by
  intro context text
  have hann : (context.compile (customersNamed "Ann")).map
      (fun compiled => compiled.rendered.command.form) = .ok (text, ["@p0"]) := by decide +kernel
  obtain ⟨hsame, -, -⟩ := values_passed_in_order context
  exact ⟨hann, (hsame (customersNamed "Ann") _ rfl).trans hann⟩

end Context

end Orm
