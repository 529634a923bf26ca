import Orm.Proofs.Sql.Statement

/-!
# Queries without their values

Masking replaces the values of a query: non-null literals, the items of a list that a value may be
one of, and patterns. Two queries differ in their values only if they are the same when masked. A
masked query is flattened as it was (`flatten_masked`), it has the statement that it had, or the
same error (`statement_masked`), and its parameters have the same names (`names_params_masked`).
-/

namespace Orm

/-! ## Masks -/

/-- An expression with its values masked. A null literal is no value: it is written out. -/
def Expr.masked : Expr → Expr
  | .column ref => .column ref
  | .literal value => .literal (if value.isNull then .null else .bool false)
  | .binary op left right => .binary op (masked left) (masked right)
  | .not inner => .not (masked inner)
  | .isNull inner => .isNull (masked inner)
  | .isNotNull inner => .isNotNull (masked inner)
  | .oneOf inner items => .oneOf (masked inner) (items.map fun _ => .null)
  | .like inner _ => .like (masked inner) ""
  | .aggregate op argument => .aggregate op argument

/-- An operator with the values of its expression masked. -/
def QueryOperator.masked : QueryOperator → QueryOperator
  | .filter condition => .filter condition.masked
  | .having condition => .having condition.masked
  | .select value => .select value.masked
  | operator => operator

/-- A query with the values of its expressions masked. -/
def Query.masked (query : Query) : Query :=
  { query with operators := query.operators.map QueryOperator.masked }

/-- A flat query with the values of its expressions masked. -/
def FlatQuery.masked (flat : FlatQuery) : FlatQuery :=
  { flat with
    filters := flat.filters.map Expr.masked
    having := flat.having.map Expr.masked
    projections := flat.projections.map Expr.masked }

/-! ## Expressions -/

namespace Expr

/-- A masked expression reads the same columns. -/
theorem columns_masked (expr : Expr) : expr.masked.columns = expr.columns := by
  induction expr with
  | binary op left right ihleft ihright => rw [masked, columns, columns, ihleft, ihright]
  | not inner ih | isNull inner ih | isNotNull inner ih | oneOf inner items ih
  | like inner pattern ih => exact ih
  | column | literal | aggregate => rfl

/-- A masked expression passes as many values. -/
theorem length_bound_values_masked (expr : Expr) :
    expr.masked.boundValues.length = expr.boundValues.length := by
  induction expr with
  | column | aggregate => rfl
  | literal value => cases value <;> rfl
  | binary op left right ihleft ihright =>
      simp only [masked, boundValues, List.length_append, ihleft, ihright]
  | not inner ih | isNull inner ih | isNotNull inner ih => exact ih
  | oneOf inner items ih => cases items <;> simp [masked, boundValues, ih]
  | like inner pattern ih => simp only [masked, boundValues, List.length_append, ih]; rfl

/-- Masked expressions pass as many values. -/
theorem length_flat_map_bound_values_masked (exprs : List Expr) :
    ((exprs.map masked).flatMap boundValues).length = (exprs.flatMap boundValues).length := by
  simp only [List.length_flatMap, List.map_map, Function.comp_def, length_bound_values_masked]

end Expr

namespace FlatQuery

variable {flat : FlatQuery} {dialect : Dialect}

/-- A comparison is a test for null if and only if it is one when masked. -/
theorem null_test_masked (op : BinaryOp) (right : Expr) :
    nullTest? op right.masked = nullTest? op right := by
  cases right with
  | literal value => cases op <;> cases value <;> rfl
  | _ => cases op <;> rfl

/-- A masked expression is written as it was. -/
theorem expr_pieces_masked (first : Nat) (expr : Expr) :
    flat.masked.exprPieces dialect first expr.masked = flat.exprPieces dialect first expr := by
  induction expr generalizing first with
  | column ref => rfl
  | literal value => cases value <;> rfl
  | binary op left right ihleft ihright =>
      rw [Expr.masked, expr_pieces_binary, expr_pieces_binary, null_test_masked, ihleft,
        Expr.length_bound_values_masked]
      simp only [ihright]
  | not inner ih | isNull inner ih | isNotNull inner ih =>
      simp only [Expr.masked, exprPieces, ih]
  | oneOf inner items ih =>
      simp only [Expr.masked, exprPieces, ih, List.isEmpty_map, List.length_map,
        Expr.length_bound_values_masked]
  | like inner pattern ih =>
      simp only [Expr.masked, exprPieces, ih, Expr.length_bound_values_masked]
  | aggregate op argument => rfl

/-! ## Statements -/

/-- Masked conditions are written as they were. -/
theorem condition_pieces_masked (first : Nat) (conditions : List Expr) :
    flat.masked.conditionPieces dialect first (conditions.map Expr.masked)
      = flat.conditionPieces dialect first conditions := by
  induction conditions generalizing first with
  | nil => rfl
  | cons condition rest ih =>
      simp only [List.map_cons, conditionPieces, expr_pieces_masked,
        Expr.length_bound_values_masked, ih]

/-- A clause of masked conditions is written as it was. -/
theorem conjunction_masked (keyword : String) (first : Nat) (conditions : List Expr) :
    flat.masked.conjunction dialect keyword first (conditions.map Expr.masked)
      = flat.conjunction dialect keyword first conditions := by
  simp only [conjunction, List.isEmpty_map, condition_pieces_masked]

/-- A masked query has the statement that it had. -/
theorem statement_masked (base : TableOccurrence) (projection : NameMap (List String)) :
    flat.masked.statement dialect base projection = flat.statement dialect base projection := by
  have hfilters : flat.masked.conjunction dialect " WHERE " 0 flat.masked.filters
      = flat.conjunction dialect " WHERE " 0 flat.filters := conjunction_masked _ _ _
  have hhaving : flat.masked.conjunction dialect " HAVING "
      (flat.masked.filters.flatMap Expr.boundValues).length flat.masked.having
      = flat.conjunction dialect " HAVING " (flat.filters.flatMap Expr.boundValues).length
        flat.having := by
    rw [masked, Expr.length_flat_map_bound_values_masked]
    exact conjunction_masked _ _ _
  rw [statement_eq, statement_eq, hfilters, hhaving]
  rfl

/-- A masked query selects the columns that it selected. -/
theorem projection_columns_masked : flat.masked.projectionColumns = flat.projectionColumns := by
  have hcolumns : (flat.projections.map Expr.masked).flatMap Expr.columns
      = flat.projections.flatMap Expr.columns := by
    simp only [List.flatMap_map, Expr.columns_masked]
  unfold projectionColumns masked
  dsimp only
  rw [hcolumns]
  rfl

/-- A masked query passes as many values as it did. -/
theorem length_bound_values_masked :
    flat.masked.boundValues.length = flat.boundValues.length := by
  rw [boundValues, masked, ← List.map_append, Expr.length_flat_map_bound_values_masked, boundValues]

/-- The parameters of a masked query have the names that they had. -/
theorem names_params_masked : (flat.masked.params dialect).map CommandParameter.name
    = (flat.params dialect).map CommandParameter.name := by
  simp only [params, List.map_append, names_params, length_bound_values_masked]
  rfl

end FlatQuery

/-! ## Flattening -/

namespace Flattening

/-- A flattening with the values of its expressions masked. -/
def masked (state : Flattening) : Flattening := state.update FlatQuery.masked

variable (state : Flattening)

/-- To note an alias and to mask values change different things. -/
theorem masked_observe (aliasName : String) :
    (state.observe aliasName).masked = state.masked.observe aliasName := by
  unfold observe masked update
  split <;> rfl

/-- A masked operator does what it did. -/
theorem step_masked (operator : QueryOperator) :
    state.masked.step operator.masked = (state.step operator).map masked := by
  cases operator with
  | base aliasName table => rfl
  | join source spec target | crossJoin source table target =>
      simp only [step, Except.map, masked_observe]
      rfl
  | filter condition | having condition | select value =>
      simp [QueryOperator.masked, step, Except.map, masked, update, FlatQuery.masked]
  | orderBy aliasName column direction | aggregate op aliasName column => rfl
  | groupBy aliasName keys aggregates =>
      simp only [QueryOperator.masked, step]
      split <;> rfl
  | distinct =>
      cases hdistinct : state.flat.distinct <;>
        simp [QueryOperator.masked, step, masked, update, FlatQuery.masked, hdistinct, Except.map]
  | skip requested =>
      cases hskip : state.flat.skip <;>
        simp [QueryOperator.masked, step, masked, update, FlatQuery.masked, hskip, Except.map]
  | combine operation =>
      cases hset : state.flat.setOperation <;> cases htake : state.flat.take <;>
        cases hcount : state.flat.count <;>
          simp [QueryOperator.masked, step, masked, update, FlatQuery.masked, hset, htake, hcount,
            Except.map]
  | count =>
      cases hset : state.flat.setOperation <;> cases hcount : state.flat.count <;>
        simp [QueryOperator.masked, step, masked, update, FlatQuery.masked, hset, hcount,
          Except.map]
  | take requested =>
      cases hset : state.flat.setOperation <;>
        cases hlimit : tighterTake state.flat.take requested <;>
          simp [QueryOperator.masked, step, masked, update, FlatQuery.masked, hset, hlimit,
            Except.map]

/-- Masked operators do what they did, one after the other. -/
theorem steps_masked (operators : List QueryOperator) :
    (operators.map QueryOperator.masked).foldlM step state.masked
      = (operators.foldlM step state).map masked := by
  induction operators generalizing state with
  | nil => rfl
  | cons operator rest ih =>
      rw [List.map_cons, List.foldlM_cons, List.foldlM_cons, step_masked]
      cases state.step operator with
      | error error => rfl
      | ok next => exact ih next

/-- A masked flattening is finished as it was. -/
theorem finish_masked : state.masked.finish = state.finish.masked := by
  obtain ⟨flat, endpoints⟩ := state
  cases endpoints with
  | nil => rfl
  | cons aliasName rest =>
      simp only [finish]
      rw [apply_ite FlatQuery.masked]
      rfl

end Flattening

/-- A masked query is flattened as it was. -/
theorem Query.flatten_masked (query : Query) :
    query.masked.flatten = query.flatten.map FlatQuery.masked := by
  have hsteps := Flattening.steps_masked ⟨.ofTable query.baseAlias query.baseTable, []⟩
    query.operators
  have hstart : Flattening.masked ⟨.ofTable query.baseAlias query.baseTable, []⟩
      = ⟨.ofTable query.baseAlias query.baseTable, []⟩ := rfl
  rw [hstart] at hsteps
  unfold flatten masked
  dsimp only
  rw [hsteps]
  cases query.operators.foldlM Flattening.step
      ⟨.ofTable query.baseAlias query.baseTable, []⟩ with
  | error error => rfl
  | ok state => exact congrArg Except.ok state.finish_masked

end Orm
