import Orm.Proofs.Sql.Statement

/-!
# The body of a statement

`FlatQuery.body` is what stands between the select list of a statement and the clause that sorts its
rows: the tables, the filters, the group keys and the conditions on groups. It does not depend on
what ends a query, a combination, a count or an order: `body_ended`.
-/

namespace Orm.FlatQuery

variable {flat other : FlatQuery} {dialect : Dialect}

/-- An expression is written by the declared aliases alone. -/
theorem expr_pieces_congr (h : ∀ aliasName, other.declared aliasName = flat.declared aliasName)
    (first : Nat) (expr : Expr) :
    other.exprPieces dialect first expr = flat.exprPieces dialect first expr := by
  induction expr generalizing first with
  | column ref | aggregate op argument => simp only [exprPieces, columnPiece, h]
  | literal value => rfl
  | binary op left right ihleft ihright =>
      rw [expr_pieces_binary, expr_pieces_binary, ihleft]
      simp only [ihright]
  | not inner ih | isNull inner ih | isNotNull inner ih | oneOf inner items ih
  | like inner pattern ih => simp only [exprPieces, ih]

/-- Conditions are written by the declared aliases alone. -/
theorem condition_pieces_congr
    (h : ∀ aliasName, other.declared aliasName = flat.declared aliasName) (first : Nat)
    (conditions : List Expr) :
    other.conditionPieces dialect first conditions
      = flat.conditionPieces dialect first conditions := by
  induction conditions generalizing first with
  | nil => rfl
  | cons condition rest ih => simp only [conditionPieces, expr_pieces_congr h, ih]

/-- A clause of conditions is written by the declared aliases alone. -/
theorem conjunction_congr (h : ∀ aliasName, other.declared aliasName = flat.declared aliasName)
    (keyword : String) (first : Nat) (conditions : List Expr) :
    other.conjunction dialect keyword first conditions
      = flat.conjunction dialect keyword first conditions := by
  simp only [conjunction, condition_pieces_congr h]

/-- The clauses of a statement between its select list and the clause that sorts its rows. -/
def body (flat : FlatQuery) (dialect : Dialect) (base : TableOccurrence) :
    Except QueryError SqlPieces := do
  let tables ← flat.fromClause base
  let filters ← flat.conjunction dialect " WHERE " 0 flat.filters
  let groups ← flat.groupClause
  let having ← flat.conjunction dialect " HAVING "
    (flat.filters.flatMap Expr.boundValues).length flat.having
  return tables ++ filters ++ groups ++ having

/-- A statement has its body between what it reads and what ends it. -/
theorem statement_eq_body (base : TableOccurrence) (projection : NameMap (List String)) :
    flat.statement dialect base projection = do
      let list ← flat.resultList dialect projection
      let body ← flat.body dialect base
      let order ← flat.sortClause
      return flat.opening dialect ++ list ++ body ++ flat.setPieces ++ order ++
        flat.closing dialect := by
  rw [statement_eq]
  simp only [body, bind_assoc, pure_bind, List.append_assoc]

/-- A statement that is written has its body between what it reads and what ends it. -/
theorem statement_eq_ok_iff {base : TableOccurrence} {projection : NameMap (List String)}
    {pieces : SqlPieces} : flat.statement dialect base projection = .ok pieces ↔
      ∃ list body order, flat.resultList dialect projection = .ok list ∧
        flat.body dialect base = .ok body ∧ flat.sortClause = .ok order ∧
        pieces = flat.opening dialect ++ list ++ body ++ flat.setPieces ++ order ++
          flat.closing dialect := by
  rw [statement_eq_body]
  constructor
  · intro h
    obtain ⟨list, hlist, h⟩ := Action.bind_eq_ok_iff.1 h
    obtain ⟨body, hbody, h⟩ := Action.bind_eq_ok_iff.1 h
    obtain ⟨order, horder, hpieces⟩ := Action.bind_eq_ok_iff.1 h
    exact ⟨list, body, order, hlist, hbody, horder, (Except.ok.inj hpieces).symm⟩
  · rintro ⟨list, body, order, hlist, hbody, horder, rfl⟩
    rw [hlist, hbody, horder]
    rfl

/-- The clauses after the select list begin with the base table. -/
theorem body_begins {base : TableOccurrence} {pieces : SqlPieces}
    (h : flat.body dialect base = .ok pieces) : ∃ after, pieces = flat.baseText base ++ after := by
  obtain ⟨tables, htables, h⟩ := Action.bind_eq_ok_iff.1 h
  obtain ⟨filters, -, h⟩ := Action.bind_eq_ok_iff.1 h
  obtain ⟨groups, -, h⟩ := Action.bind_eq_ok_iff.1 h
  obtain ⟨having, -, hpieces⟩ := Action.bind_eq_ok_iff.1 h
  obtain ⟨-, rfl⟩ := from_clause_eq_ok htables
  cases hpieces
  exact ⟨flat.joins.flatMap flat.joinText ++ flat.crossJoins.flatMap crossText ++ filters ++
    groups ++ having, by simp only [List.append_assoc]⟩

/-- What ends a query does not change the body of its statement. -/
theorem body_ended (flat : FlatQuery) (dialect : Dialect) (base : TableOccurrence)
    (operation : Option SetOperation) (count : Bool) (ordering : List OrderTerm) :
    ({ flat with setOperation := operation, count := count, ordering := ordering } :
      FlatQuery).body dialect base = flat.body dialect base := by
  have hsame : ∀ keyword first conditions,
      ({ flat with setOperation := operation, count := count, ordering := ordering } :
        FlatQuery).conjunction dialect keyword first conditions
      = flat.conjunction dialect keyword first conditions := by
    intro keyword first conditions
    refine conjunction_congr ?_ keyword first conditions
    exact fun _ => rfl
  simp only [body, hsame]
  rfl

end Orm.FlatQuery
