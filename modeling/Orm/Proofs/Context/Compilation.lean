import Orm.Proofs.Context.ResultTable
import Orm.Proofs.Sql.JoinOrder

/-!
# The aliases of a compiled statement

`compile_eq_ok_iff` says what a compiled query is. `qualifiers_introduced` says that its statement
qualifies columns only with aliases that its own clause of tables introduces, even if a join gave
the base table a new name. `joins_in_order_iff` says when the conditions of its joins use aliases
that were introduced before them.
-/

namespace Orm

/-- A part of a statement introduces a table under an alias. -/
def Introduces (pieces : SqlPieces) (table : Table) (aliasName : String) : Prop :=
  [.table table, .word " AS ", .name aliasName] <:+: pieces

/-- What a part introduces is introduced wherever it stands. -/
theorem Introduces.mono {pieces larger : SqlPieces} {table : Table} {aliasName : String}
    (h : Introduces pieces table aliasName) (hlarger : pieces <:+: larger) :
    Introduces larger table aliasName := h.trans hlarger

namespace FlatQuery

variable {flat : FlatQuery} {aliasName : String} {table : Table}

/-- The clause of tables introduces every alias that is read, with its table. -/
theorem introduces_of_occurs {tables : SqlPieces} (h : flat.fromClause flat.base = .ok tables)
    (hoccurs : flat.Occurs aliasName table) : Introduces tables table aliasName := by
  obtain ⟨-, rfl⟩ := from_clause_eq_ok h
  rcases List.mem_cons.1 hoccurs with hbase | htarget
  · cases hbase
    exact ⟨[.word " FROM "], flat.joins.flatMap flat.joinText ++ flat.crossJoins.flatMap crossText,
      by simp [baseText]⟩
  rcases List.mem_append.1 htarget with hjoin | hcross
  · obtain ⟨join, hmem, hjoin⟩ := List.mem_map.1 hjoin
    cases hjoin
    have htext : Introduces (flat.joinText join) join.spec.targetTable join.target :=
      ⟨[_], _, rfl⟩
    have hjoins : flat.joinText join <:+: flat.joins.flatMap flat.joinText :=
      List.infix_of_mem_flatten (List.mem_map_of_mem hmem)
    exact htext.mono (hjoins.trans (List.infix_append _ _ _))
  · have htext : Introduces (crossText ⟨aliasName, table⟩) table aliasName := ⟨[_], [], rfl⟩
    have hcrosses : crossText ⟨aliasName, table⟩ <:+: flat.crossJoins.flatMap crossText :=
      List.infix_of_mem_flatten (List.mem_map_of_mem hcross)
    exact htext.mono (hcrosses.trans (List.suffix_append _ _).isInfix)

/-- An alias that the flat query of some operators reads is that of the base table or is declared by
a join. -/
theorem declared_of_occurs {query : Query} (h : query.flatten = .ok flat)
    (hoccurs : flat.Occurs aliasName table) :
    aliasName = flat.resolve query.baseAlias ∧ table = query.baseTable ∨
      ∃ operator ∈ query.operators, operator.declared? = some (aliasName, table) := by
  have hholds := holds_of_flatten h
  rcases List.mem_cons.1 hoccurs with hown | htarget
  · rw [base_of_flatten h] at hown
    cases hown
    exact .inl ⟨rfl, rfl⟩
  refine .inr ?_
  rcases List.mem_append.1 htarget with hjoin | hcross
  · obtain ⟨join, hmem, hjoin⟩ := List.mem_map.1 hjoin
    cases hjoin
    rw [hholds.joins] at hmem
    obtain ⟨operator, hoperator, hjoined⟩ := List.mem_filterMap.1 hmem
    refine ⟨operator, hoperator, ?_⟩
    cases operator <;> cases hjoined
    rfl
  · rw [hholds.crossJoins] at hcross
    obtain ⟨operator, hoperator, hcrossed⟩ := List.mem_filterMap.1 hcross
    refine ⟨operator, hoperator, ?_⟩
    cases operator <;> cases hcrossed
    rfl

end FlatQuery

namespace Context

open QueryOperator

variable {σ : Type} {context : Context σ} {query : Query} {compiled : CompiledQuery}

/-- A compiled query is the flat query of its operators with its statement and parameters. -/
theorem compile_eq_ok_iff : context.compile query = .ok compiled ↔
    query.flatten = .ok compiled.flat ∧ ∃ pieces,
      compiled.flat.statement context.dialect compiled.flat.base compiled.flat.projectionColumns
        = .ok pieces ∧
      compiled.rendered = ⟨context.dialect.text pieces, compiled.flat.params context.dialect⟩ := by
  constructor
  · intro h
    obtain ⟨flat, hflat, h⟩ := Action.bind_eq_ok_iff.1 h
    obtain ⟨rendered, hrendered, hcompiled⟩ := Action.bind_eq_ok_iff.1 h
    cases hcompiled
    obtain ⟨pieces, hpieces, rfl⟩ :=
      Action.map_eq_ok_iff.1 (Action.map_error_eq_ok_iff.1 hrendered)
    exact ⟨Action.map_error_eq_ok_iff.1 hflat, pieces, hpieces, rfl⟩
  · intro h
    obtain ⟨hflat, pieces, hpieces, hrendered⟩ := h
    refine Action.bind_eq_ok_iff.2 ⟨compiled.flat, Action.map_error_eq_ok_iff.2 hflat, ?_⟩
    refine Action.bind_eq_ok_iff.2 ⟨compiled.rendered, Action.map_error_eq_ok_iff.2 ?_, rfl⟩
    exact Action.map_eq_ok_iff.2 ⟨pieces, hpieces, hrendered.symm⟩

/-- A compiled query has a statement with a clause of tables. -/
theorem statement_of_compile (hcompile : context.compile query = .ok compiled) :
    ∃ pieces tables,
      compiled.flat.statement context.dialect compiled.flat.base compiled.flat.projectionColumns
        = .ok pieces ∧
      compiled.rendered.text = context.dialect.text pieces ∧
      compiled.flat.fromClause compiled.flat.base = .ok tables ∧ tables <:+: pieces ∧
      Written compiled.flat pieces 0 compiled.flat.boundValues.length := by
  obtain ⟨hflat, pieces, hpieces, hrendered⟩ := compile_eq_ok_iff.1 hcompile
  have hreads : compiled.flat.ReadsDeclared := fun _ => FlatQuery.occurs_resolved_of_flatten hflat
  obtain ⟨hwritten, tables, htables, hinfix⟩ := FlatQuery.statement_written hreads hpieces
  exact ⟨pieces, tables, hpieces, congrArg RenderedQuery.text hrendered, htables, hinfix, hwritten⟩

/-- The statement of a compiled query qualifies columns only with aliases that its clause of tables
introduces: the alias that the base table has there, or one that a join declares. -/
theorem qualifiers_introduced (hcompile : context.compile query = .ok compiled) :
    ∃ pieces tables,
      compiled.flat.statement context.dialect compiled.flat.base compiled.flat.projectionColumns
        = .ok pieces ∧
      compiled.rendered.text = context.dialect.text pieces ∧
      compiled.flat.fromClause compiled.flat.base = .ok tables ∧ tables <:+: pieces ∧
      ∀ aliasName ∈ qualifiers pieces, ∃ table, Introduces tables table aliasName ∧
        (aliasName = compiled.flat.resolve query.baseAlias ∧ table = query.baseTable ∨
          ∃ operator ∈ query.operators, operator.declared? = some (aliasName, table)) := by
  obtain ⟨pieces, tables, hpieces, htext, htables, hinfix, hwritten⟩ :=
    statement_of_compile hcompile
  refine ⟨pieces, tables, hpieces, htext, htables, hinfix, ?_⟩
  intro aliasName hmem
  obtain ⟨table, hoccurs⟩ := hwritten.reads aliasName hmem
  exact ⟨table, FlatQuery.introduces_of_occurs htables hoccurs,
    FlatQuery.declared_of_occurs (flatten_of_compile hcompile) hoccurs⟩

/-- The customers under a name that no join mentions, and the orders of each of them. -/
def ordersOfCustomers : Query :=
  let customers := Table.named "dbo" "Customers"
  let orders := Table.named "dbo" "Orders"
  ⟨"customer", customers, [
    .join "c" ⟨customers, ["Id"], orders, ["CustomerId"], false, .children⟩ "o",
    .filter (.isNotNull (.column ⟨"customer", "Name"⟩))]⟩

/-- The customers are read under the alias that the join starts from, and the condition on their
names is one on that alias. -/
theorem renamed_customers_introduced :
    ∃ compiled pieces tables, (ofNames answeringAnn).compile ordersOfCustomers = .ok compiled ∧
      compiled.rendered.text = Dialect.brackets.text pieces ∧
      compiled.flat.fromClause compiled.flat.base = .ok tables ∧
      qualifiers pieces = ["c", "c", "o", "c"] ∧
      compiled.flat.resolve "customer" = "c" ∧
      ∃ table, Introduces tables table "c" := by
  have hfacts : ((ofNames answeringAnn).compile ordersOfCustomers).map (fun compiled =>
      (compiled.flat.resolve "customer",
        (compiled.flat.statement .brackets compiled.flat.base
          compiled.flat.projectionColumns).map qualifiers))
      = .ok ("c", .ok ["c", "c", "o", "c"]) := by decide +kernel
  obtain ⟨compiled, hcompile, hcompiled⟩ := Action.map_eq_ok_iff.1 hfacts
  simp only [Prod.mk.injEq] at hcompiled
  obtain ⟨hresolve, hqualifiers⟩ := hcompiled
  obtain ⟨pieces, tables, hpieces, htext, htables, -, hall⟩ := qualifiers_introduced hcompile
  have hread : qualifiers pieces = ["c", "c", "o", "c"] := by
    obtain ⟨known, hknown, hlisted⟩ := Action.map_eq_ok_iff.1 hqualifiers
    cases hknown.symm.trans hpieces
    exact hlisted
  obtain ⟨table, hintroduced, -⟩ := hall "c" (by rw [hread]; decide)
  exact ⟨compiled, pieces, tables, hcompile, htext, htables, hread, hresolve, table, hintroduced⟩

/-- If every join of a query starts from the base table or from the target of a join before it, the
clause of tables introduces the base table, then the targets of the joins along relationships and
then those of the cross joins. So every alias in the condition of a join was introduced before it if
and only if no join with a condition starts from the target of a cross join. -/
theorem joins_in_order_iff (hcompile : context.compile query = .ok compiled)
    (hscoped : WellScoped [query.baseAlias] query.operators) :
    ∃ pieces tables,
      compiled.flat.statement context.dialect compiled.flat.base compiled.flat.projectionColumns
        = .ok pieces ∧
      compiled.rendered.text = context.dialect.text pieces ∧
      compiled.flat.fromClause compiled.flat.base = .ok tables ∧ tables <:+: pieces ∧
      introduced tables = query.baseAlias ::
        (query.operators.filterMap joined?).map JoinEntry.target ++
          (query.operators.filterMap crossed?).map TableOccurrence.aliasName ∧
      (InOrder [] tables ↔ ∀ join ∈ query.operators.filterMap joined?, join.spec.keyPairs ≠ [] →
        ∀ cross ∈ query.operators.filterMap crossed?, join.source ≠ cross.aliasName) := by
  obtain ⟨pieces, tables, hpieces, htext, htables, hinfix, -⟩ := statement_of_compile hcompile
  have hflat := flatten_of_compile hcompile
  have hresolve := FlatQuery.resolve_of_well_scoped hflat hscoped
  have hholds := FlatQuery.holds_of_flatten hflat
  have hbase : compiled.flat.base.aliasName = query.baseAlias :=
    congrArg TableOccurrence.aliasName (FlatQuery.base_of_flatten hflat)
  obtain ⟨hnames, horder⟩ := FlatQuery.from_clause_order htables
  rw [hresolve, hbase, hholds.joins, hholds.crossJoins] at hnames
  rw [hresolve, hbase, hholds.joins] at horder
  have hplaced : FlatQuery.AliasesPlaced [query.baseAlias] [query.baseAlias] [] :=
    ⟨by simp, fun _ _ => List.not_mem_nil⟩
  refine ⟨pieces, tables, hpieces, htext, htables, hinfix, hnames, ?_⟩
  rw [horder, FlatQuery.in_order_joins_iff hresolve hscoped hplaced]
  simp only [List.nil_append, List.mem_map, not_exists, not_and, ne_comm]

/-- The employees with all regions, and the offices of each region. -/
def officesOfRegions : Query :=
  let regions := Table.named "dbo" "Regions"
  ⟨"e", Table.named "dbo" "Employees", [
    .crossJoin "e" regions "r",
    .join "r" ⟨regions, ["Id"], Table.named "dbo" "Offices", ["RegionId"], false, .children⟩ "o"]⟩

/-- The offices are joined on the regions, which the statement introduces after them. -/
theorem offices_before_regions :
    ∃ compiled tables, (ofNames answeringAnn).compile officesOfRegions = .ok compiled ∧
      WellScoped ["e"] officesOfRegions.operators ∧
      compiled.rendered.text = "SELECT [e].* FROM [dbo].[Employees] AS [e] " ++
        "INNER JOIN [dbo].[Offices] AS [o] ON [r].[Id] = [o].[RegionId] " ++
        "CROSS JOIN [dbo].[Regions] AS [r]" ∧
      compiled.flat.fromClause compiled.flat.base = .ok tables ∧
      introduced tables = ["e", "o", "r"] ∧ ¬ InOrder [] tables := by
  have hfacts : ((ofNames answeringAnn).compile officesOfRegions).map (fun compiled =>
      compiled.rendered.text)
      = .ok ("SELECT [e].* FROM [dbo].[Employees] AS [e] " ++
        "INNER JOIN [dbo].[Offices] AS [o] ON [r].[Id] = [o].[RegionId] " ++
        "CROSS JOIN [dbo].[Regions] AS [r]") := by decide +kernel
  obtain ⟨compiled, hcompile, hrendered⟩ := Action.map_eq_ok_iff.1 hfacts
  have hscoped : WellScoped ["e"] officesOfRegions.operators := by
    simp [WellScoped, officesOfRegions, ends?]
  obtain ⟨pieces, tables, -, -, htables, -, hnames, horder⟩ := joins_in_order_iff hcompile hscoped
  refine ⟨compiled, tables, hcompile, hscoped, hrendered, htables, hnames, fun hordered => ?_⟩
  -- The offices are joined on keys, from the alias of the regions.
  exact horder.1 hordered _ List.mem_cons_self (List.cons_ne_nil _ _) _ List.mem_cons_self rfl

end Context

end Orm
