import Orm.Proofs.Context.Counting
import Orm.Proofs.Sql.Items

/-!
# What the statement of a query leaves out

Flattening accepts limits, groups, counts and aggregates over all rows in any mixture, and the
statement has a place for each, but not for all of them together. `nothing_omitted_iff` says which
mixtures are written without a limit or without an aggregate that they ask for.
-/

namespace Orm

open QueryOperator

namespace Dialect

variable {dialect : Dialect}

/-- Of two parts of a statement the second one is written behind the first one. -/
theorem text_append (left right : SqlPieces) :
    dialect.text (left ++ right) = dialect.text left ++ dialect.text right := by
  rw [text, List.map_append, String.join_append]
  rfl

/-- A clause takes room in a statement. -/
theorem length_text_clause (clause : String) :
    0 < (dialect.text (blankBefore (some clause))).length := by
  have hblank : 0 < " ".length := by decide
  rw [text, String.length_join]
  simp only [blankBefore, List.map_cons, List.sum_cons, pieceText]
  omega

end Dialect

namespace FlatQuery

variable {flat : FlatQuery} {base : TableOccurrence} {projection : NameMap (List String)}

/-! ## Limits -/

/-- A statement that reads a part of the rows, which is given by the number of rows that are left
out and the greatest number of the other ones. `TOP` stands before the list, `OFFSET` and `FETCH`
stand behind the order. If the rows are counted around it, it is the inner statement that reads the
part. -/
def limited (flat : FlatQuery) (part : Option Nat × Option Nat) (list body order : SqlPieces) :
    SqlPieces :=
  let inner := [.word "SELECT"] ++ (if flat.distinct then [.word " DISTINCT"] else []) ++
    blankBefore (Brackets.topClause part.1 part.2) ++ [.word " "] ++ list ++ body ++
    flat.setPieces ++ order ++ blankBefore (Brackets.pagingClause part.1 part.2 flat.isOrdered)
  if flat.wrapsCount then countedAround inner else inner

/-- The part of the rows that a query asks for. -/
def askedPart (flat : FlatQuery) : Option Nat × Option Nat := (flat.skip, flat.take)

/-- The part of the rows that a statement reads: all of them beside aggregates over all rows. -/
def readPart (flat : FlatQuery) : Option Nat × Option Nat :=
  if flat.aggregates = [] then flat.askedPart else (none, none)

/-- A query that is not paged asks for all rows. -/
theorem asked_part_eq_iff : flat.askedPart = (none, none) ↔ flat.isPaged = false := by
  rw [askedPart, isPaged]
  cases flat.skip <;> cases flat.take <;> simp

/-- A statement without limits is a scalar one or reads all rows. -/
theorem clause_of_scalar (clause : Option Nat → Option Nat → Option String)
    (hnone : clause none none = none) :
    (if flat.isScalar then none else clause flat.skip flat.take)
      = clause flat.readPart.1 flat.readPart.2 := by
  by_cases haggregates : flat.aggregates = []
  · rw [readPart, if_pos haggregates, askedPart]
    split
    · next hscalar =>
      -- A count without a statement around it is one of all rows.
      have hpaged : flat.isPaged = false := by
        simp only [isScalar, wrapsCount, haggregates] at hscalar
        cases hpaged : flat.isPaged <;> simp_all
      obtain ⟨hskip, htake⟩ := Prod.mk.inj (asked_part_eq_iff.2 hpaged)
      rw [hskip, htake, hnone]
    · rfl
  · have hscalar : flat.isScalar = true := by simp [isScalar, haggregates]
    rw [readPart, if_neg haggregates, if_pos hscalar, hnone]

/-- A statement reads its items from a part of the rows. -/
theorem statement_limited {pieces : SqlPieces}
    (h : flat.statement .brackets base projection = .ok pieces) :
    ∃ body order, flat.body .brackets base = .ok body ∧ flat.sortClause = .ok order ∧
      pieces = flat.limited flat.readPart
        (separated ", " (flat.resultItems .brackets projection)) body order := by
  obtain ⟨list, body, order, hlist, hbody, horder, rfl⟩ := statement_eq_ok_iff.1 h
  refine ⟨body, order, hbody, horder, ?_⟩
  have htop := flat.clause_of_scalar Brackets.topClause rfl
  have hpaging := flat.clause_of_scalar
    (fun skip take => Brackets.pagingClause skip take flat.isOrdered) rfl
  have hopening : flat.opening .brackets
      = (if flat.wrapsCount then [SqlPiece.word "SELECT COUNT(*) FROM ("] else []) ++
        [SqlPiece.word "SELECT"] ++ (if flat.distinct then [SqlPiece.word " DISTINCT"] else []) ++
        blankBefore (Brackets.topClause flat.readPart.1 flat.readPart.2) ++
        [SqlPiece.word " "] := by
    rw [← htop]
    rfl
  have hclosing : flat.closing .brackets
      = blankBefore (Brackets.pagingClause flat.readPart.1 flat.readPart.2 flat.isOrdered) ++
        (if flat.wrapsCount then [SqlPiece.word ") AS ", .name "counted"] else []) := by
    rw [← hpaging]
    rfl
  rw [hopening, hclosing, ← result_list_items hlist, limited]
  cases flat.wrapsCount <;> simp [countedAround]

/-- The limits of a statement take room for themselves. -/
theorem length_text_limited (part : Option Nat × Option Nat) (list body order : SqlPieces) :
    (Dialect.brackets.text (flat.limited part list body order)).length
      = (Dialect.brackets.text (flat.limited (none, none) list body order)).length +
        ((Dialect.brackets.text (blankBefore (Brackets.topClause part.1 part.2))).length +
          (Dialect.brackets.text
            (blankBefore (Brackets.pagingClause part.1 part.2 flat.isOrdered))).length) := by
  have hnone : Brackets.topClause none none = none ∧
      Brackets.pagingClause none none flat.isOrdered = none := ⟨rfl, rfl⟩
  simp only [limited, countedAround, hnone, blankBefore]
  cases flat.wrapsCount <;>
    simp only [Bool.false_eq_true, if_true, if_false, ← List.cons_append, Dialect.text_append,
      String.length_append, List.append_nil] <;>
    omega

/-- A statement that reads a part of the rows is written as one that reads all of them only if all
of them are asked for. -/
theorem text_limited_eq_iff (list body order : SqlPieces) :
    Dialect.brackets.text (flat.limited (none, none) list body order)
        = Dialect.brackets.text (flat.limited flat.askedPart list body order) ↔
      flat.isPaged = false := by
  constructor
  · intro h
    have hlength := @length_text_limited flat flat.askedPart list body order
    rw [h] at hlength
    rw [← asked_part_eq_iff]
    rcases hpart : flat.askedPart with ⟨skip, take⟩
    rw [hpart] at hlength
    cases skip with
    | none =>
        cases take with
        | none => rfl
        | some take =>
            have hroom := @Dialect.length_text_clause .brackets s!"TOP {take}"
            simp only [Brackets.topClause] at hlength
            omega
    | some skip =>
        have hroom := @Dialect.length_text_clause .brackets
          ((Brackets.pagingClause (some skip) take flat.isOrdered).getD "")
        simp only [Brackets.pagingClause, Option.map_some, Option.getD_some] at hlength hroom
        omega
  · intro hpaged
    rw [asked_part_eq_iff.2 hpaged]

/-! ## Aggregates -/

/-- An item of a select list is an aggregate over all rows, under whatever name. -/
def Computes (flat : FlatQuery) (item : SqlPieces) (term : AggregateTerm) : Prop :=
  ∃ name, item = flat.aggregateItem .brackets term.op ⟨term.aliasName, term.column⟩ name

/-- Aggregates are written by words of their own. -/
theorem aggregate_function_inj {left right : AggregateOp}
    (h : Brackets.aggregateFunction left = Brackets.aggregateFunction right) : left = right := by
  cases left <;> cases right <;> first | rfl | exact absurd h (by decide)

/-- An aggregate is written as another one only if both are the same of the same column. -/
theorem computes_aggregate_item_iff {op : AggregateOp} {ref : ColumnRef} {name : String}
    {term : AggregateTerm} :
    flat.Computes (flat.aggregateItem .brackets op ref name) term ↔ op = term.op ∧
      flat.resolve ref.aliasName = flat.resolve term.aliasName ∧ ref.column = term.column := by
  simp only [Computes, aggregateItem, List.cons.injEq, SqlPiece.word.injEq, SqlPiece.column.injEq,
    SqlPiece.name.injEq, and_true, true_and, exists_and_left, exists_eq', Dialect.brackets]
  exact and_congr_left fun _ => ⟨aggregate_function_inj, congrArg _⟩

/-- A group has an aggregate of its own that is the same as one over all rows. -/
def InGroups (flat : FlatQuery) (term : AggregateTerm) : Prop :=
  ∃ aggregate ∈ flat.grouping.flatMap GroupingEntry.aggregates, aggregate.op = term.op ∧
    flat.resolve aggregate.ref.aliasName = flat.resolve term.aliasName ∧
    aggregate.ref.column = term.column

/-- Aggregates over all rows are items of the select list if and only if no count stands in their
place, and rows are not grouped or each is one of the groups too. -/
theorem aggregates_listed_iff (projection : NameMap (List String)) :
    (∀ term ∈ flat.aggregates, ∃ item ∈ flat.resultItems .brackets projection,
        flat.Computes item term) ↔
      flat.aggregates = [] ∨ (flat.count = false ∨ flat.wrapsCount = true) ∧
        (flat.isGrouped = false ∨ ∀ term ∈ flat.aggregates, flat.InGroups term) := by
  by_cases hnone : flat.aggregates = []
  · simp [hnone]
  obtain ⟨first, hfirst⟩ := List.exists_mem_of_ne_nil _ hnone
  rw [or_iff_right hnone]
  by_cases hplace : flat.count ∧ !flat.wrapsCount
  · -- The count has no room for another item.
    rw [resultItems, if_pos hplace]
    refine iff_of_false (fun hall => ?_) fun hread => ?_
    · obtain ⟨item, hitem, name, hsame⟩ := hall first hfirst
      rw [List.mem_singleton.1 hitem] at hsame
      simp [aggregateItem] at hsame
    · rcases hread.1 with hcount | hwraps
      · simp [hcount] at hplace
      · simp [hwraps] at hplace
  have hread : flat.count = false ∨ flat.wrapsCount = true := by
    cases hcount : flat.count <;> simp_all
  rw [resultItems, if_neg hplace, and_iff_right hread, selectItems]
  by_cases hgrouped : flat.isGrouped = true
  · have hsome : ¬ flat.isGrouped = false := by simp [hgrouped]
    rw [if_pos hgrouped, or_iff_right hsome]
    refine forall₂_congr fun term _ => ⟨?_, ?_⟩
    · rintro ⟨item, hitem, hcomputes⟩
      rcases List.mem_append.1 hitem with hitem | hitem
      · obtain ⟨key, -, rfl⟩ := List.mem_map.1 hitem
        obtain ⟨name, hsame⟩ := hcomputes
        cases hsame
      · obtain ⟨aggregate, haggregate, rfl⟩ := List.mem_map.1 hitem
        obtain ⟨known, hknown, rfl⟩ := List.mem_map.1 haggregate
        exact ⟨known, hknown, computes_aggregate_item_iff.1 hcomputes⟩
    · rintro ⟨aggregate, haggregate, hsame⟩
      exact ⟨_, List.mem_append_right _ (List.mem_map_of_mem (List.mem_map_of_mem haggregate)),
        computes_aggregate_item_iff.2 hsame⟩
  · refine iff_of_true (fun term hterm => ?_) (.inl (by simpa using hgrouped))
    rw [if_neg hgrouped, if_pos (by simpa using hnone)]
    exact ⟨_, List.mem_map_of_mem hterm, _, rfl⟩

end FlatQuery

namespace Context

open FlatQuery

variable {σ : Type} {context : Context σ} {query : Query} {compiled : CompiledQuery}

/-- A compiled query is written with brackets. Its statement reads the part of the rows that is
asked for if and only if that is all of them or the query has no aggregates over all rows; with any
such aggregate it reads all rows, and what it counts, if it counts around it, is the one row that
they give. The aggregates over all rows are items of the select list if and only if there are none,
or no count stands in their place and rows are not grouped or each aggregate is one of the groups
too. All other mixtures are written without something that they ask for. -/
theorem nothing_omitted_iff (hcompile : context.compile query = .ok compiled)
    (hdialect : context.dialect = .brackets) :
    let flat := compiled.flat
    let terms := query.operators.filterMap aggregated?
    let items := flat.resultItems .brackets flat.projectionColumns
    ∃ body order, flat.body .brackets flat.base = .ok body ∧ flat.sortClause = .ok order ∧
      compiled.rendered.text = Dialect.brackets.text
        (flat.limited (if terms = [] then (flat.skip, flat.take) else (none, none))
          (separated ", " items) body order) ∧
      (compiled.rendered.text = Dialect.brackets.text
          (flat.limited (flat.skip, flat.take) (separated ", " items) body order) ↔
        (flat.skip = none ∧ flat.take = none) ∨ terms = []) ∧
      ((∀ term ∈ terms, ∃ item ∈ items, flat.Computes item term) ↔
        terms = [] ∨ (flat.count = false ∨ flat.wrapsCount = true) ∧
          (flat.isGrouped = false ∨ ∀ term ∈ terms, flat.InGroups term)) := by
  intro flat terms items
  obtain ⟨hflat, pieces, hpieces, hrendered⟩ := compile_eq_ok_iff.1 hcompile
  have hterms : terms = flat.aggregates := (holds_of_flatten hflat).aggregates.symm
  rw [hdialect] at hpieces hrendered
  obtain ⟨body, order, hbody, horder, rfl⟩ := statement_limited hpieces
  have htext : compiled.rendered.text = Dialect.brackets.text
      (flat.limited flat.readPart (separated ", " items) body order) :=
    congrArg RenderedQuery.text hrendered
  refine ⟨body, order, hbody, horder, ?_, ?_, ?_⟩
  · rw [htext, hterms]
    rfl
  · rw [htext, hterms, readPart]
    split
    · next hnone => exact iff_of_true rfl (.inr hnone)
    · next hsome =>
      rw [or_iff_left hsome]
      refine (text_limited_eq_iff _ _ _).trans (asked_part_eq_iff.symm.trans ?_)
      exact Prod.mk_inj
  · rw [hterms]
    exact aggregates_listed_iff _

/-- The totals of orders, for the first five regions. -/
def totalsOfRegions : Query :=
  ⟨"o", Table.named "dbo" "Orders",
    [.groupBy "o" [⟨"o", "Region"⟩] [], .take 5, .aggregate .sum "o" "Total"]⟩

/-- The statement gives all regions, and no totals. -/
theorem totals_of_regions_omitted :
    ∃ compiled body order, (ofNames answeringAnn).compile totalsOfRegions = .ok compiled ∧
      compiled.rendered.text
        = "SELECT [o].[Region] AS [Region] FROM [dbo].[Orders] AS [o] GROUP BY [o].[Region]" ∧
      compiled.flat.take = some 5 ∧
      compiled.rendered.text ≠ Dialect.brackets.text
        (compiled.flat.limited (compiled.flat.skip, compiled.flat.take)
          (separated ", " (compiled.flat.resultItems .brackets compiled.flat.projectionColumns))
          body order) ∧
      ¬ ∃ item ∈ compiled.flat.resultItems .brackets compiled.flat.projectionColumns,
        compiled.flat.Computes item ⟨.sum, "o", "Total"⟩ := by
  have hfacts : ((ofNames answeringAnn).compile totalsOfRegions).map (fun compiled =>
      (compiled.rendered.text, compiled.flat.take, compiled.flat.isGrouped,
        compiled.flat.grouping.flatMap GroupingEntry.aggregates))
      = .ok ("SELECT [o].[Region] AS [Region] FROM [dbo].[Orders] AS [o] GROUP BY [o].[Region]",
        some 5, true, []) := by decide +kernel
  obtain ⟨compiled, hcompile, hcompiled⟩ := Action.map_eq_ok_iff.1 hfacts
  simp only [Prod.mk.injEq] at hcompiled
  obtain ⟨htext, htake, hgrouped, haggregates⟩ := hcompiled
  have hterms : totalsOfRegions.operators.filterMap aggregated? = [⟨.sum, "o", "Total"⟩] := rfl
  obtain ⟨body, order, -, -, -, hlimited, hlisted⟩ := nothing_omitted_iff hcompile rfl
  rw [hterms] at hlimited hlisted
  refine ⟨compiled, body, order, hcompile, htext, htake, fun hsame => ?_, fun hitem => ?_⟩
  · rcases hlimited.1 hsame with ⟨-, hnone⟩ | hnone
    · cases hnone.symm.trans htake
    · cases hnone
  · rcases hlisted.1 (List.forall_mem_singleton.2 hitem) with hnone | ⟨-, hplain | hgroups⟩
    · cases hnone
    · cases hplain.symm.trans hgrouped
    · obtain ⟨aggregate, hmem, -⟩ := hgroups _ List.mem_cons_self
      rw [haggregates] at hmem
      cases hmem

end Context

end Orm
