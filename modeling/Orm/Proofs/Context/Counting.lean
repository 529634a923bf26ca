import Orm.Proofs.Context.BoundValues
import Orm.Proofs.Query.LastOperator
import Orm.Proofs.Sql.Body

/-!
# Counting the rows of a query

A count stands in place of what a query reads, or in a statement around that of the query.
`count_around_iff` says which: a statement around it counts distinct rows and a part of the rows,
but not groups, for which a count in place gives the number of rows in each of them.
-/

namespace Orm

namespace FlatQuery

variable {plain : FlatQuery} {dialect : Dialect}

/-- The rows that a statement gives, counted by a statement around it. -/
def countedAround (inner : SqlPieces) : SqlPieces :=
  .word "SELECT COUNT(*) FROM (" :: inner ++ [.word ") AS ", .name "counted"]

/-- The rows of the tables and filters of a body, counted in place of being read. -/
def countedInPlace (body : SqlPieces) : SqlPieces :=
  [.word "SELECT", .word " ", .word "COUNT(*)"] ++ body

/-- A query that counts the rows of another. -/
def counted (flat : FlatQuery) : FlatQuery := { flat with count := true }

/-- The query that a statement around it counts: its rows are sorted only if a part of them is asked
for. -/
def unsorted (flat : FlatQuery) : FlatQuery :=
  { flat with ordering := if flat.isPaged then flat.ordering else [] }

/-- Whether each row that a query gives is one of its tables: it has no groups, nor conditions on
them. -/
def readsSingleRows (flat : FlatQuery) : Bool := !flat.isGrouped && flat.having.isEmpty

/-- The tables, filters and groups do not depend on the count and on the order. -/
theorem body_counted (base : TableOccurrence) :
    plain.counted.body dialect base = plain.body dialect base :=
  plain.body_ended dialect base plain.setOperation true plain.ordering

/-- The tables, filters and groups do not depend on the order. -/
theorem body_unsorted (base : TableOccurrence) :
    plain.unsorted.body dialect base = plain.body dialect base :=
  plain.body_ended dialect base plain.setOperation plain.count _

/-- Where a statement stands around another one, it has the clauses of that one. -/
theorem clauses_counted (hcount : plain.count = false)
    (hwraps : (plain.distinct || plain.isPaged) = true) :
    plain.counted.isScalar = plain.unsorted.isScalar ∧
      plain.counted.isOrdered = plain.unsorted.isOrdered ∧
      plain.counted.sortClause = plain.unsorted.sortClause ∧
      ∀ projection, plain.counted.resultList dialect projection
        = plain.unsorted.resultList dialect projection := by
  have hwrapped : plain.counted.wrapsCount = true := hwraps
  have hinner : plain.unsorted.wrapsCount = false := by
    simp only [wrapsCount, unsorted, hcount, Bool.false_and]
  have hscalar : plain.counted.isScalar = plain.unsorted.isScalar := by
    rw [isScalar, isScalar, hwrapped, hinner]
    simp [counted, unsorted, hcount]
  have hordered : plain.counted.isOrdered = plain.unsorted.isOrdered := by
    rw [isOrdered, isOrdered, hscalar, hwrapped, hinner]
    unfold counted unsorted isPaged
    dsimp only
    cases plain.skip.isSome || plain.take.isSome <;> simp
  refine ⟨hscalar, hordered, ?_, fun projection => ?_⟩
  · rw [sortClause, sortClause, hordered]
    split
    · next hsorted =>
      -- The rows of the inner statement are sorted only if a part of them is asked for.
      have hpaged : plain.isPaged = true := by
        by_contra hall
        simp [isOrdered, unsorted, hall] at hsorted
      rw [show plain.unsorted = plain by rw [unsorted, if_pos hpaged]]
      rfl
    · rfl
  · rw [resultList, resultList, if_neg (by simp [hwrapped]), if_neg (by simp [unsorted, hcount])]
    rfl

/-- Distinct rows and a part of the rows are counted by a statement around theirs. -/
theorem statement_counted_around (hcount : plain.count = false)
    (hset : plain.setOperation = none) (hwraps : (plain.distinct || plain.isPaged) = true)
    (base : TableOccurrence) (projection : NameMap (List String)) :
    plain.counted.statement dialect base projection
      = (plain.unsorted.statement dialect base projection).map countedAround := by
  obtain ⟨hscalar, hordered, hsorted, hlist⟩ := @clauses_counted plain dialect hcount hwraps
  have hwrapped : plain.counted.wrapsCount = true := hwraps
  have hinner : plain.unsorted.wrapsCount = false := by
    simp only [wrapsCount, unsorted, hcount, Bool.false_and]
  have hopening : plain.counted.opening dialect
      = .word "SELECT COUNT(*) FROM (" :: plain.unsorted.opening dialect := by
    rw [opening, opening, hwrapped, hinner, hscalar]
    rfl
  have hclosing : plain.counted.closing dialect
      = plain.unsorted.closing dialect ++ [SqlPiece.word ") AS ", .name "counted"] := by
    rw [closing, closing, hwrapped, hinner, hscalar, hordered]
    simp [counted, unsorted]
  rw [statement_eq_body, statement_eq_body, hlist, body_counted, body_unsorted, hsorted, hopening,
    hclosing]
  have hpieces : plain.counted.setPieces = [] ∧ plain.unsorted.setPieces = [] := by
    simp only [setPieces, counted, unsorted, hset, and_self]
  rw [hpieces.1, hpieces.2]
  cases plain.unsorted.resultList dialect projection with
  | error error => rfl
  | ok list =>
  cases plain.body dialect base with
  | error error => rfl
  | ok body =>
  cases plain.unsorted.sortClause with
  | error error => rfl
  | ok order =>
  refine congrArg Except.ok ?_
  simp [countedAround, List.append_assoc]

/-- All rows are counted in place of being read. -/
theorem statement_counted_in_place (hset : plain.setOperation = none)
    (hwraps : (plain.distinct || plain.isPaged) = false) (base : TableOccurrence)
    (projection : NameMap (List String)) :
    plain.counted.statement dialect base projection
      = (plain.body dialect base).map countedInPlace := by
  have hwrapped : plain.counted.wrapsCount = false := hwraps
  have hscalar : plain.counted.isScalar = true := by
    rw [isScalar, hwrapped]
    rfl
  have hlist : plain.counted.resultList dialect projection = .ok [.word "COUNT(*)"] := by
    rw [resultList, if_pos ⟨rfl, by simp [hwrapped]⟩]
  have hsorted : plain.counted.sortClause = .ok [] := by
    rw [sortClause, if_neg (by simp [isOrdered, hscalar])]
  have hopening : plain.counted.opening dialect = [.word "SELECT", .word " "] := by
    rw [opening, hwrapped, hscalar]
    simp [counted, (Bool.or_eq_false_iff.1 hwraps).1, blankBefore]
  have hclosing : plain.counted.closing dialect = [] := by
    rw [closing, hwrapped, hscalar]
    rfl
  have hpieces : plain.counted.setPieces = [] := by
    simp only [setPieces, counted, hset]
  rw [statement_eq_body, hlist, body_counted, hsorted, hopening, hclosing, hpieces]
  cases plain.body dialect base with
  | error error => rfl
  | ok body =>
  refine congrArg Except.ok ?_
  simp [countedInPlace]

/-- A statement has a body, and without its order it is a statement too. -/
theorem statement_unsorted {base : TableOccurrence} {projection : NameMap (List String)}
    {pieces : SqlPieces} (h : plain.statement dialect base projection = .ok pieces) :
    ∃ body inner, plain.body dialect base = .ok body ∧
      plain.unsorted.statement dialect base projection = .ok inner := by
  by_cases hpaged : plain.isPaged = true
  · obtain ⟨-, body, -, -, hbody, -, -⟩ := statement_eq_ok_iff.1 h
    rw [show plain.unsorted = plain by rw [unsorted, if_pos hpaged]]
    exact ⟨body, pieces, hbody, h⟩
  · obtain ⟨list, body, -, hlist, hbody, -, -⟩ := statement_eq_ok_iff.1 h
    have hsorted : plain.unsorted.sortClause = .ok [] := by
      rw [sortClause, if_neg (by simp [isOrdered, unsorted, hpaged])]
    have hsame : plain.unsorted.body dialect base = .ok body := by rw [body_unsorted, hbody]
    exact ⟨body, _, hbody, statement_eq_ok_iff.2 ⟨list, body, [], hlist, hsame, hsorted, rfl⟩⟩

end FlatQuery

namespace Context

open FlatQuery

variable {σ : Type} {context : Context σ} {query : Query} {plain : CompiledQuery}

/-- The rows of a compiled query that is neither counted nor combined can be counted, with the same
parameters. The count stands around the statement of the query if its rows are distinct or a part of
all, and in place of what it reads otherwise. The form that counts the rows, which is in place of
what is read only for single rows of the tables, is the one that is written if and only if the rows
are distinct, a part of all, or single rows of the tables. -/
theorem count_around_iff (hcompile : context.compile query = .ok plain)
    (hcount : plain.flat.count = false) (hset : plain.flat.setOperation = none) :
    ∃ counted body inner pieces, context.compile (query.apply .count) = .ok counted ∧
      plain.flat.body context.dialect plain.flat.base = .ok body ∧
      plain.flat.unsorted.statement context.dialect plain.flat.base plain.flat.projectionColumns
        = .ok inner ∧
      counted.rendered.text = context.dialect.text pieces ∧
      counted.rendered.params = plain.rendered.params ∧
      pieces = (if plain.flat.distinct || plain.flat.isPaged then countedAround inner
        else countedInPlace body) ∧
      ((pieces = if plain.flat.distinct || plain.flat.isPaged || !plain.flat.readsSingleRows
          then countedAround inner else countedInPlace body) ↔
        (plain.flat.distinct || plain.flat.isPaged || plain.flat.readsSingleRows) = true) := by
  obtain ⟨hflat, whole, hwhole, hrendered⟩ := compile_eq_ok_iff.1 hcompile
  obtain ⟨body, inner, hbody, hinner⟩ := statement_unsorted hwhole
  have hstatement : plain.flat.counted.statement context.dialect plain.flat.base
      plain.flat.projectionColumns
      = .ok (if plain.flat.distinct || plain.flat.isPaged then countedAround inner
          else countedInPlace body) := by
    cases hwraps : plain.flat.distinct || plain.flat.isPaged with
    | true =>
        rw [statement_counted_around hcount hset hwraps, hinner]
        rfl
    | false =>
        rw [statement_counted_in_place hset hwraps, hbody]
        rfl
  have hcompiled : context.compile (query.apply .count) = .ok ⟨plain.flat.counted,
      context.dialect.text _, plain.flat.counted.params context.dialect⟩ :=
    compile_eq_ok_iff.2 ⟨Query.flatten_count hflat hcount hset, _, hstatement, rfl⟩
  refine ⟨_, body, inner, _, hcompiled, hbody, hinner, rfl, ?_, rfl, ?_⟩
  · rw [hrendered]
    rfl
  · have hother : countedInPlace body ≠ countedAround inner := by
      simp [countedInPlace, countedAround]
    cases plain.flat.distinct || plain.flat.isPaged <;>
      cases plain.flat.readsSingleRows <;> simp [hother]

/-- The names of customers. -/
def namesOfCustomers : Query :=
  ⟨"c", Table.named "dbo" "Customers", [.groupBy "c" [⟨"c", "Name"⟩] []]⟩

/-- The names of customers are not counted: the count stands in place of each name. -/
theorem count_in_place_of_names :
    let context := ofNames answeringAnn
    ∃ plain counted pieces inner, context.compile namesOfCustomers = .ok plain ∧
      plain.rendered.text
        = "SELECT [c].[Name] AS [Name] FROM [dbo].[Customers] AS [c] GROUP BY [c].[Name]" ∧
      plain.flat.readsSingleRows = false ∧
      context.compile (namesOfCustomers.apply .count) = .ok counted ∧
      counted.rendered.text
        = "SELECT COUNT(*) FROM [dbo].[Customers] AS [c] GROUP BY [c].[Name]" ∧
      counted.rendered.text = context.dialect.text pieces ∧
      plain.flat.unsorted.statement context.dialect plain.flat.base plain.flat.projectionColumns
        = .ok inner ∧
      pieces ≠ countedAround inner := by
  intro context
  have hplain : (context.compile namesOfCustomers).map (fun plain => (plain.rendered.text,
      plain.flat.count, plain.flat.setOperation, plain.flat.distinct || plain.flat.isPaged,
      plain.flat.readsSingleRows))
      = .ok ("SELECT [c].[Name] AS [Name] FROM [dbo].[Customers] AS [c] GROUP BY [c].[Name]",
        false, none, false, false) := by decide +kernel
  have hcount : (context.compile (namesOfCustomers.apply .count)).map
      (fun counted => counted.rendered.text)
      = .ok "SELECT COUNT(*) FROM [dbo].[Customers] AS [c] GROUP BY [c].[Name]" := by
    decide +kernel
  obtain ⟨plain, hcompile, hfields⟩ := Action.map_eq_ok_iff.1 hplain
  simp only [Prod.mk.injEq] at hfields
  obtain ⟨hread, hplainly, hset, hwraps, hgrouped⟩ := hfields
  obtain ⟨counted, body, inner, pieces, hcounted, -, hinner, htext, -, -, hiff⟩ :=
    count_around_iff hcompile hplainly hset
  have hshown : counted.rendered.text
      = "SELECT COUNT(*) FROM [dbo].[Customers] AS [c] GROUP BY [c].[Name]" := by
    rw [hcounted] at hcount
    exact Except.ok.inj hcount
  refine ⟨plain, counted, pieces, inner, hcompile, hread, hgrouped, hcounted, hshown, htext, hinner,
    ?_⟩
  rw [hwraps, hgrouped] at hiff
  exact fun haround => Bool.false_ne_true (hiff.1 haround)

end Context

end Orm
