import Orm.Proofs.Context.Compilation
import Orm.Proofs.Query.Places
import Orm.Proofs.Sql.Body

/-!
# The columns that a query selects

A query that gives rows reads the columns that its select expressions use, each once. They are
gathered one use after the other, and `Gathers.run` says what is gathered: under each alias the
columns that are used, in the order of their first uses. So `selected_in_order` can say which
columns a statement reads, in which order and under which aliases, from the places at which the
select expressions read them.
-/

namespace Orm

open QueryOperator

/-- A column after its alias was given a new name. -/
def ColumnRef.renamed (previous current : String) (ref : ColumnRef) : ColumnRef :=
  if ref.aliasName = previous then ⟨current, ref.column⟩ else ref

/-- The column that the select expressions of a query read at a place. -/
def Query.selectedAt (query : Query) : List Nat → Option ColumnRef :=
  readInside ((query.operators.filterMap selected?).map Expr.columnAt)

/-- Columns are listed once each, in the order of their aliases, and those of an alias in the order
in which they are first read. -/
structure ListedOnce (reads : List Nat → Option ColumnRef) (columns : List ColumnRef) : Prop where
  mem_iff : ∀ {column}, column ∈ columns ↔ ∃ place, reads place = some column
  nodup : columns.Nodup
  ascending : columns.Pairwise fun first second => first.aliasName < second.aliasName ∨
    first.aliasName = second.aliasName ∧ ReadBefore reads first second

/-- Nothing is listed if nothing is read. -/
theorem ListedOnce.eq_nil_iff {reads : List Nat → Option ColumnRef} {columns : List ColumnRef}
    (h : ListedOnce reads columns) : columns = [] ↔ ∀ place, reads place = none := by
  rw [List.eq_nil_iff_forall_not_mem]
  simp only [h.mem_iff, not_exists, Option.eq_none_iff_forall_ne_some, ne_eq]
  exact forall_comm

/-- One of some columns in a result: with columns of several aliases it has that of its own in its
name. -/
def ColumnRef.output (columns : List ColumnRef) (ref : ColumnRef) : OutputColumn :=
  ⟨ref.aliasName, ref.column,
    if ∃ other ∈ columns, other.aliasName ≠ ref.aliasName then ref.aliasName ++ "." ++ ref.column
    else ref.column⟩

/-! ## Gathering -/

namespace FlatQuery

variable {flat : FlatQuery}

/-- A map has the columns that are used, under their aliases and in the order of their first
uses. -/
structure Gathers (known : NameMap (List String)) (uses : List ColumnRef) : Prop where
  mem_iff : ∀ {aliasName column},
    column ∈ (known.find? aliasName).getD [] ↔ ⟨aliasName, column⟩ ∈ uses
  ordered : ∀ aliasName, ((known.find? aliasName).getD []).Pairwise fun first second =>
    OccursBefore uses ⟨aliasName, first⟩ ⟨aliasName, second⟩

/-- A column under the alias that it has in the statement. -/
def rendered (flat : FlatQuery) (ref : ColumnRef) : ColumnRef :=
  ⟨flat.resolve ref.aliasName, ref.column⟩

/-- One more use adds its column to those of its alias unless it is there. -/
theorem find_add_projection (flat : FlatQuery) (known : NameMap (List String)) (ref : ColumnRef)
    (aliasName : String) :
    ((flat.addProjection known ref).find? aliasName).getD [] =
      if aliasName = flat.resolve ref.aliasName ∧
          ref.column ∉ (known.find? aliasName).getD [] then
        (known.find? aliasName).getD [] ++ [ref.column]
      else (known.find? aliasName).getD [] := by
  rw [addProjection, NameMap.find?_insert]
  by_cases hsame : aliasName = flat.resolve ref.aliasName
  · subst hsame
    by_cases hknown : ref.column ∈ (known.find? (flat.resolve ref.aliasName)).getD []
    · simp [hknown]
    · simp [hknown]
  · simp [hsame]

/-- One more use is gathered. -/
theorem Gathers.step {known : NameMap (List String)} {uses : List ColumnRef}
    (h : Gathers known uses) (flat : FlatQuery) (ref : ColumnRef) :
    Gathers (flat.addProjection known ref) (uses ++ [flat.rendered ref]) where
  mem_iff := fun {aliasName column} => by
    rw [find_add_projection, List.mem_append, ← h.mem_iff]
    split
    · next hnew =>
      obtain ⟨rfl, -⟩ := hnew
      simp [rendered]
    · next hold =>
      -- The column of the use is one of those of its alias.
      refine (or_iff_left_of_imp fun hused => ?_).symm
      cases List.mem_singleton.1 hused
      exact not_not.1 fun hfresh => hold ⟨rfl, hfresh⟩
  ordered := fun aliasName => by
    have hordered := (h.ordered aliasName).imp fun hbefore => hbefore.append [flat.rendered ref]
    rw [find_add_projection]
    split
    · next hnew =>
      refine List.pairwise_append.2 ⟨hordered, List.pairwise_singleton _ _, ?_⟩
      intro first hfirst second hsecond
      rw [List.mem_singleton.1 hsecond]
      exact .of_mem (h.mem_iff.1 hfirst) (fun hmem => hnew.2 (h.mem_iff.2 hmem)) _
    · exact hordered

/-- All uses are gathered. -/
theorem Gathers.run {known : NameMap (List String)} {uses : List ColumnRef}
    (h : Gathers known uses) (flat : FlatQuery) (refs : List ColumnRef) :
    Gathers (refs.foldl flat.addProjection known) (uses ++ refs.map flat.rendered) := by
  induction refs generalizing known uses with
  | nil => simpa using h
  | cons ref rest ih =>
      rw [List.map_cons, List.append_cons]
      exact ih (h.step flat ref)

/-! ## Listing -/

/-- The column that the select expressions read at a place, under the alias that it has in the
statement. -/
def selectedAt (flat : FlatQuery) (place : List Nat) : Option ColumnRef :=
  (readInside (flat.projections.map Expr.columnAt) place).map flat.rendered

/-- The columns that are selected, one alias after the other. -/
def listed (flat : FlatQuery) : List ColumnRef :=
  flat.selectedColumns.map fun output => ⟨output.aliasName, output.column⟩

/-- The selected columns are gathered from what the select expressions read, place by place. -/
theorem gathers_selected (flat : FlatQuery) :
    ∃ uses, Traverses flat.selectedAt uses ∧
      Gathers flat.projectionColumns (uses.map ColumnUse.ref) := by
  have hreads := traverses_operands flat.projections fun expr _ => expr.traverses
  have hempty : Gathers NameMap.empty [] :=
    ⟨by simp [NameMap.find?_empty], fun _ => by simp [NameMap.find?_empty]⟩
  refine ⟨_, hreads.map flat.rendered, ?_⟩
  have hrun := hempty.run flat (flat.projections.flatMap Expr.columns)
  rw [flat_map_columns_eq] at hrun
  simpa [projectionColumns, flat_map_columns_eq, Function.comp_def] using hrun

/-- A column is listed if it is one of those of its alias. -/
theorem mem_listed_iff {ref : ColumnRef} : ref ∈ flat.listed ↔
    ∃ columns, flat.projectionColumns.find? ref.aliasName = some columns ∧
      ref.column ∈ columns := by
  rw [listed, List.mem_map]
  constructor
  · intro h
    obtain ⟨output, houtput, rfl⟩ := h
    exact (mem_selected_columns.1 houtput).1
  · intro h
    exact ⟨⟨ref.aliasName, ref.column, flat.selectedName ref.aliasName ref.column⟩,
      mem_selected_columns.2 ⟨h, rfl⟩, rfl⟩

/-- The listed columns are those that the select expressions read, each once and in order. -/
theorem listed_once (flat : FlatQuery) : ListedOnce flat.selectedAt flat.listed := by
  obtain ⟨uses, hreads, hgathers⟩ := flat.gathers_selected
  have hlisted : flat.listed
      = flat.projectionColumns.toList.flatMap fun entry => entry.2.map (.mk entry.1) := by
    rw [listed, selectedColumns, List.map_flatMap]
    simp only [List.map_map, Function.comp_def]
  have hascending : flat.listed.Pairwise fun first second => first.aliasName < second.aliasName ∨
      first.aliasName = second.aliasName ∧ ReadBefore flat.selectedAt first second := by
    rw [hlisted]
    refine List.pairwise_flatMap.2 ⟨fun entry hentry => List.pairwise_map.2 ?_, ?_⟩
    · have hordered := hgathers.ordered entry.1
      rw [NameMap.mem_to_list_iff.1 hentry] at hordered
      exact hordered.imp fun hbefore => .inr ⟨rfl, hreads.read_before hbefore⟩
    · refine flat.projectionColumns.ascending.imp fun hless first hfirst second hsecond => ?_
      obtain ⟨_, -, rfl⟩ := List.mem_map.1 hfirst
      obtain ⟨_, -, rfl⟩ := List.mem_map.1 hsecond
      exact .inl hless
  refine ⟨?_, hascending.imp fun {first second} hless hsame => ?_, hascending⟩
  · intro column
    rw [mem_listed_iff, ← hreads.mem_refs_iff, ← hgathers.mem_iff]
    cases flat.projectionColumns.find? column.aliasName <;> simp
  · rw [hsame] at hless
    rcases hless with hless | ⟨-, hbefore⟩
    · exact String.lt_irrefl _ hless
    · exact ReadBefore.irrefl hbefore

/-- The aliases of which columns are selected are those of the listed columns. -/
theorem mem_keys_iff {aliasName : String} : aliasName ∈ flat.projectionColumns.keys ↔
    ∃ ref ∈ flat.listed, ref.aliasName = aliasName := by
  constructor
  · intro h
    obtain ⟨⟨_, columns⟩, hentry, rfl⟩ := List.mem_map.1 h
    have hfound := NameMap.mem_to_list_iff.1 hentry
    obtain ⟨column, hcolumn⟩ := List.exists_mem_of_ne_nil _ (find_projection_columns hfound).2
    exact ⟨⟨_, column⟩, mem_listed_iff.2 ⟨columns, hfound, hcolumn⟩, rfl⟩
  · intro h
    obtain ⟨ref, href, rfl⟩ := h
    obtain ⟨columns, hfound, -⟩ := mem_listed_iff.1 href
    exact List.mem_map_of_mem (NameMap.mem_to_list_iff.2 hfound)

/-- Columns of more than one alias are selected if an alias other than that of a listed column is
listed too. -/
theorem one_lt_size_iff {ref : ColumnRef} (href : ref ∈ flat.listed) :
    1 < flat.projectionColumns.size ↔ ∃ other ∈ flat.listed, other.aliasName ≠ ref.aliasName := by
  have hsize : flat.projectionColumns.keys.length = flat.projectionColumns.size := List.length_map _
  rw [← hsize]
  constructor
  · intro hseveral
    by_contra hnone
    have honly : flat.projectionColumns.keys ⊆ [ref.aliasName] := by
      intro aliasName hmem
      obtain ⟨other, hother, rfl⟩ := mem_keys_iff.1 hmem
      exact List.mem_singleton.2 (not_not.1 fun hne => hnone ⟨other, hother, hne⟩)
    have hlength := flat.projectionColumns.nodup_keys.length_le_of_subset honly
    rw [List.length_singleton] at hlength
    omega
  · intro h
    obtain ⟨other, hother, hne⟩ := h
    have hboth : [other.aliasName, ref.aliasName] ⊆ flat.projectionColumns.keys := by
      intro aliasName hmem
      rcases List.mem_pair.1 hmem with rfl | rfl
      · exact mem_keys_iff.2 ⟨other, hother, rfl⟩
      · exact mem_keys_iff.2 ⟨ref, href, rfl⟩
    have hdistinct : [other.aliasName, ref.aliasName].Nodup := by simpa using hne
    exact hdistinct.length_le_of_subset hboth

/-- The selected columns are the listed ones, named by their aliases too if there are several. -/
theorem selected_columns_eq (flat : FlatQuery) :
    flat.selectedColumns = flat.listed.map (ColumnRef.output flat.listed) := by
  have hnamed : ∀ output ∈ flat.selectedColumns,
      ColumnRef.output flat.listed ⟨output.aliasName, output.column⟩ = output := by
    intro output houtput
    obtain ⟨hcolumn, hname⟩ := mem_selected_columns.1 houtput
    have hlisted : ⟨output.aliasName, output.column⟩ ∈ flat.listed := mem_listed_iff.2 hcolumn
    rw [selectedName] at hname
    simp only [one_lt_size_iff hlisted] at hname
    rw [ColumnRef.output, ← hname]
  calc flat.selectedColumns
      = flat.selectedColumns.map fun output =>
          ColumnRef.output flat.listed ⟨output.aliasName, output.column⟩ := by
        rw [List.map_congr_left hnamed, List.map_id']
    _ = (flat.selectedColumns.map fun output => ⟨output.aliasName, output.column⟩).map
          (ColumnRef.output flat.listed) := by rw [List.map_map]; rfl

/-- Columns are listed unless none is selected. -/
theorem row_list_eq (flat : FlatQuery) : flat.rowList =
    if flat.listed = [] then [.star flat.child.aliasName]
    else separated ", " (flat.listed.map fun ref => (ref.output flat.listed).pieces) := by
  have hempty : flat.projectionColumns.isEmpty = true ↔ flat.listed = [] := by
    rw [NameMap.isEmpty, List.isEmpty_iff]
    constructor
    · intro hnone
      rw [listed, selectedColumns, hnone, List.flatMap_nil, List.map_nil]
    · intro hnone
      refine List.eq_nil_iff_forall_not_mem.2 fun entry hentry => ?_
      obtain ⟨ref, href, -⟩ := mem_keys_iff.1 (List.mem_map_of_mem hentry)
      rw [hnone] at href
      cases href
  rw [rowList, resolve_child, selected_columns_eq, List.map_map]
  simp only [hempty]
  rfl

/-- All columns of the default occurrence are read only if none is listed. -/
theorem row_list_eq_star_iff :
    flat.rowList = [.star flat.child.aliasName] ↔ flat.listed = [] := by
  rw [row_list_eq]
  cases flat.listed with
  | nil => simp
  | cons first rest =>
      -- The list begins with the first column.
      cases rest <;> simp [separated, OutputColumn.pieces, List.intercalate_cons_cons]

end FlatQuery

namespace Context

variable {σ : Type} {context : Context σ} {query : Query} {compiled : CompiledQuery}

/-- What the select expressions of a compiled query read is what those of the query read, the base
table having the alias of the statement. -/
theorem selected_at_of_compile (hcompile : context.compile query = .ok compiled) :
    compiled.flat.selectedAt = fun place => (query.selectedAt place).map
      (.renamed query.baseAlias (compiled.flat.resolve query.baseAlias)) := by
  have hflat := flatten_of_compile hcompile
  have hbase : compiled.flat.base.aliasName = query.baseAlias :=
    congrArg TableOccurrence.aliasName (FlatQuery.base_of_flatten hflat)
  have hrendered : compiled.flat.rendered
      = .renamed query.baseAlias (compiled.flat.resolve query.baseAlias) := by
    funext ref
    rw [FlatQuery.rendered, ColumnRef.renamed]
    split
    · next hsame => rw [hsame]
    · next hother => rw [FlatQuery.resolve, hbase, if_neg hother]
  funext place
  rw [FlatQuery.selectedAt, Query.selectedAt, (FlatQuery.holds_of_flatten hflat).projections,
    hrendered]

/-- A query whose rows are neither grouped nor summed up, and counted only from outside, reads the
columns that occur anywhere in its select expressions: each once, under the alias that it has in
the clause of tables, where one given to the base table by a join replaces the one that it began
with; the aliases in their order and the columns of an alias in the order in which they are first
read. It reads all columns of its default occurrence if and only if no select expression has a
column. -/
theorem selected_in_order (hcompile : context.compile query = .ok compiled)
    (hgrouped : compiled.flat.isGrouped = false)
    (haggregates : compiled.flat.aggregates.isEmpty = true)
    (hcount : compiled.flat.count = true → compiled.flat.wrapsCount = true) :
    ∃ source columns list after,
      compiled.rendered.text = context.dialect.text
        (compiled.flat.opening context.dialect ++ list ++ ([SqlPiece.word " FROM ",
          SqlPiece.table query.baseTable, SqlPiece.word " AS ", SqlPiece.name source] ++ after)) ∧
      source = compiled.flat.resolve query.baseAlias ∧
      ListedOnce (fun place => (query.selectedAt place).map (.renamed query.baseAlias source))
        columns ∧
      (columns ≠ [] →
        list = separated ", " (columns.map fun ref => (ref.output columns).pieces)) ∧
      (list = [.star compiled.flat.child.aliasName] ↔ ∀ place, query.selectedAt place = none) := by
  obtain ⟨hflat, pieces, hpieces, hrendered⟩ := compile_eq_ok_iff.1 hcompile
  obtain ⟨list, body, order, hlist, hbody, -, rfl⟩ := FlatQuery.statement_eq_ok_iff.1 hpieces
  obtain ⟨after, rfl⟩ := FlatQuery.body_begins hbody
  have hselects : ¬ (compiled.flat.count = true ∧ (!compiled.flat.wrapsCount) = true) := by
    intro h
    rw [hcount h.1] at h
    exact absurd h.2 (by decide)
  rw [FlatQuery.resultList, if_neg hselects] at hlist
  obtain rfl := FlatQuery.select_list_eq hgrouped haggregates hlist
  have hlisted := compiled.flat.listed_once
  have hreads := selected_at_of_compile hcompile
  rw [hreads] at hlisted
  refine ⟨_, compiled.flat.listed, compiled.flat.rowList,
    after ++ compiled.flat.setPieces ++ order ++ compiled.flat.closing context.dialect,
    ?_, rfl, hlisted, fun hsome => ?_, ?_⟩
  · rw [hrendered]
    simp only [FlatQuery.baseText, FlatQuery.base_of_flatten hflat, List.append_assoc]
  · rw [FlatQuery.row_list_eq, if_neg hsome]
  · rw [FlatQuery.row_list_eq_star_iff, hlisted.eq_nil_iff]
    simp only [Option.map_eq_none_iff]

/-- The orders of the customers, counted by what is read of them: whether there are totals above the
names, the names again, and whether the customers have numbers. -/
def countedOrders : Query :=
  { ordersOfCustomers with
    operators := ordersOfCustomers.operators ++ [
      .select (.binary .gt (.column ⟨"o", "Total"⟩) (.column ⟨"customer", "Name"⟩)),
      .select (.column ⟨"c", "Name"⟩),
      .select (.isNull (.column ⟨"customer", "Id"⟩)), .distinct, .count] }

/-- The names are read once, under the alias that the join gives to the customers. -/
theorem counted_names_read_once :
    ∃ compiled columns, (ofNames answeringAnn).compile countedOrders = .ok compiled ∧
      compiled.rendered.text = "SELECT COUNT(*) FROM (SELECT DISTINCT [c].[Name] AS [c.Name], " ++
        "[c].[Id] AS [c.Id], [o].[Total] AS [o.Total] FROM [dbo].[Customers] AS [c] " ++
        "INNER JOIN [dbo].[Orders] AS [o] ON [c].[Id] = [o].[CustomerId] " ++
        "WHERE [c].[Name] IS NOT NULL) AS [counted]" ∧
      ListedOnce (fun place => (countedOrders.selectedAt place).map (.renamed "customer" "c"))
        columns ∧
      ⟨"c", "Name"⟩ ∈ columns ∧ ⟨"customer", "Name"⟩ ∉ columns := by
  have hfacts : ((ofNames answeringAnn).compile countedOrders).map (fun compiled =>
      (compiled.rendered.text, compiled.flat.isGrouped, compiled.flat.aggregates.isEmpty,
        compiled.flat.wrapsCount, compiled.flat.resolve "customer"))
      = .ok ("SELECT COUNT(*) FROM (SELECT DISTINCT [c].[Name] AS [c.Name], " ++
        "[c].[Id] AS [c.Id], [o].[Total] AS [o.Total] FROM [dbo].[Customers] AS [c] " ++
        "INNER JOIN [dbo].[Orders] AS [o] ON [c].[Id] = [o].[CustomerId] " ++
        "WHERE [c].[Name] IS NOT NULL) AS [counted]", false, true, true, "c") := by decide +kernel
  obtain ⟨compiled, hcompile, hcompiled⟩ := Action.map_eq_ok_iff.1 hfacts
  simp only [Prod.mk.injEq] at hcompiled
  obtain ⟨htext, hgrouped, haggregates, hwraps, hsource⟩ := hcompiled
  obtain ⟨source, columns, list, after, -, hresolved, hlisted, -, -⟩ :=
    selected_in_order hcompile hgrouped haggregates fun _ => hwraps
  obtain rfl : source = "c" := hresolved.trans hsource
  refine ⟨compiled, columns, hcompile, htext, hlisted, hlisted.mem_iff.2 ⟨[1], rfl⟩, fun hmem => ?_⟩
  -- No reference keeps the alias that was replaced.
  obtain ⟨place, hplace⟩ := hlisted.mem_iff.1 hmem
  obtain ⟨ref, -, href⟩ := Option.map_eq_some_iff.1 hplace
  rw [ColumnRef.renamed] at href
  split at href
  · have halias : "c" = "customer" := congrArg ColumnRef.aliasName href
    exact absurd halias (by decide)
  · next hother => exact hother (congrArg ColumnRef.aliasName href)

end Context

end Orm
