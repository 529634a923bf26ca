import Orm.Proofs.Context.CarvedColumns
import Orm.Proofs.Context.Groups
import Orm.Proofs.Context.ResultTable

/-!
# Parts of joined rows

A part of a joined row is made when an alias is asked for the first time, and found again whenever
it is asked for later, with whatever table. `carved_parts_exact_iff` says what the parts of the rows
of a query are that selects columns of several aliases, and for which aliases they have exactly the
columns of the alias.
-/

namespace Orm

open OutputColumn

/-- If columns of several aliases are selected, then each has its alias in its name, and they come
in the order of the aliases. -/
theorem FlatQuery.qualified_selected_columns {flat : FlatQuery}
    (hseveral : 1 < flat.projectionColumns.size) : Qualified flat.selectedColumns := by
  constructor
  · intro output houtput
    obtain ⟨-, hname⟩ := mem_selected_columns.1 houtput
    rw [hname, selectedName, if_pos hseveral]
  · rw [selectedColumns, List.pairwise_flatMap]
    constructor
    · rintro ⟨aliasName, columns⟩ -
      rw [List.pairwise_map]
      exact List.pairwise_of_forall fun _ _ => String.le_refl aliasName
    · refine flat.projectionColumns.ascending.imp fun hless => ?_
      intro first hfirst second hsecond
      obtain ⟨_, -, rfl⟩ := List.mem_map.1 hfirst
      obtain ⟨_, -, rfl⟩ := List.mem_map.1 hsecond
      exact Std.le_of_lt hless

/-- A part of a row is a row of a table with some values, and was not changed yet. -/
structure Entity.IsPart (part : Entity) (table : Table) (values : NameMap Value) : Prop where
  table : part.table = table
  values : part.values = values
  state : part.state = .unchanged

namespace Workspace

variable {σ : Type} {workspace : Workspace σ} {id : EntityId} {row : Entity} {aliasName : String}
  {table : Table}

/-! ## One part -/

/-- To ask the owner of an entity for columns leaves the entities as they are. -/
theorem store_columns_for (id : EntityId) (table : Table) :
    (columnsFor id table workspace).2.store = workspace.store := by
  simp only [columnsFor, Action.bind_apply, Action.get_apply]
  cases workspace.ownerOf? id with
  | none => rfl
  | some found =>
      obtain ⟨ownerId, -⟩ := found
      simp only [Action.bind_apply, Action.pure_apply, act]
      cases workspace.owner? ownerId with
      | none => rfl
      | some owner =>
          show (owner.columns table (workspace.desk owner)).2.tracked.store = workspace.store
          unfold Owner.columns
          cases owner.kind with
          | bare owner => rfl
          | context context =>
              simp only [Action.bind_apply]
              cases (context.columns table (workspace.desk owner)).1 with
              | error failure => rfl
              | ok columns => rfl

/-- A part that was made is found again, whatever the table. -/
theorem carve_of_known (hrow : workspace.store.get? id = some row) {part : EntityId}
    (hknown : row.aliases.find? aliasName = some part) (table : Table) :
    carve id aliasName table workspace = (some part, workspace) := by
  simp only [carve, Action.bind_apply, Action.get_apply, hrow, hknown, Action.pure_apply]

/-- A part that is asked for the first time is made and kept with the row. -/
theorem carve_of_new (hrow : workspace.store.get? id = some row)
    (hnew : row.aliases.find? aliasName = none) (table : Table) :
    ∃ columns part store,
      workspace.store.add (row.carved aliasName table columns) = (part, store) ∧
      (carve id aliasName table workspace).1 = some part ∧
      (carve id aliasName table workspace).2.store = store.modify id fun row =>
        { row with aliases := row.aliases.insert aliasName part } := by
  simp only [carve, Action.bind_apply, Action.get_apply, hrow, hnew, Action.pure_apply]
  refine ⟨(columnsFor id table workspace).1, _, _, ?_, rfl, rfl⟩
  rw [← store_columns_for id table]
  rfl

/-! ## Parts after some requests -/

/-- Carves parts out of a row, one after the other, for requests of an alias and a table. -/
def carveAll (id : EntityId) (requests : List (String × Table)) :
    StateM (Workspace σ) (List (Option EntityId)) :=
  requests.mapM fun request => carve id request.1 request.2

/-- What stands in the store after some requests: a row with its cells, and apart from it and from
each other a part for each alias that was asked for, of the table that was named first. -/
structure Carved (outputs : List OutputColumn) (cells : List Value) (id : EntityId)
    (requests : List (String × Table)) (store : EntityStore) (row : Entity) : Prop where
  found : store.get? id = some row
  values : row.values = named outputs cells
  unknown : ∀ aliasName, row.aliases.find? aliasName = none → requests.lookup aliasName = none
  known : ∀ aliasName part, row.aliases.find? aliasName = some part →
    part ≠ id ∧ ∃ table entity, requests.lookup aliasName = some table ∧
      store.get? part = some entity ∧ entity.IsPart table (carved outputs cells aliasName)
  distinct : ∀ aliasName other part, row.aliases.find? aliasName = some part →
    row.aliases.find? other = some part → aliasName = other

variable {outputs : List OutputColumn} {cells : List Value} {requests : List (String × Table)}

/-- Of one more request only the alias counts, and only if it is a new one. -/
theorem lookup_concat (requests : List (String × Table)) (aliasName other : String)
    (table : Table) :
    (requests ++ [(aliasName, table)]).lookup other
      = (requests.lookup other).or (if other = aliasName then some table else none) := by
  rw [List.lookup_append, List.lookup_cons, List.lookup_nil]
  by_cases hsame : other = aliasName
  · rw [if_pos hsame, beq_iff_eq.2 hsame]
  · rw [if_neg hsame, beq_false_of_ne hsame]

variable {store : EntityStore}

/-- A request of an alias that was asked for before changes nothing. -/
theorem Carved.again (h : Carved outputs cells id requests store row) {part : EntityId}
    (hasked : row.aliases.find? aliasName = some part) (table : Table) :
    Carved outputs cells id (requests ++ [(aliasName, table)]) store row := by
  refine ⟨h.found, h.values, fun other hother => ?_, fun other found hfound => ?_, h.distinct⟩
  · have hne : other ≠ aliasName := by
      rintro rfl
      cases hother.symm.trans hasked
    rw [lookup_concat, h.unknown other hother, if_neg hne]
    rfl
  · obtain ⟨hapart, first, entity, hfirst, hentity, hpart⟩ := h.known other found hfound
    exact ⟨hapart, first, entity, by rw [lookup_concat, hfirst]; rfl, hentity, hpart⟩

/-- A request of a new alias adds its part. -/
theorem Carved.first (h : Carved outputs cells id requests store row)
    (hasked : row.aliases.find? aliasName = none) (table : Table) (columns : ColumnMap) :
    let part := (store.add (row.carved aliasName table columns)).1
    Carved outputs cells id (requests ++ [(aliasName, table)])
      ((store.add (row.carved aliasName table columns)).2.modify id fun row =>
        { row with aliases := row.aliases.insert aliasName part })
      { row with aliases := row.aliases.insert aliasName part } := by
  intro part
  have hapart : ∀ {other entity}, store.get? other = some entity → other ≠ part := by
    rintro other entity hother rfl
    cases hother.symm.trans (store.get_add_fst _)
  have hknown : ∀ other found, row.aliases.find? other = some found → found ≠ part := by
    intro other found hfound
    obtain ⟨-, first, entity, -, hentity, -⟩ := h.known other found hfound
    exact hapart hentity
  have hid := hapart h.found
  refine ⟨?_, h.values, fun other hother => ?_, fun other found hfound => ?_,
    fun left right found hleft hright => ?_⟩
  · rw [EntityStore.get_modify_self, EntityStore.get_add, if_neg hid, h.found]
    rfl
  · rw [NameMap.find?_insert] at hother
    split at hother
    · cases hother
    · next hne =>
      rw [lookup_concat, h.unknown other hother, if_neg hne]
      rfl
  · rw [NameMap.find?_insert] at hfound
    split at hfound
    · next hsame =>
      obtain rfl := Option.some.inj hfound
      refine ⟨hid.symm, table, row.carved aliasName table columns, ?_, ?_, ?_⟩
      · rw [lookup_concat, hsame, h.unknown aliasName hasked, if_pos rfl]
        rfl
      · rw [EntityStore.get_modify_of_ne _ hid, EntityStore.get_add, if_pos rfl]
      · refine ⟨rfl, ?_, rfl⟩
        rw [carved, hsame, ← h.values]
        rfl
    · obtain ⟨hother, first, entity, hfirst, hentity, hpart⟩ := h.known other found hfound
      refine ⟨hother, first, entity, by rw [lookup_concat, hfirst]; rfl, ?_, hpart⟩
      rw [EntityStore.get_modify_of_ne _ hother.symm, EntityStore.get_add,
        if_neg (hapart hentity), hentity]
  · rw [NameMap.find?_insert] at hleft hright
    split at hleft <;> split at hright
    · next hfirst hsecond => exact hfirst.trans hsecond.symm
    · exact absurd (Option.some.inj hleft).symm (hknown right found hright)
    · exact absurd (Option.some.inj hright).symm (hknown left found hleft)
    · exact h.distinct left right found hleft hright

/-- An alias that was asked for has a part. -/
theorem Carved.exists_part (h : Carved outputs cells id requests store row) {first : Table}
    (hfirst : requests.lookup aliasName = some first) :
    ∃ part entity, row.aliases.find? aliasName = some part ∧ store.get? part = some entity ∧
      entity.IsPart first (carved outputs cells aliasName) := by
  cases hasked : row.aliases.find? aliasName with
  | none => cases hfirst.symm.trans (h.unknown aliasName hasked)
  | some part =>
      obtain ⟨-, table, entity, htable, hentity, hpart⟩ := h.known aliasName part hasked
      obtain rfl := Option.some.inj (hfirst.symm.trans htable)
      exact ⟨part, entity, rfl, hentity, hpart⟩

/-- One more request gives the part of its alias, and the parts from before stay. -/
theorem Carved.carve (h : Carved outputs cells id requests workspace.store row)
    (aliasName : String) (table : Table) :
    ∃ after, Carved outputs cells id (requests ++ [(aliasName, table)])
        (Workspace.carve id aliasName table workspace).2.store after ∧
      (Workspace.carve id aliasName table workspace).1 = after.aliases.find? aliasName ∧
      ∀ other part, row.aliases.find? other = some part →
        after.aliases.find? other = some part := by
  cases hasked : row.aliases.find? aliasName with
  | some part =>
      rw [carve_of_known h.found hasked]
      exact ⟨row, h.again hasked table, hasked.symm, fun _ _ hother => hother⟩
  | none =>
      obtain ⟨columns, part, store, hadd, hanswer, hstore⟩ :=
        carve_of_new h.found hasked table
      have hfirst := h.first hasked table columns
      rw [hadd] at hfirst
      rw [hanswer, hstore]
      refine ⟨_, hfirst, ?_, fun other found hother => ?_⟩
      · rw [NameMap.find?_insert, if_pos rfl]
      · have hne : other ≠ aliasName := by
          rintro rfl
          cases hother.symm.trans hasked
        rw [NameMap.find?_insert, if_neg hne, hother]

/-- The first of some requests is answered before the other ones. -/
theorem carve_all_cons (id : EntityId) (aliasName : String) (table : Table)
    (more : List (String × Table)) (workspace : Workspace σ) :
    let first := Workspace.carve id aliasName table workspace
    carveAll id ((aliasName, table) :: more) workspace
      = (first.1 :: (carveAll id more first.2).1, (carveAll id more first.2).2) := by
  rw [carveAll, List.mapM_cons]
  rfl

/-- However many requests follow, each gives the part of its alias as it stands at the end. -/
theorem Carved.carve_all (h : Carved outputs cells id requests workspace.store row)
    (more : List (String × Table)) :
    ∃ after, Carved outputs cells id (requests ++ more) (carveAll id more workspace).2.store after ∧
      (carveAll id more workspace).1
        = more.map (fun request => after.aliases.find? request.1) ∧
      ∀ other part, row.aliases.find? other = some part →
        after.aliases.find? other = some part := by
  induction more generalizing workspace requests row with
  | nil => exact ⟨row, by rwa [List.append_nil], rfl, fun _ _ hother => hother⟩
  | cons request more ih =>
      obtain ⟨aliasName, table⟩ := request
      obtain ⟨between, hbetween, hanswer, hkept⟩ := h.carve aliasName table
      obtain ⟨after, hafter, hanswers, hstill⟩ := ih hbetween
      rw [List.append_assoc, List.singleton_append] at hafter
      rw [carve_all_cons, hanswer, hanswers]
      refine ⟨after, hafter, ?_, fun other part hother =>
        hstill other part (hkept other part hother)⟩
      cases hasked : between.aliases.find? aliasName with
      | none =>
          have hlookup := hbetween.unknown aliasName hasked
          rw [lookup_concat, if_pos rfl] at hlookup
          simp at hlookup
      | some part => rw [List.map_cons, hstill aliasName part hasked]

/-- A row of a result, of which no part was made yet. -/
theorem carved_nil {columns : ColumnMap} {owner : Option OwnerId}
    (hrow : store.get? id = some (.materialized table columns owner
      ((outputs.map OutputColumn.name).zip cells))) :
    Carved outputs cells id [] store
      (.materialized table columns owner ((outputs.map OutputColumn.name).zip cells)) :=
  ⟨hrow, rfl, fun _ _ => rfl, nofun, nofun⟩

end Workspace

namespace Context

variable {σ : Type} {context : Context σ} {query : Query} {compiled : CompiledQuery}

/-- The rows that a query gives are the entities that store the cells of the answer under its names,
in the order of the answer. -/
theorem rows_of_execute_query (hcompile : context.compile query = .ok compiled)
    (hrows : compiled.flat.requireRows = .ok ()) {desk : Desk σ} {ids : List EntityId}
    (h : (context.executeQuery query desk).1 = .ok ids) :
    ∃ set columns around,
      (context.connection.execute compiled.rendered.command around).1 = .ok (.rows set) ∧
      List.Forall₂ (fun id cells =>
        (context.executeQuery query desk).2.tracked.store.get? id
          = some (.materialized compiled.resultTable columns (some context.owner)
            (set.columns.zip cells))) ids set.rows := by
  obtain ⟨set, columns, around, hanswer, hadded⟩ := execute_query_ok hcompile hrows h
  refine ⟨set, columns, around, hanswer, ?_⟩
  have hplaces := desk.tracked.store.get_add_all_in_order (set.records.map
    (Entity.materialized compiled.resultTable columns (some context.owner)))
  rw [hadded, List.forall₂_map_right_iff, ResultSet.records, List.forall₂_map_right_iff] at hplaces
  exact hplaces

/-- A query that selects columns of several aliases reads each under its alias and its name with a
dot between, and its rows are entities with the cells under the names of the answer. Whatever parts
of such a row are asked for, in any order and any number of times, each alias gets one part of its
own, which is a row of the table that was named for it first and has the cells of
`OutputColumn.carved`. These are the ones of the columns that were selected under the alias, in
every row, if and only if the alias is told apart from the other ones, as plain aliases are. -/
theorem carved_parts_exact_iff (hcompile : context.compile query = .ok compiled)
    (hrows : compiled.flat.requireRows = .ok ())
    (hseveral : 1 < compiled.flat.projectionColumns.size) :
    let outputs := compiled.flat.selectedColumns
    ((∃ after, compiled.rendered.text = context.dialect.text
        ([.word "SELECT"] ++ (if compiled.flat.distinct then [.word " DISTINCT"] else []) ++
          blankBefore (context.dialect.topClause compiled.flat.skip compiled.flat.take) ++
          [.word " "] ++ separated ", " (outputs.map OutputColumn.pieces) ++ after)) ∧
      ∀ output ∈ outputs, output.name = output.aliasName ++ "." ++ output.column) ∧
    (∀ (desk : Desk σ) (ids : List EntityId), (context.executeQuery query desk).1 = .ok ids →
      ∃ set columns around,
        (context.connection.execute compiled.rendered.command around).1 = .ok (.rows set) ∧
        List.Forall₂ (fun id cells =>
          (context.executeQuery query desk).2.tracked.store.get? id
            = some (.materialized compiled.resultTable columns (some context.owner)
              (set.columns.zip cells))) ids set.rows) ∧
    (∀ (workspace : Workspace σ) (id : EntityId) (table : Table) (columns : ColumnMap)
        (owner : Option OwnerId) (cells : List Value),
      workspace.store.get? id = some (.materialized table columns owner
        ((outputs.map OutputColumn.name).zip cells)) →
      ∀ requests : List (String × Table),
        let run := Workspace.carveAll id requests workspace
        ∃ parts : NameMap EntityId,
          run.1 = requests.map (fun request => parts.find? request.1) ∧
          (∀ aliasName other part, parts.find? aliasName = some part →
            parts.find? other = some part → aliasName = other) ∧
          ∀ aliasName first, requests.lookup aliasName = some first →
            ∃ part entity, parts.find? aliasName = some part ∧
              run.2.store.get? part = some entity ∧
              entity.IsPart first (carved outputs cells aliasName)) ∧
    (∀ aliasName, (∀ cells : List Value, cells.length = outputs.length →
        carved outputs cells aliasName = own outputs cells aliasName) ↔
      ToldApart outputs aliasName) ∧
    (PlainAliases outputs → ∀ output ∈ outputs, ToldApart outputs output.aliasName) := by
  intro outputs
  have hqualified : Qualified outputs := FlatQuery.qualified_selected_columns hseveral
  refine ⟨⟨?_, hqualified.names⟩, fun desk ids hids => rows_of_execute_query hcompile hrows hids,
    fun workspace id table columns owner cells hrow requests => ?_,
    fun aliasName => carved_eq_own_iff hqualified,
    fun hplain output houtput => hplain.told_apart hqualified ⟨output, houtput, rfl⟩⟩
  · have hsome : compiled.flat.projectionColumns.isEmpty ≠ true := by
      intro hempty
      simp [NameMap.isEmpty] at hempty
      simp [NameMap.size, hempty] at hseveral
    have hreads := compile_reads hcompile hrows
    rwa [FlatQuery.rowList, if_neg hsome] at hreads
  · obtain ⟨row, hcarved, hanswers, -⟩ := (Workspace.carved_nil hrow).carve_all requests
    exact ⟨row.aliases, hanswers, hcarved.distinct, fun _ _ hfirst => hcarved.exists_part hfirst⟩

/-- A workspace of a context in which a query was answered once. -/
def afterAnswer (query : Query) (set : ResultSet) : Workspace Unit :=
  (ofNames (answering set)).session [.read (.rows query)] (alone (ofNames (answering set)))

/-- The orders with the names of their customers. -/
def ordersWithCustomers : Query :=
  let customers := Table.named "dbo" "Customers"
  let orders := Table.named "dbo" "Orders"
  ⟨"o", orders, [
    .join "o" ⟨customers, ["Id"], orders, ["CustomerId"], false, .parents⟩ "c",
    .select (.column ⟨"o", "Id"⟩), .select (.column ⟨"c", "Name"⟩)]⟩

/-- The employees with the names of their managers. -/
def employeesWithManagers : Query :=
  let employees := Table.named "dbo" "Employees"
  ⟨"e", employees, [
    .join "e" ⟨employees, ["Id"], employees, ["ManagerId"], false, .parents⟩ "e_m",
    .select (.column ⟨"e", "Name"⟩), .select (.column ⟨"e_m", "Name"⟩)]⟩

/-- A row of an order and its customer has a part of each, however often they are asked for. -/
theorem customer_and_order_parted :
    let set : ResultSet := ⟨["c.Name", "o.Id"], [[.text "Ann", .int 5]]⟩
    let customers := Table.named "dbo" "Customers"
    let orders := Table.named "dbo" "Orders"
    let run := Workspace.carveAll ⟨0⟩ [("c", customers), ("o", orders), ("c", orders)]
      (afterAnswer ordersWithCustomers set)
    ∃ customer order first second, run.1 = [some customer, some order, some customer] ∧
      run.2.store.get? customer = some first ∧
      first.IsPart customers (.ofList [("Name", .text "Ann")]) ∧
      run.2.store.get? order = some second ∧ second.IsPart orders (.ofList [("Id", .int 5)]) := by
  intro set customers orders run
  have hfacts : ((ofNames (answering set)).compile ordersWithCustomers).map (fun compiled =>
      (compiled.flat.requireRows, compiled.flat.projectionColumns.size,
        compiled.flat.selectedColumns))
      = .ok (.ok (), 2, [⟨"c", "Name", "c.Name"⟩, ⟨"o", "Id", "o.Id"⟩]) := by decide +kernel
  obtain ⟨compiled, hcompile, hcompiled⟩ := Action.map_eq_ok_iff.1 hfacts
  simp only [Prod.mk.injEq] at hcompiled
  obtain ⟨hrows, hsize, houtputs⟩ := hcompiled
  obtain ⟨-, -, hparts, hexact, hplain⟩ :=
    carved_parts_exact_iff hcompile hrows (by rw [hsize]; decide)
  rw [houtputs] at hparts hexact hplain
  have hapart : PlainAliases [⟨"c", "Name", "c.Name"⟩, ⟨"o", "Id", "o.Id"⟩] := by decide +kernel
  obtain ⟨parts, hanswers, -, hfound⟩ := hparts (afterAnswer ordersWithCustomers set) ⟨0⟩ orders
    (.ofColumns (nameColumns.map CatalogColumn.column)) (some ⟨0⟩) [.text "Ann", .int 5]
    (by decide +kernel) [("c", customers), ("o", orders), ("c", orders)]
  obtain ⟨customer, first, hcustomer, hfirst, hc⟩ := hfound "c" customers (by decide)
  obtain ⟨order, second, horder, hsecond, ho⟩ := hfound "o" orders (by decide)
  have hname : own [⟨"c", "Name", "c.Name"⟩, ⟨"o", "Id", "o.Id"⟩] [.text "Ann", .int 5] "c"
      = .ofList [("Name", .text "Ann")] := by decide +kernel
  have hid : own [⟨"c", "Name", "c.Name"⟩, ⟨"o", "Id", "o.Id"⟩] [.text "Ann", .int 5] "o"
      = .ofList [("Id", .int 5)] := by decide +kernel
  rw [(hexact "c").2 (hplain hapart ⟨"c", "Name", "c.Name"⟩ (by decide)) _ rfl, hname] at hc
  rw [(hexact "o").2 (hplain hapart ⟨"o", "Id", "o.Id"⟩ (by decide)) _ rfl, hid] at ho
  simp only [run]
  exact ⟨customer, order, first, second, by simpa [hcustomer, horder] using hanswers, hfirst, hc,
    hsecond, ho⟩

/-- If the alias of the managers begins with that of the employees and an underscore, then the part
of an employee also gets the name of the manager. The part of the manager stays a row of the table
that was named first. -/
theorem manager_name_in_employee :
    let set : ResultSet := ⟨["e.Name", "e_m.Name"], [[.text "Ann", .text "Bob"]]⟩
    let employees := Table.named "dbo" "Employees"
    let outputs : List OutputColumn := [⟨"e", "Name", "e.Name"⟩, ⟨"e_m", "Name", "e_m.Name"⟩]
    let run := Workspace.carveAll ⟨0⟩
      [("e", employees), ("e_m", employees), ("e_m", Table.named "dbo" "Managers")]
      (afterAnswer employeesWithManagers set)
    ((ofNames (answering set)).compile employeesWithManagers).map (fun compiled =>
        (compiled.flat.requireRows, compiled.flat.selectedColumns)) = .ok (.ok (), outputs) ∧
      set.columns = outputs.map OutputColumn.name ∧ ¬ ToldApart outputs "e" ∧
      run.1 = [some ⟨1⟩, some ⟨2⟩, some ⟨2⟩] ∧
      (run.2.store.get? ⟨1⟩).map (fun part => (part.table, part.values.toList))
        = some (employees, [("Name", .text "Ann"), ("m.Name", .text "Bob")]) ∧
      (own outputs [.text "Ann", .text "Bob"] "e").toList = [("Name", .text "Ann")] ∧
      (run.2.store.get? ⟨2⟩).map (fun part => (part.table, part.values.toList))
        = some (employees, [("Name", .text "Bob")]) := by
  intro set employees outputs run
  exact ⟨by decide +kernel, rfl, by decide +kernel, by decide +kernel, by decide +kernel,
    by decide +kernel, by decide +kernel⟩

end Context

end Orm
