import Orm.Proofs.Context.Combination
import Orm.Proofs.Context.GroupedRow
import Orm.Proofs.Context.Reads

/-!
# The groups of a grouped query

Every row of the result becomes a group with the cells of the keys and, for each alias, an entity
with the cells of its output columns. `groups_read_first` says which cells are read: those under the
names of the keys, and for an aggregate that under the first output name with its words.
-/

namespace Orm

/-- The cell of a row at a place, null if the row ends before it. -/
def cellAt (row : List Value) (place : Nat) : Value := row[place]?.getD .null

/-- The cell of a row under the name of a column, null if it has none: of columns with one name the
last counts. -/
def cellUnder (columns : List String) (row : List Value) (name : String) : Value :=
  (NameMap.lookup name (columns.zip row).reverse).getD .null

/-- The value under a name among names and values is that at the place of the name. -/
theorem lookup_zip {names : List String} (h : names.Nodup) {place : Nat} {name : String}
    (hname : names[place]? = some name) (row : List Value) :
    NameMap.lookup name (names.zip row) = row[place]? := by
  induction names generalizing place row with
  | nil => cases hname
  | cons first rest ih =>
      obtain ⟨hfresh, hrest⟩ := List.nodup_cons.1 h
      cases row with
      | nil => rfl
      | cons value row =>
          cases place with
          | zero =>
              obtain rfl := Option.some.inj hname
              exact if_pos rfl
          | succ place =>
              have hother : first ≠ name := fun hsame =>
                hfresh (hsame ▸ List.mem_of_getElem? hname)
              rw [List.zip_cons_cons, NameMap.lookup, if_neg hother]
              exact ih hrest hname row

/-- Under distinct names, the cell of a name is that at its place. -/
theorem cell_under_eq_cell_at {names : List String} (h : names.Nodup) {place : Nat} {name : String}
    (hname : names[place]? = some name) (row : List Value) :
    cellUnder names row name = cellAt row place := by
  have hkeys : ((names.zip row).map Prod.fst).Nodup := by
    rw [List.zip_eq_zip_take_min, List.map_fst_zip (by simp)]
    exact h.sublist (List.take_sublist _ _)
  rw [cellUnder, NameMap.lookup_reverse hkeys, lookup_zip h hname, cellAt]

/-- Under distinct names, the cells of the output columns of a grouped query are in the order of its
keys and aggregates. -/
theorem GroupedLayout.cells_in_order {layout : GroupedLayout} (h : layout.names.Nodup)
    (row : List Value) :
    layout.keys.map (fun key => cellUnder layout.names row key.2)
        = (List.range layout.keys.length).map (cellAt row) ∧
      ∀ index aggregate name, layout.aggregates[index]? = some (aggregate, name) →
        cellUnder layout.names row name = cellAt row (layout.keys.length + index) := by
  constructor
  · refine List.ext_getElem (by simp) fun index hindex _ => ?_
    rw [List.getElem_map, List.getElem_map, List.getElem_range]
    rw [List.length_map] at hindex
    have hname : layout.names[index]? = some layout.keys[index].2 := by
      rw [names_eq, List.getElem?_append_left (by simpa using hindex), List.getElem?_map,
        List.getElem?_eq_getElem hindex]
      rfl
    exact cell_under_eq_cell_at h hname row
  · intro index aggregate name hitem
    refine cell_under_eq_cell_at h ?_ row
    rw [names_eq, List.getElem?_append_right (by simp)]
    simp [hitem]

namespace Context

/-- The cell of a row under a name is the last one of it. -/
theorem cell_zip (columns : List String) (row : List Value) (name : String) :
    cell (columns.zip row) name = cellUnder columns row name := by
  rw [cell, NameMap.find_of_list, cellUnder]

variable {σ : Type} {context : Context σ} {query : Query} {compiled : CompiledQuery}

/-- The groups of some rows have the cells of the keys, and entities with those of the output
columns of each alias. -/
theorem materialize_groups_hold (context : Context σ) (flat : FlatQuery)
    (records : List (List (String × Value))) (desk : Desk σ) :
    List.Forall₂ (fun record group =>
        group.key = (GroupedLayout.of flat).keys.map (fun key => cell record key.2) ∧
        HoldOutputs (GroupedLayout.of flat)
          (context.materializeGroups flat records desk).2.tracked.store (cell record) group.rows
          (GroupedLayout.of flat).aliases)
      records (context.materializeGroups flat records desk).1 := by
  induction records generalizing desk with
  | nil => exact .nil
  | cons record rest ih =>
      let layout := GroupedLayout.of flat
      let rows := layout.aliases.map
        (context.groupEntity flat desk.around.cache layout record)
      let next : Desk σ := (Desk.addAll rows desk).2
      have hsteps : context.materializeGroups flat (record :: rest) desk
          = (⟨layout.keys.map fun key => cell record key.2, (desk.tracked.store.addAll rows).1⟩ ::
              (context.materializeGroups flat rest next).1,
            (context.materializeGroups flat rest next).2) := rfl
      rw [hsteps]
      refine .cons ⟨rfl, ?_⟩ (ih next)
      -- The entities of the first group stay when those of the others are added.
      obtain ⟨more, -, htracked⟩ := context.only_reads_groups flat rest next
      rw [htracked]
      refine (List.forall₂_map_right_iff.1 (desk.tracked.store.get_add_all_in_order rows)).imp ?_
      intro id aliasName hget
      exact ⟨_, EntityStore.get_add_all_of_get hget more, rfl⟩

/-- What a grouped query gives if the database answers with rows: their groups. -/
theorem execute_grouped_ok (hcompile : context.compile query = .ok compiled)
    (hgrouped : compiled.flat.isGrouped = true) {desk : Desk σ} {set : ResultSet}
    (hsent : (context.send compiled.rendered.command desk).1 = .ok (.rows set)) :
    context.executeGrouped query desk = (do
      return .ok (← context.materializeGroups compiled.flat set.records) :
        StateM (Desk σ) (Except Failure (List GroupedRow)))
      (context.send compiled.rendered.command desk).2 := by
  simp only [executeGrouped, hcompile, hgrouped, Bool.not_true, Bool.false_eq_true, if_false,
    Action.bind_apply, hsent, CommandResult.expectRows]

/-- The database answers a grouped query with a result that has the output columns. Then each row
becomes a group. Its key has the cells of the keys in their order. An aggregate of a column, read as
any type, is read from the cell of the first output column with its words in the name, by the order
of the aliases and then of the names. There is one for each aggregate of the query, and it has the
name of the aggregate's own column if no other name has the words. If the names are distinct, the
cells of the keys and aggregates are in their order. -/
theorem groups_read_first (hcompile : context.compile query = .ok compiled)
    (hgrouped : compiled.flat.isGrouped = true) {desk : Desk σ} {set : ResultSet}
    (hsent : (context.send compiled.rendered.command desk).1 = .ok (.rows set))
    (hcolumns : set.columns = (GroupedLayout.of compiled.flat).names) :
    let layout := GroupedLayout.of compiled.flat
    let done := context.executeGrouped query desk
    (∃ groups, done.1 = .ok groups ∧ List.Forall₂ (fun row group =>
        group.key = layout.keys.map (fun key => cellUnder layout.names row key.2) ∧
        ∀ op column aliasName name, layout.First op column aliasName name →
          ∀ (α : Type) [Readable α], group.aggregate done.2.tracked.store op column
            = (readAggregate (cellUnder layout.names row name) : Except AggregateError α))
        set.rows groups) ∧
      (∀ item ∈ layout.aggregates, ∃ aliasName first,
        layout.First item.1.op item.1.ref.column aliasName first ∧
        ((∀ other ∈ layout.names,
            GroupedRow.holdsAggregate item.1.op item.1.ref.column other = true →
              other = item.2) → first = item.2)) ∧
      (layout.names.Nodup → ∀ row,
        layout.keys.map (fun key => cellUnder layout.names row key.2)
            = (List.range layout.keys.length).map (cellAt row) ∧
          ∀ index aggregate name, layout.aggregates[index]? = some (aggregate, name) →
            cellUnder layout.names row name = cellAt row (layout.keys.length + index)) := by
  intro layout done
  have hrecords : set.records = set.rows.map layout.names.zip := by
    rw [ResultSet.records, hcolumns]
  have hdone := execute_grouped_ok hcompile hgrouped hsent
  rw [hrecords] at hdone
  refine ⟨⟨_, congrArg Prod.fst hdone, ?_⟩, ?_, fun hnodup => GroupedLayout.cells_in_order hnodup⟩
  · have hgroups := materialize_groups_hold context compiled.flat
      (set.rows.map layout.names.zip) (context.send compiled.rendered.command desk).2
    have hstore : done.2 = _ := congrArg Prod.snd hdone
    refine (List.forall₂_map_left_iff.1 hgroups).imp fun row group hgroup => ⟨?_, ?_⟩
    · rw [hgroup.1]
      simp only [cell_zip]
      rfl
    · intro op column aliasName name hfirst α _
      rw [hstore]
      refine (aggregate_of_first hgroup.2 hfirst).trans ?_
      rw [cell_zip]
  · intro item hitem
    have hmem : (item.1.ref.aliasName, item.2) ∈ layout.outputs :=
      List.mem_append_right _ (List.mem_map_of_mem hitem)
    have hholds : GroupedRow.holdsAggregate item.1.op item.1.ref.column item.2 = true := by
      obtain ⟨own, -, hown⟩ := List.mem_map.1 hitem
      rw [← hown]
      exact holds_own_words _ _ _
    obtain ⟨aliasName, first, hfirst⟩ := GroupedLayout.exists_first hmem hholds
    refine ⟨aliasName, first, hfirst, fun honly => honly first ?_ hfirst.holds⟩
    exact List.mem_map_of_mem (GroupedLayout.mem_names_of_iff.1 hfirst.named)

/-- A connection that answers every command with the same rows. -/
def answering (set : ResultSet) : Connection Unit where
  start := fun _ => return .ok ()
  execute := fun _ => return .ok (.rows set)
  commit := return .ok ()
  rollback := return .ok ()

/-- Sums of columns of the orders of each region. -/
def sumsByRegion (columns : List String) : Query :=
  ⟨"o", Table.named "dbo" "Orders",
    [.groupBy "o" [⟨"o", "Region"⟩] (columns.map fun column => ⟨.sum, ⟨"o", column⟩⟩)]⟩

/-- The sum for a region is read from its own output column. -/
theorem sum_of_region :
    let context := ofNames (answering ⟨["Region", "SUM_Total"], [[.text "North", .int 5]]⟩)
    let desk := (alone context).desk (.fresh (.context context) .empty)
    let done := context.executeGrouped (sumsByRegion ["Total"]) desk
    ∃ group, done.1 = .ok [group] ∧ group.key = [.text "North"] ∧
      group.aggregate done.2.tracked.store .sum "Total"
        = (.ok 5 : Except AggregateError Int64) := by
  intro context desk done
  have hfacts : (context.compile (sumsByRegion ["Total"])).map (fun compiled =>
      (compiled.flat.isGrouped, GroupedLayout.of compiled.flat)) = .ok (true,
        ⟨[(⟨"o", "Region"⟩, "Region")], [(⟨.sum, ⟨"o", "Total"⟩⟩, "SUM_Total")]⟩) := by
    decide +kernel
  obtain ⟨compiled, hcompile, hfields⟩ := Action.map_eq_ok_iff.1 hfacts
  obtain ⟨hgrouped, hlayout⟩ := Prod.mk.inj hfields
  have hsent : (context.send compiled.rendered.command desk).1
      = .ok (.rows ⟨["Region", "SUM_Total"], [[.text "North", .int 5]]⟩) := rfl
  obtain ⟨⟨groups, hdone, hgroups⟩, hown, hplaces⟩ := groups_read_first hcompile hgrouped hsent
    (by rw [hlayout]; rfl)
  rw [hlayout] at hgroups hown hplaces
  obtain ⟨group, others, ⟨hkey, hread⟩, hothers, rfl⟩ := List.forall₂_cons_left_iff.1 hgroups
  obtain rfl := List.forall₂_nil_left_iff.1 hothers
  obtain ⟨hkeys, hsums⟩ := hplaces (by decide) [.text "North", .int 5]
  obtain ⟨aliasName, first, hfirst, honly⟩ := hown _ List.mem_cons_self
  obtain rfl := honly (by decide +kernel)
  refine ⟨group, hdone, hkey.trans hkeys, (hread .sum "Total" _ _ hfirst Int64).trans ?_⟩
  rw [hsums 0 _ _ rfl]
  rfl

/-- The sums of two columns of which one ends with the name of the other: both are read from the
same output column, which is that of the longer name. -/
theorem sum_of_other_column :
    let set : ResultSet :=
      ⟨["Region", "SUM_Total", "SUM_Net_Total"], [[.text "North", .int 5, .int 7]]⟩
    let context := ofNames (answering set)
    let desk := (alone context).desk (.fresh (.context context) .empty)
    let done := context.executeGrouped (sumsByRegion ["Total", "Net_Total"]) desk
    ∃ compiled group, context.compile (sumsByRegion ["Total", "Net_Total"]) = .ok compiled ∧
      set.columns = (GroupedLayout.of compiled.flat).names ∧ set.columns.Nodup ∧
      (GroupedLayout.of compiled.flat).aggregates
        = [(⟨.sum, ⟨"o", "Total"⟩⟩, "SUM_Total"), (⟨.sum, ⟨"o", "Net_Total"⟩⟩, "SUM_Net_Total")] ∧
      done.1 = .ok [group] ∧
      group.aggregate done.2.tracked.store .sum "Total"
        = (.ok 7 : Except AggregateError Int64) := by
  intro set context desk done
  have hfacts : (context.compile (sumsByRegion ["Total", "Net_Total"])).map (fun compiled =>
      ((GroupedLayout.of compiled.flat).names, (GroupedLayout.of compiled.flat).aggregates))
      = .ok (["Region", "SUM_Total", "SUM_Net_Total"], [(⟨.sum, ⟨"o", "Total"⟩⟩, "SUM_Total"),
        (⟨.sum, ⟨"o", "Net_Total"⟩⟩, "SUM_Net_Total")]) := by decide +kernel
  obtain ⟨compiled, hcompile, hfields⟩ := Action.map_eq_ok_iff.1 hfacts
  obtain ⟨hnames, haggregates⟩ := Prod.mk.inj hfields
  have hdone : done.1 = .ok [⟨[.text "North"], [⟨0⟩]⟩] ∧
      GroupedRow.aggregate ⟨[.text "North"], [⟨0⟩]⟩ done.2.tracked.store .sum "Total"
        = (.ok 7 : Except AggregateError Int64) := by decide +kernel
  exact ⟨compiled, _, hcompile, hnames.symm, by decide, haggregates, hdone⟩

end Context

end Orm
