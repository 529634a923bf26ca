import Orm.Proofs.Data.NameMap
import Orm.Proofs.Entity.QualifiedNames
import Orm.Proofs.Sql.SelectList

/-!
# Which cells of a joined row an alias gets

A row of a joined query has a cell for each selected column, under the name that has its alias. For
an alias `OutputColumn.carved` picks the cells whose names begin with it, and `OutputColumn.own` has
those of the columns that were selected under it. `carved_eq_own_iff` says for which selected
columns the two are the same in every row: for those that `ToldApart` describes. Plain aliases are
told apart (`PlainAliases.told_apart`).
-/

namespace Orm

/-! ## Renamed entries -/

/-- Under a name stands the first item that gets it. -/
theorem NameMap.lookup_filter_map {α β : Type} (items : List (β × α)) (rename : β → Option String)
    (name : String) :
    lookup name (items.filterMap fun item => (rename item.1).map fun name => (name, item.2))
      = (items.find? fun item => rename item.1 = some name).map Prod.snd := by
  induction items with
  | nil => rfl
  | cons item rest ih =>
      cases hrename : rename item.1 with
      | none => simpa [hrename] using ih
      | some other =>
          by_cases hsame : other = name
          · simp [hrename, hsame, lookup]
          · simpa [hrename, hsame, lookup] using ih

/-- Of the items that get a name the last one with that name is found under it. -/
theorem NameMap.find_of_list_filter_map {α β : Type} (items : List (β × α))
    (rename : β → Option String) {name : String} {value : α} :
    (ofList (items.filterMap fun item => (rename item.1).map fun name => (name, item.2))).find? name
        = some value ↔
      ∃ front item back, items = front ++ (item, value) :: back ∧ rename item = some name ∧
        ∀ later ∈ back, rename later.1 ≠ some name := by
  rw [find_of_list, ← List.filterMap_reverse, lookup_filter_map, Option.map_eq_some_iff]
  simp only [List.find?_eq_some_iff_append]
  constructor
  · rintro ⟨⟨item, value⟩, ⟨hname, before, after, hsplit, hbefore⟩, rfl⟩
    refine ⟨after.reverse, item, before.reverse, ?_, by simpa using hname, by simpa using hbefore⟩
    simpa using congrArg List.reverse hsplit
  · rintro ⟨front, item, back, rfl, hname, hback⟩
    exact ⟨(item, value), ⟨by simpa using hname, back.reverse, front.reverse, by simp,
      by simpa using hback⟩, rfl⟩

/-- Something is found under the names that some items get. -/
theorem NameMap.is_some_find_of_list_filter_map {α β : Type} (items : List (β × α))
    (rename : β → Option String) {name : String} :
    ((ofList (items.filterMap fun item => (rename item.1).map fun name => (name, item.2))).find?
        name).isSome = true ↔ ∃ item ∈ items, rename item.1 = some name := by
  rw [is_some_find_of_list_iff, List.mem_map]
  constructor
  · rintro ⟨entry, hentry, rfl⟩
    obtain ⟨item, hitem, hsame⟩ := List.mem_filterMap.1 hentry
    obtain ⟨name, hname, rfl⟩ := Option.map_eq_some_iff.1 hsame
    exact ⟨item, hitem, hname⟩
  · rintro ⟨item, hitem, hname⟩
    exact ⟨(name, item.2), List.mem_filterMap.2 ⟨item, hitem, by rw [hname, Option.map_some]⟩, rfl⟩

namespace OutputColumn

/-! ## Cells of an alias -/

/-- A row with the values of some cells under the names of its columns. -/
def named (outputs : List OutputColumn) (cells : List Value) : NameMap Value :=
  .ofList ((outputs.map OutputColumn.name).zip cells)

/-- The cells of the columns that were selected under an alias, under the bare names of the
columns. -/
def own (outputs : List OutputColumn) (cells : List Value) (aliasName : String) : NameMap Value :=
  .ofList ((outputs.zip cells).filterMap fun cell =>
    (if cell.1.aliasName = aliasName then some cell.1.column else none).map fun column =>
      (column, cell.2))

/-- The cells whose names begin with an alias in one of the ways in which an alias can stand before
a column, under what follows without quoting marks. If two of them get one name, then the one whose
own name is greater counts. -/
def carved (outputs : List OutputColumn) (cells : List Value) (aliasName : String) :
    NameMap Value :=
  .ofList ((named outputs cells).toList.filterMap fun cell =>
    (stripAlias cell.1 aliasName).map fun column => (column, cell.2))

/-- Some columns were selected under several aliases: each has its alias in its name, and they come
in the order of the aliases. -/
structure Qualified (outputs : List OutputColumn) : Prop where
  names : ∀ output ∈ outputs, output.name = output.aliasName ++ "." ++ output.column
  order : outputs.Pairwise fun left right => left.aliasName ≤ right.aliasName

/-- An alias is told apart from the other ones: it leaves its own columns as they are, and if it
leaves something of a column of another alias, then this is also the name of a column of its own
that comes later, by its name in the row or else by its alias. -/
structure ToldApart (outputs : List OutputColumn) (aliasName : String) : Prop where
  plain : ∀ output ∈ outputs, output.aliasName = aliasName →
    output.column ≠ "" ∧ unquoted output.column.toList = output.column.toList
  covered : ∀ output ∈ outputs, output.aliasName ≠ aliasName → ∀ column,
    stripAlias output.name aliasName = some column →
      ∃ later ∈ outputs, later.aliasName = aliasName ∧ later.column = column ∧
        (output.name < later.name ∨
          output.name = later.name ∧ output.aliasName < later.aliasName)

variable {outputs : List OutputColumn} {cells : List Value} {aliasName column name : String}
  {value : Value}

instance : Decidable (ToldApart outputs aliasName) :=
  decidable_of_iff
    ((∀ output ∈ outputs, output.aliasName = aliasName →
        output.column ≠ "" ∧ unquoted output.column.toList = output.column.toList) ∧
      ∀ output ∈ outputs, output.aliasName ≠ aliasName →
        ∀ column ∈ stripAlias output.name aliasName, ∃ later ∈ outputs,
          later.aliasName = aliasName ∧ later.column = column ∧
            (output.name < later.name ∨
              output.name = later.name ∧ output.aliasName < later.aliasName))
    ⟨fun h => ⟨h.1, h.2⟩, fun h => ⟨h.plain, h.covered⟩⟩

/-- The cells of a row under their names. -/
theorem named_eq (outputs : List OutputColumn) (cells : List Value) :
    named outputs cells = .ofList ((outputs.zip cells).filterMap fun cell =>
      (some cell.1.name).map fun name => (name, cell.2)) := by
  rw [named]
  simp [List.zip_map_left, Prod.map_def]

/-- Under a name of a row stands the cell of the last column with that name. -/
theorem find_named :
    (named outputs cells).find? name = some value ↔
      ∃ front output back, outputs.zip cells = front ++ (output, value) :: back ∧
        output.name = name ∧ ∀ later ∈ back, later.1.name ≠ name := by
  rw [named_eq, NameMap.find_of_list_filter_map (outputs.zip cells) fun output => some output.name]
  simp only [Option.some.injEq, ne_eq]

/-- A row has a cell under the names of its columns. -/
theorem is_some_find_named (hcells : cells.length = outputs.length) :
    ((named outputs cells).find? name).isSome = true ↔ ∃ output ∈ outputs, output.name = name := by
  have hnames : ((outputs.map OutputColumn.name).zip cells).map Prod.fst
      = outputs.map OutputColumn.name := List.map_fst_zip (by simp [hcells])
  rw [named, NameMap.is_some_find_of_list_iff, hnames, List.mem_map]

/-- Under a column of an alias stands the cell of the last column of that name and alias. -/
theorem find_own :
    (own outputs cells aliasName).find? column = some value ↔
      ∃ front output back, outputs.zip cells = front ++ (output, value) :: back ∧
        (output.aliasName = aliasName ∧ output.column = column) ∧
        ∀ later ∈ back, ¬ (later.1.aliasName = aliasName ∧ later.1.column = column) := by
  rw [own, NameMap.find_of_list_filter_map (outputs.zip cells) fun output =>
    if output.aliasName = aliasName then some output.column else none]
  simp [Option.ite_none_right_eq_some]

/-- An alias has a cell under the columns that were selected under it. -/
theorem is_some_find_own (hcells : cells.length = outputs.length) :
    ((own outputs cells aliasName).find? column).isSome = true ↔
      ∃ output ∈ outputs, output.aliasName = aliasName ∧ output.column = column := by
  have houtputs : (outputs.zip cells).map Prod.fst = outputs := List.map_fst_zip hcells.ge
  rw [own, NameMap.is_some_find_of_list_filter_map (outputs.zip cells) fun output =>
    if output.aliasName = aliasName then some output.column else none]
  simp only [Option.ite_none_right_eq_some, Option.some.injEq]
  conv_rhs => rw [← houtputs]
  simp

/-- Among the cells whose names begin with an alias the one with the greatest name counts. -/
theorem find_carved :
    (carved outputs cells aliasName).find? column = some value ↔
      ∃ name, (named outputs cells).find? name = some value ∧
        stripAlias name aliasName = some column ∧
        ∀ other, ((named outputs cells).find? other).isSome = true →
          stripAlias other aliasName = some column → other ≤ name := by
  rw [carved, NameMap.find_of_list_filter_map _ fun name => stripAlias name aliasName]
  have hascending := (named outputs cells).ascending
  constructor
  · rintro ⟨front, name, back, hsplit, hname, hback⟩
    rw [hsplit] at hascending
    obtain ⟨-, -, hfront⟩ := List.pairwise_append.1 hascending
    refine ⟨name, NameMap.mem_to_list_iff.1 (by rw [hsplit]; simp), hname, ?_⟩
    intro other hother hstrip
    obtain ⟨held, hheld⟩ := Option.isSome_iff_exists.1 hother
    have hmem := NameMap.mem_to_list_iff.2 hheld
    rw [hsplit, List.mem_append, List.mem_cons] at hmem
    rcases hmem with hmem | hsame | hmem
    · have hless := hfront _ hmem _ List.mem_cons_self
      exact Std.le_of_lt hless
    · obtain ⟨rfl, -⟩ := Prod.mk.inj hsame
      exact String.le_refl other
    · exact absurd hstrip (hback _ hmem)
  · rintro ⟨name, hfind, hname, hgreatest⟩
    obtain ⟨front, back, hsplit⟩ := List.append_of_mem (NameMap.mem_to_list_iff.2 hfind)
    refine ⟨front, name, back, hsplit, hname, fun later hlater hstrip => ?_⟩
    have hheld : (named outputs cells).find? later.1 = some later.2 :=
      NameMap.mem_to_list_iff.1 (by rw [hsplit]; simp [hlater])
    rw [hsplit] at hascending
    have hless := List.rel_of_pairwise_cons (List.pairwise_append.1 hascending).2.1 hlater
    exact absurd (hgreatest later.1 (by rw [hheld]; rfl) hstrip) (String.not_le.2 hless)

/-- An alias has a cell under what it leaves of some name. -/
theorem is_some_find_carved (hcells : cells.length = outputs.length) :
    ((carved outputs cells aliasName).find? column).isSome = true ↔
      ∃ output ∈ outputs, stripAlias output.name aliasName = some column := by
  rw [carved, NameMap.is_some_find_of_list_filter_map _ fun name => stripAlias name aliasName]
  constructor
  · rintro ⟨⟨name, held⟩, hmem, hstrip⟩
    obtain ⟨output, houtput, rfl⟩ := (is_some_find_named hcells).1
      (Option.isSome_iff_exists.2 ⟨held, NameMap.mem_to_list_iff.1 hmem⟩)
    exact ⟨output, houtput, hstrip⟩
  · rintro ⟨output, houtput, hstrip⟩
    obtain ⟨held, hheld⟩ := Option.isSome_iff_exists.1
      ((is_some_find_named hcells).2 ⟨output, houtput, rfl⟩)
    exact ⟨(output.name, held), NameMap.mem_to_list_iff.2 hheld, hstrip⟩

/-! ## Aliases that are told apart -/

/-- In front of a column no alias is greater than its own one, and behind it none is less. -/
theorem Qualified.le_of_split (h : Qualified outputs) (hcells : cells.length = outputs.length)
    {front back : List (OutputColumn × Value)} {output : OutputColumn}
    (hsplit : outputs.zip cells = front ++ (output, value) :: back) :
    (∀ earlier ∈ front, earlier.1.aliasName ≤ output.aliasName) ∧
      ∀ later ∈ back, output.aliasName ≤ later.1.aliasName := by
  have houtputs : (outputs.zip cells).map Prod.fst = outputs := List.map_fst_zip hcells.ge
  have horder := h.order
  rw [← houtputs, hsplit, List.pairwise_map] at horder
  obtain ⟨-, hback, hfront⟩ := List.pairwise_append.1 horder
  exact ⟨fun earlier hearlier => hfront earlier hearlier _ List.mem_cons_self,
    fun later hlater => List.rel_of_pairwise_cons hback hlater⟩

/-- An alias that is told apart leaves its own columns as they are. -/
theorem ToldApart.strip_own (h : ToldApart outputs aliasName) (hqualified : Qualified outputs)
    {output : OutputColumn} (houtput : output ∈ outputs) (halias : output.aliasName = aliasName) :
    stripAlias output.name aliasName = some output.column := by
  rw [hqualified.names output houtput, halias, strip_alias_eq_column_iff]
  exact h.plain output houtput halias

/-- Columns of one alias and one name have the same name in the row. -/
theorem Qualified.name_eq (hqualified : Qualified outputs) {output other : OutputColumn}
    (houtput : output ∈ outputs) (hother : other ∈ outputs)
    (halias : other.aliasName = output.aliasName) (hcolumn : other.column = output.column) :
    other.name = output.name := by
  rw [hqualified.names other hother, hqualified.names output houtput, halias, hcolumn]

/-- If an alias that is told apart leaves a column of its own of another alias' one, then its own
one comes later. -/
theorem ToldApart.before_own (h : ToldApart outputs aliasName) (hqualified : Qualified outputs)
    {output other : OutputColumn} (houtput : output ∈ outputs)
    (halias : output.aliasName = aliasName) (hother : other ∈ outputs)
    (hotherAlias : other.aliasName ≠ aliasName)
    (hleft : stripAlias other.name aliasName = some output.column) :
    other.name < output.name ∨ other.name = output.name ∧ other.aliasName < aliasName := by
  obtain ⟨later, hlater, hlaterAlias, hlaterColumn, hbefore⟩ :=
    h.covered other hother hotherAlias output.column hleft
  rwa [hqualified.name_eq houtput hlater (hlaterAlias.trans halias.symm) hlaterColumn,
    hlaterAlias] at hbefore

/-- What an alias that is told apart leaves of the name of a column of its own is that column. -/
theorem ToldApart.column_eq (h : ToldApart outputs aliasName) (hqualified : Qualified outputs)
    {output : OutputColumn} (houtput : output ∈ outputs) (halias : output.aliasName = aliasName)
    {column : String} (hleft : stripAlias output.name aliasName = some column) :
    output.column = column :=
  Option.some.inj ((h.strip_own hqualified houtput halias).symm.trans hleft)

/-- Whatever an alias that is told apart leaves of a name, it has a column that is called so. -/
theorem ToldApart.exists_own (h : ToldApart outputs aliasName) (hqualified : Qualified outputs)
    {output : OutputColumn} (houtput : output ∈ outputs) {column : String}
    (hleft : stripAlias output.name aliasName = some column) :
    ∃ owned ∈ outputs, owned.aliasName = aliasName ∧ owned.column = column := by
  by_cases halias : output.aliasName = aliasName
  · exact ⟨output, houtput, halias, h.column_eq hqualified houtput halias hleft⟩
  · obtain ⟨later, hlater, hlaterAlias, hcolumn, -⟩ := h.covered output houtput halias column hleft
    exact ⟨later, hlater, hlaterAlias, hcolumn⟩

/-- An alias that is told apart gets the cells of its own columns in every row. -/
theorem ToldApart.carved_eq_own (h : ToldApart outputs aliasName) (hqualified : Qualified outputs)
    (hcells : cells.length = outputs.length) :
    carved outputs cells aliasName = own outputs cells aliasName := by
  have houtputs : (outputs.zip cells).map Prod.fst = outputs := List.map_fst_zip hcells.ge
  refine NameMap.ext_find fun column => ?_
  cases hown : (own outputs cells aliasName).find? column with
  | none =>
      have hmissing : ¬ ∃ output ∈ outputs, output.aliasName = aliasName ∧
          output.column = column := fun hsome => by
        simpa [hown] using (is_some_find_own hcells).2 hsome
      rw [Option.eq_none_iff_forall_ne_some]
      intro value hvalue
      obtain ⟨output, houtput, hleft⟩ := (is_some_find_carved hcells).1
        (Option.isSome_iff_exists.2 ⟨value, hvalue⟩)
      exact hmissing (h.exists_own hqualified houtput hleft)
  | some value =>
      obtain ⟨front, output, back, hsplit, ⟨halias, rfl⟩, hlast⟩ := find_own.1 hown
      have hmem : ∀ cell ∈ outputs.zip cells, cell.1 ∈ outputs := fun cell hcell => by
        rw [← houtputs]
        exact List.mem_map_of_mem hcell
      have houtput : output ∈ outputs := hmem (output, value) (by rw [hsplit]; simp)
      refine find_carved.2 ⟨output.name, find_named.2 ⟨front, output, back, hsplit, rfl, ?_⟩,
        h.strip_own hqualified houtput halias, ?_⟩
      · -- A later cell with this name would be one of another alias, which comes before.
        intro later hlater hsame
        have hother := hmem later (by rw [hsplit]; simp [hlater])
        have hleft : stripAlias later.1.name aliasName = some output.column :=
          hsame ▸ h.strip_own hqualified houtput halias
        by_cases hlaterAlias : later.1.aliasName = aliasName
        · exact hlast later hlater
            ⟨hlaterAlias, h.column_eq hqualified hother hlaterAlias hleft⟩
        · obtain ⟨-, hbehind⟩ := hqualified.le_of_split hcells hsplit
          rcases h.before_own hqualified houtput halias hother hlaterAlias hleft with
            hless | ⟨-, hless⟩
          · exact String.lt_irrefl _ (hsame ▸ hless)
          · exact absurd hless (String.not_lt.2 (halias ▸ hbehind later hlater))
      · intro name hsome hleft
        obtain ⟨other, hother, rfl⟩ := (is_some_find_named hcells).1 hsome
        by_cases hotherAlias : other.aliasName = aliasName
        · have hsame : other.name = output.name :=
            hqualified.name_eq houtput hother (hotherAlias.trans halias.symm)
              (h.column_eq hqualified hother hotherAlias hleft)
          exact hsame ▸ String.le_refl other.name
        · rcases h.before_own hqualified houtput halias hother hotherAlias hleft with
            hless | ⟨hsame, -⟩
          · exact Std.le_of_lt hless
          · exact hsame ▸ String.le_refl other.name

/-! ## Rows that tell a column from the other ones -/

/-- A row that marks the cells of a column of an alias. -/
def marking (outputs : List OutputColumn) (aliasName column : String) : List Value :=
  outputs.map fun output => .bool (output.aliasName = aliasName ∧ output.column = column)

/-- What stands in a marking row is whether its column is marked. -/
theorem mem_zip_marking {output : OutputColumn} :
    (output, value) ∈ outputs.zip (marking outputs aliasName column) ↔
      output ∈ outputs ∧
        value = .bool (output.aliasName = aliasName ∧ output.column = column) := by
  have hcells : outputs.zip (marking outputs aliasName column) = outputs.map fun output =>
      (output, Value.bool (output.aliasName = aliasName ∧ output.column = column)) := by
    rw [marking, ← List.map_prod_left_eq_zip]
  rw [hcells, List.mem_map]
  constructor
  · rintro ⟨output, houtput, hsame⟩
    obtain ⟨rfl, rfl⟩ := Prod.mk.inj hsame
    exact ⟨houtput, rfl⟩
  · rintro ⟨houtput, rfl⟩
    exact ⟨output, houtput, rfl⟩

/-- If an alias gets the cells of its own columns in a row that marks one of them, then the greatest
name of which it leaves the column is the one of that column of its own, and comes last. -/
theorem last_of_marking (hqualified : Qualified outputs)
    (hexact : carved outputs (marking outputs aliasName column) aliasName
      = own outputs (marking outputs aliasName column) aliasName)
    {output : OutputColumn} (houtput : output ∈ outputs) (halias : output.aliasName = aliasName)
    (hcolumn : output.column = column) :
    stripAlias output.name aliasName = some column ∧
      ∀ other ∈ outputs, other.aliasName ≠ aliasName →
        stripAlias other.name aliasName = some column →
        other.name < output.name ∨ other.name = output.name ∧ other.aliasName < aliasName := by
  have hcells : (marking outputs aliasName column).length = outputs.length := List.length_map _
  have hmark : (own outputs (marking outputs aliasName column) aliasName).find? column
      = some (.bool true) := by
    obtain ⟨value, hvalue⟩ := Option.isSome_iff_exists.1
      ((is_some_find_own hcells).2 ⟨output, houtput, halias, hcolumn⟩)
    obtain ⟨front, marked, back, hsplit, hmarked, -⟩ := find_own.1 hvalue
    obtain ⟨-, rfl⟩ := mem_zip_marking.1
      (show (marked, value) ∈ outputs.zip (marking outputs aliasName column) by simp [hsplit])
    simpa [hmarked] using hvalue
  rw [← hexact] at hmark
  obtain ⟨name, hfind, hleft, hgreatest⟩ := find_carved.1 hmark
  obtain ⟨front, marked, back, hsplit, rfl, hlast⟩ := find_named.1 hfind
  obtain ⟨hmem, hmarked⟩ := mem_zip_marking.1
    (show (marked, Value.bool true) ∈ outputs.zip (marking outputs aliasName column) by
      simp [hsplit])
  obtain ⟨hmarkedAlias, hmarkedColumn⟩ : marked.aliasName = aliasName ∧ marked.column = column := by
    simpa using hmarked.symm
  have hname : output.name = marked.name :=
    hqualified.name_eq hmem houtput (halias.trans hmarkedAlias.symm)
      (hcolumn.trans hmarkedColumn.symm)
  rw [hname]
  refine ⟨hleft, fun other hother hotherAlias hotherLeft => ?_⟩
  have hle : other.name ≤ marked.name :=
    hgreatest other.name ((is_some_find_named hcells).2 ⟨other, hother, rfl⟩) hotherLeft
  by_cases hsame : other.name = marked.name
  · refine .inr ⟨hsame, ?_⟩
    obtain ⟨hbefore, -⟩ := hqualified.le_of_split hcells hsplit
    have hplace : (other, Value.bool (other.aliasName = aliasName ∧ other.column = column))
        ∈ outputs.zip (marking outputs aliasName column) := mem_zip_marking.2 ⟨hother, rfl⟩
    rw [hsplit, List.mem_append, List.mem_cons] at hplace
    rcases hplace with hearlier | hitself | hlater
    · have hnotBehind : other.aliasName ≤ aliasName := hmarkedAlias ▸ hbefore _ hearlier
      exact NameMap.lt_of_not_lt_of_ne (String.not_lt.2 hnotBehind) (Ne.symm hotherAlias)
    · exact absurd ((Prod.mk.inj hitself).1 ▸ hmarkedAlias) hotherAlias
    · exact absurd hsame (hlast _ hlater)
  · exact .inl (NameMap.lt_of_not_lt_of_ne (String.not_lt.2 hle) (Ne.symm hsame))

/-- An alias that gets the cells of its own columns in every row is told apart. -/
theorem told_apart_of_exact (hqualified : Qualified outputs)
    (hexact : ∀ cells : List Value, cells.length = outputs.length →
      carved outputs cells aliasName = own outputs cells aliasName) :
    ToldApart outputs aliasName := by
  have hmarking : ∀ column, (marking outputs aliasName column).length = outputs.length :=
    fun column => List.length_map _
  constructor
  · intro output houtput halias
    rw [← strip_alias_eq_column_iff output.aliasName, ← hqualified.names output houtput, halias]
    exact (last_of_marking hqualified (hexact _ (hmarking output.column)) houtput halias rfl).1
  · intro output houtput halias column hleft
    have hcells := hmarking column
    have hcarved := (is_some_find_carved hcells).2 ⟨output, houtput, hleft⟩
    rw [hexact _ hcells] at hcarved
    obtain ⟨later, hlater, hlaterAlias, hlaterColumn⟩ := (is_some_find_own hcells).1 hcarved
    obtain ⟨-, hlast⟩ :=
      last_of_marking hqualified (hexact _ hcells) hlater hlaterAlias hlaterColumn
    refine ⟨later, hlater, hlaterAlias, hlaterColumn, ?_⟩
    rw [hlaterAlias]
    exact hlast output houtput halias hleft

/-- An alias gets the cells of its own columns in every row if and only if it is told apart. -/
theorem carved_eq_own_iff (hqualified : Qualified outputs) :
    (∀ cells : List Value, cells.length = outputs.length →
      carved outputs cells aliasName = own outputs cells aliasName) ↔
      ToldApart outputs aliasName :=
  ⟨told_apart_of_exact hqualified, fun h _ hcells => h.carved_eq_own hqualified hcells⟩

/-! ## Plain aliases -/

/-- The columns have names without quoting marks, and of their aliases none begins with such a mark
and no two are alike in a way that could be taken for an alias before a column. -/
structure PlainAliases (outputs : List OutputColumn) : Prop where
  columns : ∀ output ∈ outputs,
    output.column ≠ "" ∧ unquoted output.column.toList = output.column.toList
  heads : ∀ output ∈ outputs, ∀ c, output.aliasName.toList.head? = some c → c ∉ openingMarks
  apart : ∀ output ∈ outputs, ∀ other ∈ outputs, output.aliasName ≠ other.aliasName →
    AliasApart output.aliasName other.aliasName

instance : Decidable (PlainAliases outputs) :=
  decidable_of_iff
    ((∀ output ∈ outputs, output.column ≠ "" ∧
        unquoted output.column.toList = output.column.toList) ∧
      (∀ output ∈ outputs,
        output.aliasName.toList.head?.all (fun c => c ∉ openingMarks) = true) ∧
      ∀ output ∈ outputs, ∀ other ∈ outputs, output.aliasName ≠ other.aliasName →
        AliasApart output.aliasName other.aliasName)
    (by
      simp only [Option.all_eq_true, decide_eq_true_eq]
      exact ⟨fun h => ⟨h.1, h.2.1, h.2.2⟩, fun h => ⟨h.columns, h.heads, h.apart⟩⟩)

/-- Plain aliases are told apart. -/
theorem PlainAliases.told_apart (h : PlainAliases outputs) (hqualified : Qualified outputs)
    (houtput : ∃ output ∈ outputs, output.aliasName = aliasName) : ToldApart outputs aliasName := by
  obtain ⟨output, houtput, rfl⟩ := houtput
  refine ⟨fun other hother _ => h.columns other hother, fun other hother hne column hleft => ?_⟩
  rw [hqualified.names other hother, strip_alias_of_apart (h.heads other hother)
    (h.apart output houtput other hother (Ne.symm hne)) (h.apart other hother output houtput hne)]
    at hleft
  cases hleft

end OutputColumn

end Orm
