import Mathlib.Data.List.Nodup
import Orm.Proofs.Context.Groups

/-!
# When a cell of a group shadows another

The output columns of a grouped query get their aliases where columns repeat. That is decided by the
columns and not by the names that come out, so two output columns can still have one name.
`output_names_nodup_iff` says when: an alias and a column together give the name of another output
column, or a key has the name of an aggregate. Then, and only then, a cell hides another one.
-/

namespace Orm.GroupedLayout

variable {keys : List ColumnRef} {aggregates : List GroupAggregate}

/-! ## Which names have an alias -/

/-- Another key has the column of a key, so the name of the key has its alias. -/
def KeyQualified (keys : List ColumnRef) (key : ColumnRef) : Prop :=
  ∃ other ∈ keys, other ≠ key ∧ other.column = key.column

/-- A key has the column of an aggregate or another aggregate has its word and column, so the name
of the aggregate has its alias. -/
def AggregateQualified (keys : List ColumnRef) (aggregates : List GroupAggregate)
    (aggregate : GroupAggregate) : Prop :=
  (∃ key ∈ keys, key.column = aggregate.ref.column) ∨
    ∃ other ∈ aggregates, other ≠ aggregate ∧ other.op = aggregate.op ∧
      other.ref.column = aggregate.ref.column

/-- The name of a key with its alias. -/
def qualifiedKey (key : ColumnRef) : String := key.aliasName ++ "." ++ key.column

/-- The name of an aggregate with its alias. -/
def qualifiedAggregate (aggregate : GroupAggregate) : String :=
  aggregate.op.tag ++ "_" ++ aggregate.ref.aliasName ++ "_" ++ aggregate.ref.column

/-- The word for an aggregate comes first in its name with its alias. -/
theorem qualified_aggregate_eq (aggregate : GroupAggregate) :
    qualifiedAggregate aggregate = aggregate.op.tag ++ "_" ++
      (aggregate.ref.aliasName ++ "_" ++ aggregate.ref.column) := by
  simp only [qualifiedAggregate, String.append_assoc]

/-- Among distinct items that pass a test there is more than one if another one passes it. -/
theorem one_lt_count_iff {α : Type} {items : List α} (hnodup : items.Nodup) {item : α}
    (hmem : item ∈ items) (test : α → Bool) (htest : test item = true) :
    1 < items.countP test ↔ ∃ other ∈ items, other ≠ item ∧ test other = true := by
  obtain ⟨before, after, rfl⟩ := List.append_of_mem hmem
  have hfresh : item ∉ before ++ after := (List.nodup_middle.1 hnodup).notMem
  have hcount : (before ++ item :: after).countP test = (before ++ after).countP test + 1 := by
    simp only [List.countP_append, List.countP_cons_of_pos htest]
    omega
  rw [hcount, Nat.lt_add_left_iff_pos, List.countP_pos_iff]
  constructor
  · rintro ⟨other, hother, hpasses⟩
    refine ⟨other, ?_, fun hsame => hfresh (hsame ▸ hother), hpasses⟩
    exact List.mem_append.2 ((List.mem_append.1 hother).imp id (List.mem_cons_of_mem _))
  · rintro ⟨other, hother, hne, hpasses⟩
    refine ⟨other, ?_, hpasses⟩
    exact List.mem_append.2 ((List.mem_append.1 hother).imp id (List.mem_of_ne_of_mem hne))

/-- The name of a key has its alias if and only if another key has its column. -/
theorem key_name_cases (hkeys : keys.Nodup) {key : ColumnRef} (hkey : key ∈ keys) :
    KeyQualified keys key ∧ keyName keys key = qualifiedKey key ∨
      ¬ KeyQualified keys key ∧ keyName keys key = key.column := by
  have hcount := one_lt_count_iff hkeys hkey (fun other => other.column = key.column)
    (decide_eq_true rfl)
  simp only [decide_eq_true_eq] at hcount
  rw [keyName]
  split
  · next hmore => exact .inl ⟨hcount.1 hmore, rfl⟩
  · next hone => exact .inr ⟨fun hqualified => hone (hcount.2 hqualified), rfl⟩

/-- The name of an aggregate has its alias if and only if a key has its column or another aggregate
its word and column. -/
theorem aggregate_name_cases (keys : List ColumnRef) (haggregates : aggregates.Nodup)
    {aggregate : GroupAggregate} (haggregate : aggregate ∈ aggregates) :
    AggregateQualified keys aggregates aggregate ∧
        aggregateName keys aggregates aggregate = qualifiedAggregate aggregate ∨
      ¬ AggregateQualified keys aggregates aggregate ∧
        aggregateName keys aggregates aggregate
          = aggregate.op.tag ++ "_" ++ aggregate.ref.column := by
  have hcount := one_lt_count_iff haggregates haggregate (fun other =>
    other.op = aggregate.op ∧ other.ref.column = aggregate.ref.column) (by simp)
  simp only [Bool.decide_and, Bool.and_eq_true, decide_eq_true_eq] at hcount
  have hqualified : AggregateQualified keys aggregates aggregate ↔
      keys.any (fun key => key.column = aggregate.ref.column) = true ∨
        1 < aggregates.countP fun other =>
          other.op = aggregate.op ∧ other.ref.column = aggregate.ref.column := by
    simp only [Bool.decide_and, hcount, List.any_eq_true, decide_eq_true_eq]
    rfl
  rw [aggregateName]
  split
  · next hmore => exact .inl ⟨hqualified.2 hmore, rfl⟩
  · next hone => exact .inr ⟨fun h => hone (hqualified.1 h), rfl⟩

/-! ## Names of different outputs -/

/-- A text is cut in one way at its first separator. -/
theorem first_separator_inj {separator : Char} {left right otherLeft otherRight : List Char}
    (hleft : separator ∉ left) (hother : separator ∉ otherLeft)
    (h : left ++ separator :: right = otherLeft ++ separator :: otherRight) :
    left = otherLeft ∧ right = otherRight := by
  have hbefore : ∀ (front back : List Char), separator ∉ front →
      (front ++ separator :: back).takeWhile (· ≠ separator) = front := by
    intro front back hfront
    have hpasses : ∀ c ∈ front, decide (c ≠ separator) = true := by
      intro c hc
      exact decide_eq_true fun hsame => hfront (hsame ▸ hc)
    rw [List.takeWhile_append_of_pos hpasses]
    simp
  have hsame : left = otherLeft := by
    rw [← hbefore left right hleft, h, hbefore otherLeft otherRight hother]
  subst hsame
  exact ⟨rfl, (List.cons.inj (List.append_cancel_left h)).2⟩

/-- No underscore is part of the word for an aggregate, so the text up to the first one tells which
aggregate it is. -/
theorem tag_append_inj {op otherOp : AggregateOp} {rest otherRest : String}
    (h : op.tag ++ "_" ++ rest = otherOp.tag ++ "_" ++ otherRest) :
    op = otherOp ∧ rest = otherRest := by
  have hword : ∀ op : AggregateOp, '_' ∉ op.tag.toList := by
    intro op
    cases op <;> decide
  have hinj : ∀ op otherOp : AggregateOp, op.tag.toList = otherOp.tag.toList → op = otherOp := by
    intro op otherOp
    cases op <;> cases otherOp <;> decide
  have hchars : op.tag.toList ++ '_' :: rest.toList
      = otherOp.tag.toList ++ '_' :: otherRest.toList := by
    simpa using congrArg String.toList h
  obtain ⟨htag, hrest⟩ := first_separator_inj (hword op) (hword otherOp) hchars
  exact ⟨hinj _ _ htag, String.toList_inj.1 hrest⟩

/-- No output column has the name of another one: the alias and the column of a key or aggregate do
not give the name of another key or of another aggregate with the same word, and no key has the name
of an aggregate. -/
structure NamesApart (keys : List ColumnRef) (aggregates : List GroupAggregate) : Prop where
  ofKeys : ∀ key ∈ keys, KeyQualified keys key → ∀ other ∈ keys, other ≠ key →
    keyName keys other ≠ qualifiedKey key
  ofAggregates : ∀ aggregate ∈ aggregates, AggregateQualified keys aggregates aggregate →
    ∀ other ∈ aggregates, other ≠ aggregate → other.op = aggregate.op →
      aggregateName keys aggregates other ≠ qualifiedAggregate aggregate
  between : ∀ key ∈ keys, ∀ aggregate ∈ aggregates,
    keyName keys key ≠ aggregateName keys aggregates aggregate

/-- The names of distinct keys are distinct unless one with an alias is that of another key. -/
theorem nodup_key_names_iff (hkeys : keys.Nodup) :
    (keys.map (keyName keys)).Nodup ↔ ∀ key ∈ keys, KeyQualified keys key →
      ∀ other ∈ keys, other ≠ key → keyName keys other ≠ qualifiedKey key := by
  rw [List.nodup_map_iff_inj_on hkeys]
  constructor
  · intro hinj key hkey hqualified other hother hne hsame
    obtain ⟨-, hname⟩ | ⟨hplain, -⟩ := key_name_cases hkeys hkey
    · exact hne (hinj other hother key hkey (hsame.trans hname.symm))
    · exact hplain hqualified
  · intro hapart first hfirst second hsecond hsame
    by_contra hne
    obtain ⟨hqualified, hname⟩ | ⟨hplain, hname⟩ := key_name_cases hkeys hfirst
    · exact hapart first hfirst hqualified second hsecond (Ne.symm hne) (hsame.symm.trans hname)
    obtain ⟨hqualified, hother⟩ | ⟨-, hother⟩ := key_name_cases hkeys hsecond
    · exact hapart second hsecond hqualified first hfirst hne (hsame.trans hother)
    · -- Two keys without aliases in their names would have one column.
      rw [hname, hother] at hsame
      exact hplain ⟨second, hsecond, Ne.symm hne, hsame.symm⟩

/-- The name of an aggregate begins with its word. -/
theorem aggregate_name_begins (keys : List ColumnRef) (aggregates : List GroupAggregate)
    (aggregate : GroupAggregate) : ∃ rest,
      aggregateName keys aggregates aggregate = aggregate.op.tag ++ "_" ++ rest ∧
        (rest = aggregate.ref.aliasName ++ "_" ++ aggregate.ref.column ∨
          rest = aggregate.ref.column) := by
  rw [aggregateName]
  split
  · exact ⟨_, qualified_aggregate_eq aggregate, .inl rfl⟩
  · exact ⟨_, rfl, .inr rfl⟩

/-- Aggregates with one name have one word. -/
theorem op_of_aggregate_name {first second : GroupAggregate}
    (hsame : aggregateName keys aggregates first = aggregateName keys aggregates second) :
    first.op = second.op := by
  obtain ⟨rest, hrest, -⟩ := aggregate_name_begins keys aggregates first
  obtain ⟨otherRest, hotherRest, -⟩ := aggregate_name_begins keys aggregates second
  exact (tag_append_inj (hrest.symm.trans (hsame.trans hotherRest))).1

/-- The names of distinct aggregates are distinct unless one with an alias is that of another
aggregate with the same word. -/
theorem nodup_aggregate_names_iff (haggregates : aggregates.Nodup) :
    (aggregates.map (aggregateName keys aggregates)).Nodup ↔
      ∀ aggregate ∈ aggregates, AggregateQualified keys aggregates aggregate →
        ∀ other ∈ aggregates, other ≠ aggregate → other.op = aggregate.op →
          aggregateName keys aggregates other ≠ qualifiedAggregate aggregate := by
  rw [List.nodup_map_iff_inj_on haggregates]
  constructor
  · intro hinj aggregate haggregate hqualified other hother hne _ hsame
    obtain ⟨-, hname⟩ | ⟨hplain, -⟩ :=
      aggregate_name_cases keys haggregates haggregate
    · exact hne (hinj other hother aggregate haggregate (hsame.trans hname.symm))
    · exact hplain hqualified
  · intro hapart first hfirst second hsecond hsame
    by_contra hne
    have hop := op_of_aggregate_name hsame
    obtain ⟨hqualified, hname⟩ | ⟨hplain, hname⟩ :=
      aggregate_name_cases keys haggregates hfirst
    · exact hapart first hfirst hqualified second hsecond (Ne.symm hne) hop.symm
        (hsame.symm.trans hname)
    obtain ⟨hqualified, hother⟩ | ⟨-, hother⟩ :=
      aggregate_name_cases keys haggregates hsecond
    · exact hapart second hsecond hqualified first hfirst hne hop (hsame.trans hother)
    · -- Two aggregates without aliases in their names would have one word and one column.
      rw [hname, hother] at hsame
      exact hplain (.inr ⟨second, hsecond, Ne.symm hne, hop.symm, (tag_append_inj hsame).2.symm⟩)

/-- The output names of distinct keys and distinct aggregates are distinct if and only if no output
column has the name of another one. -/
theorem nodup_names_iff {layout : GroupedLayout} (hkeys : keys.Nodup)
    (haggregates : aggregates.Nodup)
    (hnames : layout.names
      = keys.map (keyName keys) ++ aggregates.map (aggregateName keys aggregates)) :
    layout.names.Nodup ↔ NamesApart keys aggregates := by
  have hbetween : (∀ name ∈ keys.map (keyName keys),
      ∀ other ∈ aggregates.map (aggregateName keys aggregates), name ≠ other) ↔
        ∀ key ∈ keys, ∀ aggregate ∈ aggregates,
          keyName keys key ≠ aggregateName keys aggregates aggregate := by
    simp only [List.forall_mem_map]
  rw [hnames, List.nodup_append, nodup_key_names_iff hkeys, nodup_aggregate_names_iff haggregates,
    hbetween]
  exact ⟨fun h => ⟨h.1, h.2.1, h.2.2⟩, fun h => ⟨h.ofKeys, h.ofAggregates, h.between⟩⟩

/-! ## Names without separators -/

/-- The aliases and columns of some references do not look like put together: there is no dot in
them and no underscore in an alias, and no column begins with an alias or the word for an aggregate
and an underscore. -/
structure PlainRefs (refs : List ColumnRef) : Prop where
  dots : ∀ ref ∈ refs, '.' ∉ ref.aliasName.toList ∧ '.' ∉ ref.column.toList
  underscores : ∀ ref ∈ refs, '_' ∉ ref.aliasName.toList
  aliases : ∀ ref ∈ refs, ∀ other ∈ refs,
    ¬ other.aliasName.toList ++ ['_'] <+: ref.column.toList
  words : ∀ ref ∈ refs, ∀ op : AggregateOp, ¬ op.tag.toList ++ ['_'] <+: ref.column.toList

namespace PlainRefs

variable {refs : List ColumnRef} {first second : ColumnRef}

/-- Of plain references only equal ones have one alias and column around a dot. -/
theorem qualified_key_inj (h : PlainRefs refs) (hfirst : first ∈ refs) (hsecond : second ∈ refs)
    (hsame : qualifiedKey first = qualifiedKey second) : first = second := by
  have hchars : first.aliasName.toList ++ '.' :: first.column.toList
      = second.aliasName.toList ++ '.' :: second.column.toList := by
    simpa [qualifiedKey] using congrArg String.toList hsame
  obtain ⟨haliases, hcolumns⟩ :=
    first_separator_inj (h.dots first hfirst).1 (h.dots second hsecond).1 hchars
  cases first
  cases second
  simp_all [String.toList_inj]

/-- Of plain references only equal ones have one alias and column around an underscore. -/
theorem around_underscore_inj (h : PlainRefs refs) (hfirst : first ∈ refs)
    (hsecond : second ∈ refs)
    (hsame : first.aliasName ++ "_" ++ first.column = second.aliasName ++ "_" ++ second.column) :
    first = second := by
  have hchars : first.aliasName.toList ++ '_' :: first.column.toList
      = second.aliasName.toList ++ '_' :: second.column.toList := by
    simpa using congrArg String.toList hsame
  obtain ⟨haliases, hcolumns⟩ :=
    first_separator_inj (h.underscores first hfirst) (h.underscores second hsecond) hchars
  cases first
  cases second
  simp_all [String.toList_inj]

/-- The names of plain keys and aggregates are all different. -/
theorem names_apart (hkeys : keys.Nodup)
    (h : PlainRefs (keys ++ aggregates.map GroupAggregate.ref)) : NamesApart keys aggregates := by
  have hofKey : ∀ {key}, key ∈ keys → key ∈ keys ++ aggregates.map GroupAggregate.ref :=
    fun hkey => List.mem_append_left _ hkey
  have hofAggregate : ∀ {aggregate}, aggregate ∈ aggregates →
      aggregate.ref ∈ keys ++ aggregates.map GroupAggregate.ref :=
    fun haggregate => List.mem_append_right _ (List.mem_map_of_mem haggregate)
  refine ⟨fun key hkey _ other hother hne hsame => ?_,
    fun aggregate haggregate _ other hother hne hop hsame => ?_,
    fun key hkey aggregate haggregate hsame => ?_⟩
  · obtain ⟨-, hname⟩ | ⟨-, hname⟩ := key_name_cases hkeys hother
    · exact hne (h.qualified_key_inj (hofKey hother) (hofKey hkey) (hname.symm.trans hsame))
    · have hdot := (h.dots other (hofKey hother)).2
      rw [← hname, hsame, qualifiedKey] at hdot
      simp at hdot
  · obtain ⟨rest, hname, hrest⟩ := aggregate_name_begins keys aggregates other
    rw [hname, qualified_aggregate_eq] at hsame
    obtain ⟨-, hrests⟩ := tag_append_inj hsame
    rcases hrest with rfl | rfl
    · have href := h.around_underscore_inj (hofAggregate hother) (hofAggregate haggregate) hrests
      cases other
      cases aggregate
      simp_all
    · refine h.aliases _ (hofAggregate hother) _ (hofAggregate haggregate) ?_
      exact ⟨aggregate.ref.column.toList, by simp [hrests]⟩
  · obtain ⟨rest, haggregateName, hrest⟩ := aggregate_name_begins keys aggregates aggregate
    rw [haggregateName] at hsame
    obtain ⟨-, hname⟩ | ⟨-, hname⟩ := key_name_cases hkeys hkey
    · -- There is a dot in the name of the key and none in that of the aggregate.
      have hdot : '.' ∈ (aggregate.op.tag ++ "_" ++ rest).toList := by
        rw [← hsame, hname, qualifiedKey]
        simp
      obtain ⟨hnoAlias, hnoColumn⟩ := h.dots _ (hofAggregate haggregate)
      have hnoWord : '.' ∉ aggregate.op.tag.toList := by cases aggregate.op <;> decide
      rcases hrest with rfl | rfl <;> simp [hnoWord, hnoAlias, hnoColumn] at hdot
    · refine h.words key (hofKey hkey) aggregate.op ⟨rest.toList, ?_⟩
      rw [← hname, hsame]
      simp

end PlainRefs

/-! ## Shadowed cells -/

/-- The names of the output columns of a flat query. -/
theorem names_of (flat : FlatQuery) :
    (of flat).names = (flat.grouping.flatMap GroupingEntry.keys).map
        (keyName (flat.grouping.flatMap GroupingEntry.keys)) ++
      (flat.grouping.flatMap GroupingEntry.aggregates).map
        (aggregateName (flat.grouping.flatMap GroupingEntry.keys)
          (flat.grouping.flatMap GroupingEntry.aggregates)) := by
  simp [names_eq, of, Function.comp_def]

/-- Every cell of a row is the one that is read under the name at its place if and only if the names
are distinct. -/
theorem cells_readable_iff {names : List String} :
    (∀ row : List Value, row.length = names.length → ∀ place name, names[place]? = some name →
      cellUnder names row name = cellAt row place) ↔ names.Nodup := by
  refine ⟨fun hcells => ?_, fun hnodup row _ place name hname =>
    cell_under_eq_cell_at hnodup hname row⟩
  rw [List.nodup_iff_getElem?_ne_getElem?]
  intro first second hless hsecond hsame
  -- In this row only the first of the two cells is set, and both are read under one name.
  let row := (List.range names.length).map fun place =>
    if place = first then Value.bool true else .null
  have hname := List.getElem?_eq_getElem hsecond
  have hlength : row.length = names.length := by simp [row]
  have hone := hcells row hlength first names[second] (hsame.trans hname)
  rw [hcells row hlength second names[second] hname] at hone
  have hfirst : first < names.length := hless.trans hsecond
  have hne : second ≠ first := hless.ne'
  simp [cellAt, row, hfirst, hsecond, hne] at hone

/-- The keys and the aggregates of a grouped query are distinct. Its output columns have distinct
names if and only if no alias and column together give the name of another output column and no key
has the name of an aggregate. Exactly then every cell of every row is the one that is read under the
name at its place. It is so if the aliases and columns do not look like put together. -/
theorem output_names_nodup_iff {flat : FlatQuery}
    (hkeys : (flat.grouping.flatMap GroupingEntry.keys).Nodup)
    (haggregates : (flat.grouping.flatMap GroupingEntry.aggregates).Nodup) :
    let keys := flat.grouping.flatMap GroupingEntry.keys
    let aggregates := flat.grouping.flatMap GroupingEntry.aggregates
    let names := (of flat).names
    (names.Nodup ↔ NamesApart keys aggregates) ∧
    (names.Nodup ↔ ∀ row : List Value, row.length = names.length → ∀ place name,
      names[place]? = some name → cellUnder names row name = cellAt row place) ∧
    (PlainRefs (keys ++ aggregates.map GroupAggregate.ref) → names.Nodup) := by
  intro keys aggregates names
  have hnodup : names.Nodup ↔ NamesApart keys aggregates :=
    nodup_names_iff hkeys haggregates (names_of flat)
  exact ⟨hnodup, cells_readable_iff.symm, fun hplain => hnodup.2 (hplain.names_apart hkeys)⟩

/-- The sums of the orders by a column in which sums are stored. -/
def sumsByStoredSum : Query :=
  ⟨"o", Table.named "dbo" "Orders",
    [.groupBy "o" [⟨"o", "SUM_Total"⟩] [⟨.sum, ⟨"o", "Total"⟩⟩]]⟩

/-- The key and the aggregate have one name, and the stored sum cannot be read. -/
theorem stored_sum_hidden : ∃ flat, sumsByStoredSum.flatten = .ok flat ∧
    (of flat).names = ["SUM_Total", "SUM_Total"] ∧ ¬ (of flat).names.Nodup ∧
    ∃ row place name, (of flat).names[place]? = some name ∧
      cellUnder (of flat).names row name ≠ cellAt row place := by
  have hflatten : sumsByStoredSum.flatten.map FlatQuery.grouping
      = .ok [⟨"o", [⟨"o", "SUM_Total"⟩], [⟨.sum, ⟨"o", "Total"⟩⟩]⟩] := by decide +kernel
  obtain ⟨flat, hflat, hgrouping⟩ := Action.map_eq_ok_iff.1 hflatten
  have hnames : (of flat).names = ["SUM_Total", "SUM_Total"] := by
    rw [names_of, hgrouping]
    decide +kernel
  have hkeys : (flat.grouping.flatMap GroupingEntry.keys).Nodup := by
    rw [hgrouping]
    decide
  have haggregates : (flat.grouping.flatMap GroupingEntry.aggregates).Nodup := by
    rw [hgrouping]
    decide
  obtain ⟨hapart, hcells, -⟩ := output_names_nodup_iff hkeys haggregates
  have hrepeated : ¬ (of flat).names.Nodup := by
    intro hnodup
    have hbetween := (hapart.1 hnodup).between ⟨"o", "SUM_Total"⟩ (by rw [hgrouping]; decide)
      ⟨.sum, ⟨"o", "Total"⟩⟩ (by rw [hgrouping]; decide)
    rw [hgrouping] at hbetween
    exact hbetween (by decide +kernel)
  rw [hcells] at hrepeated
  push Not at hrepeated
  obtain ⟨row, -, place, name, hname, hdiffers⟩ := hrepeated
  exact ⟨flat, hflat, hnames, by rw [hnames]; decide, row, place, name, hname, hdiffers⟩

end Orm.GroupedLayout
