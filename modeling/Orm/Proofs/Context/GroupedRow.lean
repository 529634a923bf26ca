import Orm.Context.Queries
import Orm.Proofs.Data.NameMap
import Orm.Proofs.Entity.Store
import Orm.Proofs.Text.Occurrence

/-!
# The aggregates of a group

An aggregate of a group is found by the words in the name of its output column. The name of an
aggregate has its own words in it (`holds_own_words`), but others may have them too: the first
output with these words is read, by the order of the aliases and then of the names
(`aggregate_of_first`).
-/

namespace Orm

open GroupedRow

/-- An aggregate read as a type from what an output column holds. -/
def readAggregate {α : Type} [Readable α] (value : Value) : Except AggregateError α :=
  if value.isNull then .ok Readable.nullDefault else (Readable.ofValue value).mapError .coercion

/-- The output column of an aggregate has the words of the aggregate in its name. -/
theorem holds_own_words (keys : List ColumnRef) (aggregates : List GroupAggregate)
    (aggregate : GroupAggregate) :
    holdsAggregate aggregate.op aggregate.ref.column
      (GroupedLayout.aggregateName keys aggregates aggregate) = true := by
  have hsplit : ∀ {name before after : String}, name = aggregate.op.tag ++ "_" ++ after →
      name = before ++ "_" ++ aggregate.ref.column →
      holdsAggregate aggregate.op aggregate.ref.column name = true := by
    intro name before after hword hcolumn
    rw [holdsAggregate, Bool.and_eq_true, Text.occurs_iff_infix, Text.occurs_iff_infix]
    refine ⟨?_, ?_⟩
    · rw [hword]
      exact (Text.lower_split aggregate.op.tag after).1.isInfix
    · rw [hcolumn]
      exact (Text.lower_split before aggregate.ref.column).2.isInfix
  unfold GroupedLayout.aggregateName
  split
  · exact hsplit (by simp only [String.append_assoc]; rfl) rfl
  · exact hsplit rfl rfl

namespace GroupedLayout

variable {layout : GroupedLayout} {op : AggregateOp} {column aliasName name : String}

/-- All output columns, keys first: the alias and the name of each. -/
def outputs (layout : GroupedLayout) : List (String × String) :=
  layout.keys.map (fun key => (key.1.aliasName, key.2)) ++
    layout.aggregates.map fun aggregate => (aggregate.1.ref.aliasName, aggregate.2)

/-- The names of all output columns, keys first. -/
def names (layout : GroupedLayout) : List String := layout.outputs.map Prod.snd

/-- The names of the keys stand before those of the aggregates. -/
theorem names_eq (layout : GroupedLayout) :
    layout.names = layout.keys.map Prod.snd ++ layout.aggregates.map Prod.snd := by
  simp [names, outputs, Function.comp_def]

/-- An output column is the first one, by the order of the aliases and then of the names, with the
words of an aggregate in its name. -/
structure First (layout : GroupedLayout) (op : AggregateOp) (column aliasName name : String) :
    Prop where
  aliases : ∃ before after, layout.aliases = before ++ aliasName :: after ∧
    ∀ earlier ∈ before, ∀ other ∈ layout.namesOf earlier, holdsAggregate op column other = false
  named : name ∈ layout.namesOf aliasName
  holds : holdsAggregate op column name = true
  least : ∀ other ∈ layout.namesOf aliasName, holdsAggregate op column other = true → name ≤ other

/-- The aliases are those of the output columns. -/
theorem mem_aliases_iff : aliasName ∈ layout.aliases ↔ aliasName ∈ layout.outputs.map Prod.fst := by
  have hadd : ∀ (listed known : List String), aliasName ∈ listed.foldl
      (fun known other => if other ∈ known then known else known ++ [other]) known ↔
        aliasName ∈ known ∨ aliasName ∈ listed := by
    intro listed
    induction listed with
    | nil => simp
    | cons other rest ih =>
        intro known
        rw [List.foldl_cons, ih, List.mem_cons]
        split
        · next hknown =>
          have hother : aliasName = other → aliasName ∈ known := fun hsame => hsame ▸ hknown
          tauto
        · simp [or_assoc]
  rw [aliases, hadd, outputs, List.map_append, List.map_map, List.map_map]
  simp [Function.comp_def]

/-- The names of an alias are those of its output columns. -/
theorem mem_names_of_iff :
    name ∈ layout.namesOf aliasName ↔ (aliasName, name) ∈ layout.outputs := by
  simp only [namesOf, outputs, List.mem_append, List.mem_map, List.mem_filter, decide_eq_true_eq,
    Prod.mk.injEq, and_assoc]

/-- Of some names that pass a test one is the least. -/
theorem exists_least {test : String → Bool} {names : List String} (h : names.any test = true) :
    ∃ least ∈ names, test least = true ∧ ∀ other ∈ names, test other = true → least ≤ other := by
  induction names with
  | nil => cases h
  | cons first rest ih =>
      rw [List.any_cons, Bool.or_eq_true] at h
      by_cases hrest : rest.any test = true
      · obtain ⟨least, hmem, htest, hleast⟩ := ih hrest
        by_cases hfirst : test first = true ∧ first ≤ least
        · refine ⟨first, List.mem_cons_self, hfirst.1, fun other hother hpasses => ?_⟩
          rcases List.mem_cons.1 hother with rfl | hother
          · exact String.le_refl _
          · exact String.le_trans hfirst.2 (hleast other hother hpasses)
        · refine ⟨least, List.mem_cons_of_mem _ hmem, htest, fun other hother hpasses => ?_⟩
          rcases List.mem_cons.1 hother with rfl | hother
          · exact (String.le_total other least).resolve_left fun hle => hfirst ⟨hpasses, hle⟩
          · exact hleast other hother hpasses
      · refine ⟨first, List.mem_cons_self, h.resolve_right hrest, fun other hother hpasses => ?_⟩
        rcases List.mem_cons.1 hother with rfl | hother
        · exact String.le_refl _
        · exact absurd (List.any_eq_true.2 ⟨other, hother, hpasses⟩) hrest

/-- If some output column has the words of an aggregate in its name, one is the first. -/
theorem exists_first (hmem : (aliasName, name) ∈ layout.outputs)
    (hholds : holdsAggregate op column name = true) :
    ∃ first least, layout.First op column first least := by
  have hfound : (layout.aliases.find? fun other =>
      (layout.namesOf other).any (holdsAggregate op column)).isSome = true := by
    refine List.find?_isSome.2 ⟨aliasName, ?_, List.any_eq_true.2 ⟨name, ?_, hholds⟩⟩
    · exact mem_aliases_iff.2 (List.mem_map_of_mem hmem)
    · exact mem_names_of_iff.2 hmem
  obtain ⟨first, hfirst⟩ := Option.isSome_iff_exists.1 hfound
  obtain ⟨hany, before, after, haliases, hbefore⟩ := List.find?_eq_some_iff_append.1 hfirst
  obtain ⟨least, hleastmem, htest, hleast⟩ := exists_least hany
  refine ⟨first, least, ⟨before, after, haliases, fun earlier hearlier other hother => ?_⟩,
    hleastmem, htest, hleast⟩
  have hnone := hbefore earlier hearlier
  rw [Bool.not_eq_true', List.any_eq_false] at hnone
  exact Bool.not_eq_true _ ▸ hnone other hother

end GroupedLayout

/-! ## Entities of a group -/

variable {layout : GroupedLayout} {op : AggregateOp} {column aliasName name : String}

/-- An entity with the output columns of an alias gives the least of those with the words of an
aggregate in their names. -/
theorem aggregate_in_eq_some {entity : Entity} {names : List String} {value : String → Value}
    (hvalues : entity.values = NameMap.ofList (names.map fun name => (name, value name)))
    (hname : name ∈ names) (hholds : holdsAggregate op column name = true)
    (hleast : ∀ other ∈ names, holdsAggregate op column other = true → name ≤ other) :
    aggregateIn op column entity = some (value name) := by
  have hfind := fun asked => hvalues ▸ NameMap.find_of_list_map names value asked
  rw [aggregateIn, NameMap.find_first (by rw [hfind, if_pos hname]) hholds]
  · rfl
  · intro other hother hpasses
    refine hleast other ?_ hpasses
    by_contra hnone
    simp [hfind, hnone] at hother

/-- An entity without an output column that has the words of an aggregate in its name does not give
the aggregate. -/
theorem aggregate_in_eq_none {entity : Entity} {names : List String} {value : String → Value}
    (hvalues : entity.values = NameMap.ofList (names.map fun name => (name, value name)))
    (hnone : ∀ name ∈ names, holdsAggregate op column name = false) :
    aggregateIn op column entity = none := by
  rw [aggregateIn, Option.map_eq_none_iff, List.find?_eq_none]
  rintro ⟨name, found⟩ hentry
  have hfind := NameMap.mem_to_list_iff.1 hentry
  rw [hvalues, NameMap.find_of_list_map] at hfind
  split at hfind
  · next hmem => simp [hnone name hmem]
  · cases hfind

/-- Entities hold the output columns of some aliases, one entity for each alias. -/
def HoldOutputs (layout : GroupedLayout) (store : EntityStore) (value : String → Value)
    (ids : List EntityId) (aliases : List String) : Prop :=
  List.Forall₂ (fun id aliasName => ∃ entity, store.get? id = some entity ∧ entity.values
    = NameMap.ofList ((layout.namesOf aliasName).map fun name => (name, value name))) ids aliases

/-- Entities of which none has an output column with the words of an aggregate in its name do not
give the aggregate. -/
theorem find_some_eq_none {store : EntityStore} {value : String → Value} {ids : List EntityId}
    {aliases : List String} (h : HoldOutputs layout store value ids aliases)
    (hnone : ∀ aliasName ∈ aliases, ∀ name ∈ layout.namesOf aliasName,
      holdsAggregate op column name = false) :
    ids.findSome? (fun id => (store.get? id).bind (aggregateIn op column)) = none := by
  induction h with
  | nil => rfl
  | cons hfirst _ ih =>
      obtain ⟨hnever, hlater⟩ := List.forall_mem_cons.1 hnone
      obtain ⟨entity, hentity, hvalues⟩ := hfirst
      rw [List.findSome?_cons, hentity, Option.bind_some, aggregate_in_eq_none hvalues hnever]
      exact ih hlater

/-- A group whose entities have the output columns of the aliases gives an aggregate from the first
of those with the words of the aggregate in their names. -/
theorem aggregate_of_first {group : GroupedRow} {store : EntityStore} {value : String → Value}
    (hrows : HoldOutputs layout store value group.rows layout.aliases)
    (hfirst : layout.First op column aliasName name) {α : Type} [Readable α] :
    group.aggregate store op column = (readAggregate (value name) : Except AggregateError α) := by
  obtain ⟨before, after, haliases, hbefore⟩ := hfirst.aliases
  rw [haliases] at hrows
  have hearlier : HoldOutputs layout store value (group.rows.take before.length) before :=
    List.forall₂_take_append _ _ _ hrows
  obtain ⟨id, others, hid, -, hdrop⟩ :=
    List.forall₂_cons_right_iff.1 (List.forall₂_drop_append _ _ _ hrows)
  obtain ⟨entity, hentity, hvalues⟩ := hid
  have hsome : group.rows.findSome? (fun id => (store.get? id).bind (aggregateIn op column))
      = some (value name) := by
    rw [← List.take_append_drop before.length group.rows, List.findSome?_append,
      find_some_eq_none hearlier hbefore, hdrop,
      Option.none_or, List.findSome?_cons, hentity, Option.bind_some,
      aggregate_in_eq_some hvalues hfirst.named hfirst.holds hfirst.least]
  have hrows : group.rows.isEmpty = false := by
    rw [List.isEmpty_eq_false_iff]
    rintro hempty
    rw [hempty] at hsome
    cases hsome
  rw [aggregate, hrows, hsome]
  rfl

end Orm
