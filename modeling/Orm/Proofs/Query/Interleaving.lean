import Mathlib.Data.List.Induction
import Orm.Proofs.Query.Flattening

/-!
# Operators of different kinds do not see their order

Flattening sorts the operators of a query by kind. `flatten_by_kind` says which queries have a flat
query (those with `Compatible` operators), that it holds the operators of every kind in the order
of their application, and that the order between operators of different kinds does not matter.
-/

namespace Orm

namespace QueryOperator

/-- The kinds of operators. All that concerns joins and groups is one kind. -/
inductive Kind
  | base
  | join
  | filter
  | having
  | select
  | distinct
  | orderBy
  | combine
  | skip
  | take
  | count
  | aggregate
deriving DecidableEq, Repr

/-- The kind of an operator. -/
def kind : QueryOperator → Kind
  | .base _ _ => .base
  | .join _ _ _ | .crossJoin _ _ _ | .groupBy _ _ _ => .join
  | .filter _ => .filter
  | .having _ => .having
  | .select _ => .select
  | .distinct => .distinct
  | .orderBy _ _ _ => .orderBy
  | .combine _ => .combine
  | .skip _ => .skip
  | .take _ => .take
  | .count => .count
  | .aggregate _ _ _ => .aggregate

/-- How often a kind of operator occurs. -/
def times (kind : Kind) (operators : List QueryOperator) : Nat :=
  operators.countP fun operator => operator.kind = kind

/-! ## What an operator says -/

/-- The condition of a filter. -/
def filtered? : QueryOperator → Option Expr
  | .filter condition => some condition
  | _ => none

/-- The condition on groups. -/
def required? : QueryOperator → Option Expr
  | .having condition => some condition
  | _ => none

/-- The selected value. -/
def selected? : QueryOperator → Option Expr
  | .select value => some value
  | _ => none

/-- The join along a relationship. -/
def joined? : QueryOperator → Option JoinEntry
  | .join source spec target => some ⟨source, spec, target⟩
  | _ => none

/-- The table of a cross join under its alias. -/
def crossed? : QueryOperator → Option TableOccurrence
  | .crossJoin _ table target => some ⟨target, table⟩
  | _ => none

/-- The grouping of the rows of an alias. -/
def grouped? : QueryOperator → Option GroupingEntry
  | .groupBy aliasName keys aggregates => some ⟨aliasName, keys, aggregates⟩
  | _ => none

/-- The column that rows are sorted by. -/
def sorted? : QueryOperator → Option OrderTerm
  | .orderBy aliasName column direction => some ⟨aliasName, column, direction⟩
  | _ => none

/-- The aggregate over all rows. -/
def aggregated? : QueryOperator → Option AggregateTerm
  | .aggregate op aliasName column => some ⟨op, aliasName, column⟩
  | _ => none

/-- The number of rows to leave out. -/
def skipped? : QueryOperator → Option Nat
  | .skip requested => some requested
  | _ => none

/-- The greatest number of rows to give. -/
def limit? : QueryOperator → Option Nat
  | .take requested => some requested
  | _ => none

/-- The combination with another statement. -/
def combined? : QueryOperator → Option SetOperation
  | .combine operation => some operation
  | _ => none

/-- The alias that a join declares, with its table. -/
def declared? : QueryOperator → Option (String × Table)
  | .join _ spec target => some (target, spec.targetTable)
  | .crossJoin _ table target => some (target, table)
  | _ => none

/-- The aliases that a join starts from and leads to. -/
def ends? : QueryOperator → Option (String × String)
  | .join source _ target | .crossJoin source _ target => some (source, target)
  | _ => none

variable {kind : Kind} {operators : List QueryOperator}

/-- One more operator is one more of its kind. -/
theorem times_concat (kind : Kind) (operators : List QueryOperator) (operator : QueryOperator) :
    times kind (operators ++ [operator])
      = times kind operators + if operator.kind = kind then 1 else 0 := by
  simp [times, List.countP_append, List.countP_singleton]

/-- The operators of a kind say something if and only if there are any. -/
theorem filter_map_eq_nil_iff {α : Type} {say : QueryOperator → Option α}
    (hsay : ∀ operator, (say operator).isSome = true ↔ operator.kind = kind) :
    operators.filterMap say = [] ↔ times kind operators = 0 := by
  rw [← List.length_eq_zero_iff, List.length_filterMap_eq_countP, times]
  have hsame : ∀ operator, (say operator).isSome = decide (operator.kind = kind) :=
    fun operator => Bool.eq_iff_iff.2 ((hsay operator).trans decide_eq_true_iff.symm)
  simp only [hsame]

/-- What the operators of one kind say depends on them alone. -/
theorem filter_map_filter_kind {α : Type} {say : QueryOperator → Option α}
    (hsay : ∀ operator, (say operator).isSome = true → operator.kind = kind) :
    (operators.filter fun operator => operator.kind = kind).filterMap say
      = operators.filterMap say := by
  rw [List.filterMap_filter]
  congr 1
  funext operator
  by_cases hkind : operator.kind = kind
  · simp [hkind]
  · have hnone : say operator = none :=
      Option.not_isSome_iff_eq_none.1 fun hsome => hkind (hsay operator hsome)
    simp [hkind, hnone]

end QueryOperator

open QueryOperator

/-! ## Which operators fit together -/

/-- Each of some limits is at most the least of those before it, or a single row. -/
def Tightening (limits : List Nat) : Prop :=
  ∀ earlier requested later, limits = earlier ++ requested :: later →
    ∀ least, earlier.min? = some least → requested ≤ least ∨ requested = 1

/-- The operators of a query fit together. -/
@[mk_iff]
structure Compatible (operators : List QueryOperator) : Prop where
  base : times .base operators = 0
  distinct : times .distinct operators ≤ 1
  skip : times .skip operators ≤ 1
  count : times .count operators ≤ 1
  combine : times .combine operators ≤ 1
  combine_alone : times .combine operators = 0 ∨
    times .take operators = 0 ∧ times .count operators = 0
  limits : Tightening (operators.filterMap limit?)
  keys : ∀ aliasName keys aggregates, .groupBy aliasName keys aggregates ∈ operators → keys ≠ []

/-- An operator fits those that were applied before. -/
def Fits (before : List QueryOperator) : QueryOperator → Prop
  | .base _ _ => False
  | .groupBy _ keys _ => keys ≠ []
  | .distinct => times .distinct before = 0
  | .skip _ => times .skip before = 0
  | .combine _ => times .combine before = 0 ∧ times .take before = 0 ∧ times .count before = 0
  | .take requested => times .combine before = 0 ∧
      ∀ least, (before.filterMap limit?).min? = some least → requested ≤ least ∨ requested = 1
  | .count => times .count before = 0 ∧ times .combine before = 0
  | .join _ _ _ | .crossJoin _ _ _ | .filter _ | .having _ | .select _ | .orderBy _ _ _
  | .aggregate _ _ _ => True

/-- What holds wherever a list is split holds so of a longer list if it also holds at its end. -/
theorem forall_split_concat_iff {α : Type} {holds : List α → α → Prop} {items : List α} {last : α} :
    (∀ before item after, items ++ [last] = before ++ item :: after → holds before item) ↔
      (∀ before item after, items = before ++ item :: after → holds before item) ∧
        holds items last := by
  constructor
  · intro h
    refine ⟨?_, h items last [] rfl⟩
    intro before item after hsplit
    refine h before item (after ++ [last]) ?_
    rw [hsplit, List.append_assoc, List.cons_append]
  · intro h before item after hsplit
    rcases List.eq_nil_or_concat after with rfl | ⟨middle, other, rfl⟩
    · obtain ⟨rfl, hlast⟩ := List.append_inj' hsplit rfl
      obtain rfl := List.singleton_inj.1 hlast
      exact h.2
    · rw [List.concat_eq_append, ← List.cons_append, ← List.append_assoc] at hsplit
      exact h.1 before item middle (List.append_inj' hsplit rfl).1

/-- One more limit is at most the least of those before it, or a single row. -/
theorem tightening_concat_iff {limits : List Nat} {requested : Nat} :
    Tightening (limits ++ [requested]) ↔ Tightening limits ∧
      ∀ least, limits.min? = some least → requested ≤ least ∨ requested = 1 :=
  forall_split_concat_iff

/-- No operators fit together. -/
theorem compatible_nil : Compatible [] where
  base := rfl
  distinct := Nat.zero_le 1
  skip := Nat.zero_le 1
  count := Nat.zero_le 1
  combine := Nat.zero_le 1
  combine_alone := .inl rfl
  limits := by simp [Tightening]
  keys := by simp

/-- Operators fit together with one more if and only if it fits them. -/
theorem compatible_concat_iff {before : List QueryOperator} {operator : QueryOperator} :
    Compatible (before ++ [operator]) ↔ Compatible before ∧ Fits before operator := by
  simp only [compatible_iff, times_concat, List.filterMap_append, List.mem_append,
    List.mem_singleton]
  cases operator with
  | base aliasName table => simp [kind, Fits]
  | groupBy aliasName keys aggregates =>
      simp only [kind, Fits, limit?, List.filterMap_cons, List.filterMap_nil, List.append_nil,
        reduceCtorEq, if_false, Nat.add_zero, QueryOperator.groupBy.injEq]
      grind
  | take requested =>
      simp only [kind, Fits, limit?, tightening_concat_iff, List.filterMap_cons,
        List.filterMap_nil, reduceCtorEq, if_false, if_true, Nat.add_zero, or_false]
      grind
  | distinct | skip requested | count | combine operation =>
      simp only [kind, Fits, limit?, List.filterMap_cons, List.filterMap_nil, List.append_nil,
        reduceCtorEq, if_false, if_true, Nat.add_zero, or_false]
      grind
  | _ =>
      simp only [kind, Fits, limit?, List.filterMap_cons, List.filterMap_nil, List.append_nil,
        reduceCtorEq, if_false, Nat.add_zero, or_false, and_true]

/-! ## What the operators add up to -/

namespace Flattening

/-- Notes an alias unless it is known. -/
def noted (known : List String) (aliasName : String) : List String :=
  if aliasName ∈ known then known else known ++ [aliasName]

/-- What some operators put into a flattening, each kind by itself. -/
def gathered (base : TableOccurrence) (operators : List QueryOperator) : Flattening where
  flat :=
    { base := base
      filters := operators.filterMap filtered?
      having := operators.filterMap required?
      joins := operators.filterMap joined?
      crossJoins := operators.filterMap crossed?
      aliases := (operators.filterMap declared?).foldl
        (fun aliases entry => aliases.insert entry.1 entry.2)
        (NameMap.empty.insert base.aliasName base.table)
      ordering := operators.filterMap sorted?
      projections := operators.filterMap selected?
      grouping := operators.filterMap grouped?
      distinct := 0 < times .distinct operators
      child := base
      skip := (operators.filterMap skipped?).getLast?
      take := (operators.filterMap limit?).min?
      setOperation := (operators.filterMap combined?).getLast?
      count := 0 < times .count operators
      aggregates := operators.filterMap aggregated? }
  endpoints :=
    (operators.filterMap ends?).foldl (fun known ends => noted (noted known ends.1) ends.2) []

/-- To note two aliases changes what is noted only. -/
theorem observe_observe (state : Flattening) (source target : String) :
    (state.observe source).observe target
      = { state with endpoints := noted (noted state.endpoints source) target } := by
  simp only [observe, noted]
  split <;> split <;> simp_all

/-- The least of some limits and one more. -/
theorem min_concat (limits : List Nat) (requested : Nat) :
    (limits ++ [requested]).min?
      = some (limits.min?.elim requested fun least => min least requested) := by
  cases hleast : limits.min? with
  | none =>
      rw [List.min?_eq_none_iff] at hleast
      simp [hleast]
  | some least =>
      rw [List.min?_eq_some_iff] at hleast ⊢
      obtain ⟨hmem, hbelow⟩ := hleast
      constructor
      · show min least requested ∈ limits ++ [requested]
        rcases Nat.le_total least requested with hle | hle
        · rw [Nat.min_eq_left hle]
          exact List.mem_append_left _ hmem
        · rw [Nat.min_eq_right hle]
          exact List.mem_append_right _ (List.mem_singleton_self requested)
      · intro other hother
        rcases List.mem_append.1 hother with hother | hother
        · exact (Nat.min_le_left _ _).trans (hbelow other hother)
        · exact List.mem_singleton.1 hother ▸ Nat.min_le_right _ _

/-- One more limit is accepted if and only if it is tight enough, and gives the least of all. -/
theorem tighter_take_eq_ok_iff {limits : List Nat} {requested limit : Nat} :
    tighterTake limits.min? requested = .ok limit ↔
      (∀ least, limits.min? = some least → requested ≤ least ∨ requested = 1) ∧
        (limits ++ [requested]).min? = some limit := by
  rw [min_concat]
  cases limits.min? with
  | none => simp [tighterTake]
  | some least =>
      by_cases htight : requested ≤ least ∨ requested = 1
      · simp [tighterTake, htight]
      · simp [tighterTake, htight]

variable {base : TableOccurrence} {before : List QueryOperator} {operator : QueryOperator}

/-- What operators say with one more operator. -/
theorem filter_map_concat {α : Type} (say : QueryOperator → Option α) :
    (before ++ [operator]).filterMap say = before.filterMap say ++ (say operator).toList := by
  rw [List.filterMap_append]
  cases hsaid : say operator <;> simp [hsaid]

/-- Rows are left out if and only if an operator says so. -/
theorem skip_gathered_eq_none_iff (base : TableOccurrence) :
    (gathered base before).flat.skip = none ↔ times .skip before = 0 :=
  List.getLast?_eq_none_iff.trans
    (filter_map_eq_nil_iff fun operator => by cases operator <;> simp [skipped?, kind])

/-- Rows are limited if and only if an operator says so. -/
theorem take_gathered_eq_none_iff (base : TableOccurrence) :
    (gathered base before).flat.take = none ↔ times .take before = 0 :=
  List.min?_eq_none_iff.trans
    (filter_map_eq_nil_iff fun operator => by cases operator <;> simp [limit?, kind])

/-- There is a combination if and only if an operator says so. -/
theorem set_operation_gathered_eq_none_iff (base : TableOccurrence) :
    (gathered base before).flat.setOperation = none ↔ times .combine before = 0 :=
  List.getLast?_eq_none_iff.trans
    (filter_map_eq_nil_iff fun operator => by cases operator <;> simp [combined?, kind])

/-- Rows are distinct if and only if an operator says so. -/
theorem distinct_gathered_eq_false_iff (base : TableOccurrence) :
    (gathered base before).flat.distinct = false ↔ times .distinct before = 0 := by
  simp [gathered]

/-- Rows are counted if and only if an operator says so. -/
theorem count_gathered_eq_false_iff (base : TableOccurrence) :
    (gathered base before).flat.count = false ↔ times .count before = 0 := by
  simp [gathered]

/-- An operator that fits is put in its place. -/
theorem step_gathered_of_fits (hfits : Fits before operator) :
    (gathered base before).step operator = .ok (gathered base (before ++ [operator])) := by
  cases operator
  -- First the checks, which pass because the operator fits.
  case base => exact hfits.elim
  case' groupBy aliasName keys aggregates =>
    have hkeys : keys.isEmpty = false := by simpa [Fits] using hfits
    simp only [step, hkeys]
  case' distinct =>
    have hdistinct := (distinct_gathered_eq_false_iff base).2 hfits
    simp only [step, hdistinct]
  case' skip requested =>
    have hskip := (skip_gathered_eq_none_iff base).2 hfits
    simp only [step, hskip]
  case' combine operation =>
    have hcombine := (set_operation_gathered_eq_none_iff base).2 hfits.1
    have htake := (take_gathered_eq_none_iff base).2 hfits.2.1
    have hcount := (count_gathered_eq_false_iff base).2 hfits.2.2
    simp only [step, hcombine, htake, hcount]
  case' count =>
    have hcount := (count_gathered_eq_false_iff base).2 hfits.1
    have hcombine := (set_operation_gathered_eq_none_iff base).2 hfits.2
    simp only [step, hcount, hcombine]
  case' take requested =>
    have hcombine := (set_operation_gathered_eq_none_iff base).2 hfits.1
    have htake : tighterTake (gathered base before).flat.take requested = .ok _ :=
      tighter_take_eq_ok_iff.2 ⟨hfits.2, min_concat (before.filterMap limit?) requested⟩
    simp only [step, hcombine, htake]
  -- Then the places.
  all_goals
    simp only [step, update, observe_observe, gathered, filter_map_concat, times_concat, kind,
      filtered?, required?, joined?, crossed?, declared?, sorted?, selected?, grouped?, skipped?,
      limit?, combined?, aggregated?, ends?, Option.toList_none, Option.toList_some,
      List.append_nil, List.foldl_append, List.foldl_cons, List.foldl_nil, List.getLast?_concat,
      min_concat, Except.map, Option.isSome_none, reduceCtorEq, if_false, if_true, Nat.add_zero,
      Nat.lt_add_one_iff, Nat.zero_le, decide_true, Bool.false_eq_true]

/-- An operator that is accepted fits. -/
theorem fits_of_step {next : Flattening} (h : (gathered base before).step operator = .ok next) :
    Fits before operator := by
  cases operator with
  | base aliasName table => cases h
  | join | crossJoin | filter | having | select | orderBy | aggregate => trivial
  | groupBy aliasName keys aggregates =>
      simp only [step] at h
      split at h
      · cases h
      · next hkeys => simpa [Fits] using hkeys
  | distinct =>
      simp only [step] at h
      split at h
      · cases h
      · next hdistinct =>
        exact (distinct_gathered_eq_false_iff base).1 (Bool.eq_false_iff.2 hdistinct)
  | skip requested =>
      simp only [step] at h
      split at h
      · cases h
      · next hskip => exact (skip_gathered_eq_none_iff base).1 hskip
  | combine operation =>
      simp only [step] at h
      split at h
      · cases h
      split at h
      · cases h
      split at h
      · cases h
      next hcombine htake hcount =>
      exact ⟨(set_operation_gathered_eq_none_iff base).1 (Option.not_isSome_iff_eq_none.1 hcombine),
        (take_gathered_eq_none_iff base).1 (Option.not_isSome_iff_eq_none.1 htake),
        (count_gathered_eq_false_iff base).1 (Bool.eq_false_iff.2 hcount)⟩
  | count =>
      simp only [step] at h
      split at h
      · cases h
      split at h
      · cases h
      next hcount hcombine =>
      exact ⟨(count_gathered_eq_false_iff base).1 (Bool.eq_false_iff.2 hcount),
        (set_operation_gathered_eq_none_iff base).1 (Option.not_isSome_iff_eq_none.1 hcombine)⟩
  | take requested =>
      simp only [step] at h
      split at h
      · cases h
      next hcombine =>
      obtain ⟨limit, hlimit, -⟩ := Action.map_eq_ok_iff.1 h
      exact ⟨(set_operation_gathered_eq_none_iff base).1 (Option.not_isSome_iff_eq_none.1 hcombine),
        (tighter_take_eq_ok_iff.1 hlimit).1⟩

/-- Operators are accepted one after the other if and only if they fit together, and then each is in
the place of its kind. -/
theorem steps_eq_ok_iff {operators : List QueryOperator} {last : Flattening} :
    operators.foldlM Flattening.step (gathered base []) = .ok last ↔
      Compatible operators ∧ last = gathered base operators := by
  induction operators using List.reverseRecOn generalizing last with
  | nil =>
      constructor
      · intro h
        cases h
        exact ⟨compatible_nil, rfl⟩
      · intro h
        rw [h.2]
        rfl
  | append_singleton before operator ih =>
      rw [List.foldlM_append, Action.bind_eq_ok_iff, compatible_concat_iff]
      simp only [List.foldlM_cons, List.foldlM_nil, bind_pure]
      constructor
      · intro h
        obtain ⟨state, hbefore, hstep⟩ := h
        obtain ⟨hcompatible, rfl⟩ := ih.1 hbefore
        have hfits := fits_of_step hstep
        rw [step_gathered_of_fits hfits] at hstep
        exact ⟨⟨hcompatible, hfits⟩, (Except.ok.inj hstep).symm⟩
      · intro h
        obtain ⟨⟨hcompatible, hfits⟩, rfl⟩ := h
        exact ⟨_, ih.2 ⟨hcompatible, rfl⟩, step_gathered_of_fits hfits⟩

end Flattening

/-- A query has a flat query if and only if its operators fit together, and the flat query is what
they add up to. -/
theorem flatten_eq_ok_iff {query : Query} {flat : FlatQuery} :
    query.flatten = .ok flat ↔ Compatible query.operators ∧
      flat = (Flattening.gathered ⟨query.baseAlias, query.baseTable⟩ query.operators).finish := by
  have hstart : (⟨.ofTable query.baseAlias query.baseTable, []⟩ : Flattening)
      = Flattening.gathered ⟨query.baseAlias, query.baseTable⟩ [] := rfl
  rw [Query.flatten, Action.map_eq_ok_iff, hstart]
  simp only [Flattening.steps_eq_ok_iff]
  constructor
  · intro h
    obtain ⟨state, ⟨hcompatible, rfl⟩, rfl⟩ := h
    exact ⟨hcompatible, rfl⟩
  · intro h
    exact ⟨_, ⟨h.1, rfl⟩, h.2.symm⟩

/-! ## What a flat query holds -/

/-- A flat query holds what the operators of a query say, each kind in the order of application. Of
several limits it holds the least. -/
structure FlatQuery.Holds (flat : FlatQuery) (operators : List QueryOperator) : Prop where
  take : flat.take = (operators.filterMap limit?).min?
  filters : flat.filters = operators.filterMap filtered?
  having : flat.having = operators.filterMap required?
  projections : flat.projections = operators.filterMap selected?
  ordering : flat.ordering = operators.filterMap sorted?
  grouping : flat.grouping = operators.filterMap grouped?
  aggregates : flat.aggregates = operators.filterMap aggregated?
  joins : flat.joins = operators.filterMap joined?
  crossJoins : flat.crossJoins = operators.filterMap crossed?

/-- A flattening is finished with what was put into it. -/
theorem Flattening.holds_finish_gathered (base : TableOccurrence)
    (operators : List QueryOperator) : (gathered base operators).finish.Holds operators := by
  unfold finish
  split
  · dsimp only
    split <;> exact ⟨rfl, rfl, rfl, rfl, rfl, rfl, rfl, rfl, rfl⟩
  · exact ⟨rfl, rfl, rfl, rfl, rfl, rfl, rfl, rfl, rfl⟩

/-- A flat query holds what the operators of its query say. -/
theorem FlatQuery.holds_of_flatten {query : Query} {flat : FlatQuery}
    (h : query.flatten = .ok flat) : flat.Holds query.operators := by
  obtain ⟨-, rfl⟩ := flatten_eq_ok_iff.1 h
  exact Flattening.holds_finish_gathered _ _

/-- A flat query reads the base table of its query. -/
theorem FlatQuery.base_of_flatten {query : Query} {flat : FlatQuery}
    (h : query.flatten = .ok flat) : flat.base = ⟨query.baseAlias, query.baseTable⟩ := by
  obtain ⟨-, rfl⟩ := flatten_eq_ok_iff.1 h
  exact (Flattening.finish_tables _).1

/-! ## Operators of one kind -/

/-- Two queries apply the same operators of every kind in the same order. -/
def SameByKind (left right : List QueryOperator) : Prop :=
  ∀ kind : Kind, left.filter (fun operator => operator.kind = kind)
    = right.filter (fun operator => operator.kind = kind)

namespace SameByKind

variable {left right : List QueryOperator}

/-- Every kind occurs as often. -/
theorem times_eq (h : SameByKind left right) (kind : Kind) :
    times kind left = times kind right := by
  rw [times, times, List.countP_eq_length_filter, List.countP_eq_length_filter, h]

/-- The operators of every kind say the same. -/
theorem filter_map_eq (h : SameByKind left right) {α : Type} (kind : Kind)
    (say : QueryOperator → Option α)
    (hsay : ∀ operator, (say operator).isSome = true → operator.kind = kind := by
      intro operator hsome
      cases operator <;> cases hsome <;> rfl) :
    left.filterMap say = right.filterMap say := by
  rw [← filter_map_filter_kind hsay, h kind, filter_map_filter_kind hsay]

/-- The operators add up to the same. -/
theorem gathered_eq (h : SameByKind left right) (base : TableOccurrence) :
    Flattening.gathered base left = Flattening.gathered base right := by
  simp only [Flattening.gathered, h.times_eq, h.filter_map_eq .filter filtered?,
    h.filter_map_eq .having required?, h.filter_map_eq .select selected?,
    h.filter_map_eq .join joined?, h.filter_map_eq .join crossed?,
    h.filter_map_eq .join declared?, h.filter_map_eq .join ends?,
    h.filter_map_eq .join grouped?, h.filter_map_eq .orderBy sorted?,
    h.filter_map_eq .skip skipped?, h.filter_map_eq .take limit?,
    h.filter_map_eq .combine combined?, h.filter_map_eq .aggregate aggregated?]

/-- Operators fit together or not, whatever the order between kinds. -/
theorem compatible_iff (h : SameByKind left right) : Compatible left ↔ Compatible right := by
  have hgroups : ∀ aliasName keys aggregates, QueryOperator.groupBy aliasName keys aggregates ∈ left
      ↔ .groupBy aliasName keys aggregates ∈ right := by
    intro aliasName keys aggregates
    have hmem := congrArg (QueryOperator.groupBy aliasName keys aggregates ∈ ·) (h .join)
    simpa [QueryOperator.kind] using hmem
  simp only [Orm.compatible_iff, h.times_eq, h.filter_map_eq .take limit?, hgroups]

end SameByKind

/-- A query has a flat query exactly if its operators fit together, which then holds the operators
of every kind in the order of their application. Another query with the same base table and the
same operators of every kind has the same flat query, or neither has one. -/
theorem flatten_by_kind (query : Query) :
    ((∃ flat, query.flatten = .ok flat) ↔ Compatible query.operators) ∧
      (∀ flat, query.flatten = .ok flat → flat.Holds query.operators) ∧
      ∀ other : Query, other.baseAlias = query.baseAlias → other.baseTable = query.baseTable →
        SameByKind query.operators other.operators →
          (∃ flat, query.flatten = .ok flat ∧ other.flatten = .ok flat) ∨
            (∃ error, query.flatten = .error error) ∧ ∃ error, other.flatten = .error error := by
  refine ⟨?_, ?_, ?_⟩
  · simp only [flatten_eq_ok_iff, exists_and_left, exists_eq, and_true]
  · intro flat
    exact FlatQuery.holds_of_flatten
  · intro other halias htable hsame
    have heither : ∀ flat, query.flatten = .ok flat ↔ other.flatten = .ok flat := by
      intro flat
      rw [flatten_eq_ok_iff, flatten_eq_ok_iff, halias, htable, hsame.compatible_iff,
        hsame.gathered_eq]
    cases hquery : query.flatten with
    | ok flat => exact .inl ⟨flat, rfl, (heither flat).1 hquery⟩
    | error error =>
        cases hother : other.flatten with
        | ok flat => cases hquery.symm.trans ((heither flat).2 hother)
        | error second => exact .inr ⟨⟨error, rfl⟩, second, rfl⟩

/-- The first customer of a few, with the limits around the condition. -/
def firstCustomer : Query :=
  ⟨"c", Table.named "dbo" "Customers", [.take 5,
    .filter (.isNotNull (.column ⟨"c", "Name"⟩)), .take 1, .orderBy "c" "Name" .ascending]⟩

/-- The same operators with the limits behind all others. -/
def customerLimitedLast : Query :=
  ⟨"c", Table.named "dbo" "Customers", [.orderBy "c" "Name" .ascending,
    .filter (.isNotNull (.column ⟨"c", "Name"⟩)), .take 5, .take 1]⟩

/-- Both have the same flat query, with the least of the limits. -/
theorem limits_anywhere :
    SameByKind firstCustomer.operators customerLimitedLast.operators ∧
      ∃ flat, firstCustomer.flatten = .ok flat ∧ customerLimitedLast.flatten = .ok flat ∧
        flat.take = some 1 := by
  have hsame : SameByKind firstCustomer.operators customerLimitedLast.operators := by
    intro kind
    cases kind <;> decide
  obtain ⟨-, hholds, halike⟩ := flatten_by_kind firstCustomer
  rcases halike customerLimitedLast rfl rfl hsame with ⟨flat, hfirst, hlast⟩ | ⟨⟨error, herror⟩, -⟩
  · exact ⟨hsame, flat, hfirst, hlast, (hholds flat hfirst).take⟩
  · cases herror

end Orm
