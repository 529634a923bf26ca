import Orm.Proofs.Action
import Orm.Proofs.Data.NameMap
import Orm.Query.Flat

/-!
# The default occurrence of a flat query

A flat query reads its tables under the aliases of `FlatQuery.occurrences`. If no columns are
selected, all columns of the default occurrence are read, and `occurs_child_of_flatten` says that
this alias does stand for its table, however the joins rename the base table.
-/

namespace Orm

namespace FlatQuery

/-- The tables that the joins of a flat query lead to, with their aliases. -/
def targets (flat : FlatQuery) : List TableOccurrence :=
  flat.joins.map (fun join => ⟨join.target, join.spec.targetTable⟩) ++ flat.crossJoins

/-- The tables that a flat query reads, with the aliases that they have in its statement. -/
def occurrences (flat : FlatQuery) : List TableOccurrence :=
  ⟨flat.resolve flat.base.aliasName, flat.base.table⟩ :: flat.targets

/-- An alias stands for a table. -/
def Occurs (flat : FlatQuery) (aliasName : String) (table : Table) : Prop :=
  ⟨aliasName, table⟩ ∈ flat.occurrences

/-- Whatever the target of a join is, it is read as such. -/
theorem is_join_target_iff {flat : FlatQuery} {aliasName : String} :
    flat.isJoinTarget aliasName = true ↔
      (∃ join ∈ flat.joins, join.target = aliasName) ∨
        ∃ cross ∈ flat.crossJoins, cross.aliasName = aliasName := by
  simp [isJoinTarget]

/-- An alias that was resolved stays as it is. -/
theorem resolve_resolve (flat : FlatQuery) (aliasName : String) :
    flat.resolve (flat.resolve aliasName) = flat.resolve aliasName := by
  by_cases hbase : aliasName = flat.base.aliasName
  · by_cases hsource : flat.sourceAlias = flat.base.aliasName
    · simp [resolve, hbase, hsource]
    · simp [resolve, hbase, hsource]
  · simp [resolve, hbase]

/-- An alias that the default occurrence has is its own in the statement. -/
theorem resolve_child (flat : FlatQuery) :
    flat.resolve flat.child.aliasName = flat.child.aliasName := by
  unfold resolve sourceAlias
  split
  · next hbase =>
    split
    · rfl
    · exact hbase.symm
  · rfl

end FlatQuery

/-- Two flat queries read the same tables under the same declared aliases. -/
structure FlatQuery.SameTables (left right : FlatQuery) : Prop where
  base : left.base = right.base
  joins : left.joins = right.joins
  crossJoins : left.crossJoins = right.crossJoins
  aliases : left.aliases = right.aliases

namespace Flattening

/-! ## Operators -/

/-- A flat query with one more join along a relationship, whose target is declared. -/
def withJoin (flat : FlatQuery) (join : JoinEntry) : FlatQuery :=
  { flat with
    aliases := flat.aliases.insert join.target join.spec.targetTable
    joins := flat.joins ++ [join] }

/-- A flat query with one more cross join, whose target is declared. -/
def withCrossJoin (flat : FlatQuery) (cross : TableOccurrence) : FlatQuery :=
  { flat with
    aliases := flat.aliases.insert cross.aliasName cross.table
    crossJoins := flat.crossJoins ++ [cross] }

/-- To note an alias changes nothing else. -/
theorem flat_observe (state : Flattening) (aliasName : String) :
    (state.observe aliasName).flat = state.flat := by
  unfold observe
  split <;> rfl

/-- An operator adds a join of one of the two kinds, or leaves the tables as they are. -/
theorem step_tables {state next : Flattening} {operator : QueryOperator}
    (h : state.step operator = .ok next) :
    (∃ join, next.flat = withJoin state.flat join) ∨
      (∃ cross, next.flat = withCrossJoin state.flat cross) ∨
      next.flat.SameTables state.flat := by
  cases operator with
  | base aliasName table => cases h
  | join source spec target =>
      cases h
      rw [flat_observe, flat_observe]
      exact .inl ⟨⟨source, spec, target⟩, rfl⟩
  | crossJoin source table target =>
      cases h
      rw [flat_observe, flat_observe]
      exact .inr (.inl ⟨⟨target, table⟩, rfl⟩)
  | filter condition | having condition | select value | orderBy aliasName column direction
  | aggregate op aliasName column =>
      cases h
      exact .inr (.inr ⟨rfl, rfl, rfl, rfl⟩)
  | groupBy aliasName keys aggregates =>
      simp only [step] at h
      split at h <;> cases h
      exact .inr (.inr ⟨rfl, rfl, rfl, rfl⟩)
  | distinct =>
      simp only [step] at h
      split at h <;> cases h
      exact .inr (.inr ⟨rfl, rfl, rfl, rfl⟩)
  | skip requested =>
      simp only [step] at h
      split at h <;> cases h
      exact .inr (.inr ⟨rfl, rfl, rfl, rfl⟩)
  | combine operation =>
      simp only [step] at h
      split at h
      · cases h
      split at h
      · cases h
      split at h <;> cases h
      exact .inr (.inr ⟨rfl, rfl, rfl, rfl⟩)
  | count =>
      simp only [step] at h
      split at h
      · cases h
      split at h <;> cases h
      exact .inr (.inr ⟨rfl, rfl, rfl, rfl⟩)
  | take requested =>
      simp only [step] at h
      split at h
      · cases h
      obtain ⟨limit, -, rfl⟩ := Action.map_eq_ok_iff.1 h
      exact .inr (.inr ⟨rfl, rfl, rfl, rfl⟩)

/-! ## Declared aliases -/

/-- The declared aliases of a flat query are that of its base table and those of the targets of its
joins, each of which stands for the table that it is declared with. -/
structure Declares (base : TableOccurrence) (flat : FlatQuery) : Prop where
  base_eq : flat.base = base
  table : ∀ aliasName table, flat.aliases.find? aliasName = some table →
    aliasName ≠ base.aliasName → (∃ join ∈ flat.joins, join.target = aliasName ∧
      join.spec.targetTable = table) ∨ ⟨aliasName, table⟩ ∈ flat.crossJoins
  target : ∀ aliasName, flat.isJoinTarget aliasName = true →
    ∃ table, flat.aliases.find? aliasName = some table

/-- The base table is declared from the beginning. -/
theorem declares_of_table (aliasName : String) (table : Table) :
    Declares ⟨aliasName, table⟩ (.ofTable aliasName table) where
  base_eq := rfl
  table := fun other found hfound hother => by
    rw [FlatQuery.ofTable, NameMap.find?_insert, if_neg hother] at hfound
    cases hfound
  target := nofun

namespace Declares

variable {base : TableOccurrence} {flat other : FlatQuery}

/-- What is declared depends on the tables alone. -/
theorem congr (h : Declares base flat) (hsame : other.SameTables flat) : Declares base other where
  base_eq := hsame.base.trans h.base_eq
  table := by
    rw [hsame.aliases, hsame.joins, hsame.crossJoins]
    exact h.table
  target := by
    simp only [FlatQuery.isJoinTarget, hsame.aliases, hsame.joins, hsame.crossJoins]
    exact h.target

/-- A join along a relationship declares its target. -/
theorem with_join (h : Declares base flat) (join : JoinEntry) :
    Declares base (withJoin flat join) where
  base_eq := h.base_eq
  table := fun aliasName table hfound hother => by
    rw [withJoin, NameMap.find?_insert] at hfound
    split at hfound
    · next hsame =>
      exact .inl ⟨join, List.mem_append_right _ (List.mem_singleton_self join), hsame.symm,
        Option.some.inj hfound⟩
    · obtain ⟨known, hknown, htarget⟩ | hcross := h.table aliasName table hfound hother
      · exact .inl ⟨known, List.mem_append_left _ hknown, htarget⟩
      · exact .inr hcross
  target := fun aliasName htarget => by
    rw [withJoin, NameMap.find?_insert]
    split
    · exact ⟨_, rfl⟩
    · next hother =>
      refine h.target aliasName ?_
      rw [FlatQuery.is_join_target_iff] at htarget ⊢
      obtain ⟨known, hknown, rfl⟩ | hcross := htarget
      · rcases List.mem_append.1 hknown with hknown | hnew
        · exact .inl ⟨known, hknown, rfl⟩
        · exact absurd (congrArg JoinEntry.target (List.mem_singleton.1 hnew)) hother
      · exact .inr hcross

/-- A cross join declares its target. -/
theorem with_cross_join (h : Declares base flat) (cross : TableOccurrence) :
    Declares base (withCrossJoin flat cross) where
  base_eq := h.base_eq
  table := fun aliasName table hfound hother => by
    rw [withCrossJoin, NameMap.find?_insert] at hfound
    split at hfound
    · next hsame =>
      obtain rfl := Option.some.inj hfound
      subst hsame
      exact .inr (List.mem_append_right _ (List.mem_singleton_self cross))
    · obtain hjoin | hcross := h.table aliasName table hfound hother
      · exact .inl hjoin
      · exact .inr (List.mem_append_left _ hcross)
  target := fun aliasName htarget => by
    rw [withCrossJoin, NameMap.find?_insert]
    split
    · exact ⟨_, rfl⟩
    · next hother =>
      refine h.target aliasName ?_
      rw [FlatQuery.is_join_target_iff] at htarget ⊢
      obtain hjoin | ⟨known, hknown, rfl⟩ := htarget
      · exact .inl hjoin
      · rcases List.mem_append.1 hknown with hknown | hnew
        · exact .inr ⟨known, hknown, rfl⟩
        · exact absurd (congrArg TableOccurrence.aliasName (List.mem_singleton.1 hnew)) hother

/-- Whatever an operator adds is declared. -/
theorem step {state next : Flattening} (h : Declares base state.flat) {operator : QueryOperator}
    (hstep : state.step operator = .ok next) : Declares base next.flat := by
  rcases step_tables hstep with ⟨join, hjoin⟩ | ⟨cross, hcross⟩ | hsame
  · rw [hjoin]
    exact h.with_join join
  · rw [hcross]
    exact h.with_cross_join cross
  · exact h.congr hsame

/-- Whatever some operators add is declared. -/
theorem steps {operators : List QueryOperator} {state last : Flattening}
    (h : Declares base state.flat) (hsteps : operators.foldlM Flattening.step state = .ok last) :
    Declares base last.flat := by
  induction operators generalizing state with
  | nil =>
      cases hsteps
      exact h
  | cons operator rest ih =>
      rw [List.foldlM_cons] at hsteps
      cases hstep : state.step operator with
      | error error =>
          rw [hstep] at hsteps
          cases hsteps
      | ok next =>
          rw [hstep] at hsteps
          exact ih (h.step hstep) hsteps

/-- An alias other than that of the base table is declared if and only if a join leads to it, and
then it stands for the table that it is declared with. -/
theorem find_alias (h : Declares base flat) {aliasName : String}
    (hother : aliasName ≠ base.aliasName) :
    flat.aliases.find? aliasName = none ∧ flat.isJoinTarget aliasName = false ∨
      ∃ table, flat.aliases.find? aliasName = some table ∧ ⟨aliasName, table⟩ ∈ flat.targets := by
  cases hfound : flat.aliases.find? aliasName with
  | none =>
      refine .inl ⟨rfl, Bool.eq_false_iff.2 fun htarget => ?_⟩
      obtain ⟨table, htable⟩ := h.target aliasName htarget
      cases hfound.symm.trans htable
  | some table =>
      refine .inr ⟨table, rfl, List.mem_append.2 ?_⟩
      obtain ⟨join, hjoin, rfl, rfl⟩ | hcross := h.table aliasName table hfound hother
      · exact .inl (List.mem_map_of_mem hjoin)
      · exact .inr hcross

end Declares

/-! ## The default occurrence -/

/-- The default occurrence of a finished flattening is the base table, or another alias that is a
new name of it or the target of a join. -/
theorem finish_child (state : Flattening) :
    state.finish.child = state.flat.base ∨
      ∃ aliasName, aliasName ≠ state.flat.base.aliasName ∧ state.finish.child
        = ⟨aliasName, (state.flat.aliases.find? aliasName).getD state.flat.base.table⟩ := by
  unfold finish
  split
  · next aliasName rest hendpoints =>
    dsimp only
    split
    · next hrenamed =>
      refine .inr ⟨aliasName, fun hsame => hrenamed.2 ?_, rfl⟩
      rw [hendpoints, ← hsame]
      exact List.mem_cons_self
    · exact .inl rfl
  · exact .inl rfl

/-- A flattening is finished with the same base table and joins. -/
theorem finish_tables (state : Flattening) :
    state.finish.base = state.flat.base ∧ state.finish.joins = state.flat.joins ∧
      state.finish.crossJoins = state.flat.crossJoins := by
  unfold finish
  split
  · dsimp only
    split <;> exact ⟨rfl, rfl, rfl⟩
  · exact ⟨rfl, rfl, rfl⟩

/-- The default occurrence of a finished flattening is read under its alias. -/
theorem Declares.occurs_child {base : TableOccurrence} {state : Flattening}
    (h : Declares base state.flat) :
    state.finish.Occurs (state.finish.resolve state.finish.child.aliasName)
      state.finish.child.table := by
  obtain ⟨hbase, hjoins, hcross⟩ := state.finish_tables
  rcases state.finish_child with hchild | ⟨aliasName, hother, hchild⟩
  · rw [hchild, ← hbase]
    exact List.mem_cons_self
  · have hkept : state.finish.resolve aliasName = aliasName := by
      rw [FlatQuery.resolve, hbase, if_neg hother]
    rw [hchild, hkept]
    rcases h.find_alias (h.base_eq ▸ hother) with ⟨hnone, hfree⟩ | ⟨table, htable, htarget⟩
    · -- No join leads to the alias, so the base table goes by it.
      have hsource : state.finish.sourceAlias = aliasName := by
        rw [FlatQuery.isJoinTarget, ← hjoins, ← hcross] at hfree
        rw [FlatQuery.sourceAlias, hchild, FlatQuery.isJoinTarget, hfree, hnone, hbase]
        simp
      refine List.mem_cons.2 (.inl ?_)
      rw [FlatQuery.resolve, if_pos rfl, hsource, hnone, Option.getD_none, hbase]
    · rw [htable, Option.getD_some]
      refine List.mem_cons_of_mem _ ?_
      rw [FlatQuery.targets, hjoins, hcross]
      exact htarget

/-- A finished flattening declares the default occurrence at most beside what was declared. -/
theorem finish_aliases (state : Flattening) :
    state.finish.aliases = state.flat.aliases ∨ state.finish.aliases
      = state.flat.aliases.insert state.finish.child.aliasName state.finish.child.table := by
  unfold finish
  split
  · dsimp only
    split
    · exact .inr rfl
    · exact .inl rfl
  · exact .inl rfl

/-- What a finished flattening declares beside the default occurrence was declared before. -/
theorem find_finish_alias (state : Flattening) {aliasName : String}
    (hother : aliasName ≠ state.finish.child.aliasName) :
    state.finish.aliases.find? aliasName = state.flat.aliases.find? aliasName := by
  rcases state.finish_aliases with hsame | hinsert
  · rw [hsame]
  · rw [hinsert, NameMap.find?_insert, if_neg hother]

/-- Every alias that a finished flattening declares is read under the name that it has in the
statement. -/
theorem Declares.occurs_resolved {base : TableOccurrence} {state : Flattening}
    (h : Declares base state.flat) {aliasName : String}
    (hdeclared : state.finish.aliases.contains (state.finish.resolve aliasName) = true) :
    ∃ table, state.finish.Occurs (state.finish.resolve aliasName) table := by
  obtain ⟨hbase, hjoins, hcross⟩ := state.finish_tables
  by_cases hown : aliasName = state.finish.base.aliasName
  · rw [hown]
    exact ⟨state.finish.base.table, List.mem_cons_self⟩
  · have hkept : state.finish.resolve aliasName = aliasName := if_neg hown
    by_cases hchild : aliasName = state.finish.child.aliasName
    · rw [hchild]
      exact ⟨state.finish.child.table, h.occurs_child⟩
    · rw [hkept] at hdeclared ⊢
      rw [NameMap.contains, state.find_finish_alias hchild] at hdeclared
      rw [hbase, h.base_eq] at hown
      rcases h.find_alias hown with ⟨hnone, -⟩ | ⟨table, -, htarget⟩
      · rw [hnone] at hdeclared
        cases hdeclared
      · refine ⟨table, List.mem_cons_of_mem _ ?_⟩
        rw [FlatQuery.targets, hjoins, hcross]
        exact htarget

end Flattening

/-- Every alias that a flat query declares is read under the name that it has in the statement. -/
theorem FlatQuery.occurs_resolved_of_flatten {query : Query} {flat : FlatQuery}
    (h : query.flatten = .ok flat) {aliasName : String}
    (hdeclared : flat.aliases.contains (flat.resolve aliasName) = true) :
    ∃ table, flat.Occurs (flat.resolve aliasName) table := by
  obtain ⟨state, hsteps, rfl⟩ := Action.map_eq_ok_iff.1 h
  exact ((Flattening.declares_of_table query.baseAlias query.baseTable).steps
    hsteps).occurs_resolved hdeclared

/-- The default occurrence of a flat query is one of its occurrences. -/
theorem FlatQuery.occurs_child_of_flatten {query : Query} {flat : FlatQuery}
    (h : query.flatten = .ok flat) :
    flat.Occurs (flat.resolve flat.child.aliasName) flat.child.table := by
  obtain ⟨state, hsteps, rfl⟩ := Action.map_eq_ok_iff.1 h
  exact ((Flattening.declares_of_table query.baseAlias query.baseTable).steps hsteps).occurs_child

end Orm
