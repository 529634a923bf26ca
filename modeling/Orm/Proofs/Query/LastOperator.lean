import Orm.Proofs.Query.Flattening

/-!
# Queries with one more operator

To combine a query with a statement, or to count its rows, changes one field of its flat query and
nothing else: `flatten_combine` and `flatten_count` say so of the operator that is applied last.
-/

namespace Orm

/-- A flattening is finished with the combination and the count that were put into it. -/
theorem Flattening.finish_terminals (state : Flattening) :
    state.finish.setOperation = state.flat.setOperation ∧
      state.finish.count = state.flat.count := by
  unfold finish
  split
  · dsimp only
    split <;> exact ⟨rfl, rfl⟩
  · exact ⟨rfl, rfl⟩

/-- The combination and the count decide nothing else about a finished flattening. -/
theorem Flattening.finish_update (state : Flattening) (operation : Option SetOperation)
    (count : Bool) :
    (state.update fun flat => { flat with setOperation := operation, count := count }).finish
      = { state.finish with setOperation := operation, count := count } := by
  unfold finish update
  dsimp only
  split
  · split <;> rfl
  · rfl

namespace Query

variable {query : Query} {flat : FlatQuery}

/-- The last operator is put in its place after the others. -/
theorem flatten_apply (query : Query) (operator : QueryOperator) :
    (query.apply operator).flatten = (do
      let state ← query.operators.foldlM Flattening.step
        ⟨.ofTable query.baseAlias query.baseTable, []⟩
      return (← state.step operator).finish) := by
  unfold flatten apply
  rw [List.foldlM_append]
  simp only [List.foldlM_cons, List.foldlM_nil, Except.map]
  cases query.operators.foldlM Flattening.step
      ⟨.ofTable query.baseAlias query.baseTable, []⟩ with
  | error error => rfl
  | ok state =>
      cases hstep : state.step operator <;> simp [bind, Except.bind, pure, Except.pure, hstep]

/-- A query that can be combined with a statement has a flat query without it, which differs in the
combination only. -/
theorem flatten_combine {operation : SetOperation}
    (h : (query.apply (.combine operation)).flatten = .ok flat) :
    ∃ plain, query.flatten = .ok plain ∧ plain.setOperation = none ∧
      flat = { plain with setOperation := some operation } := by
  rw [flatten_apply] at h
  obtain ⟨state, hstate, h⟩ := Action.bind_eq_ok_iff.1 h
  obtain ⟨next, hnext, hflat⟩ := Action.bind_eq_ok_iff.1 h
  cases hflat
  obtain ⟨hset, hcount⟩ := state.finish_terminals
  rw [Flattening.step] at hnext
  split at hnext
  · cases hnext
  next hnone =>
  split at hnext
  · cases hnext
  split at hnext
  · cases hnext
  cases hnext
  refine ⟨state.finish, Action.map_eq_ok_iff.2 ⟨state, hstate, rfl⟩, ?_, ?_⟩
  · rw [hset]
    exact Option.not_isSome_iff_eq_none.1 hnone
  · refine (state.finish_update (some operation) state.flat.count).trans ?_
    rw [← hcount]

/-- The rows of a query that is neither counted nor combined can be counted, and its flat query
differs in the count only. -/
theorem flatten_count {plain : FlatQuery} (h : query.flatten = .ok plain)
    (hcount : plain.count = false) (hset : plain.setOperation = none) :
    (query.apply .count).flatten = .ok { plain with count := true } := by
  obtain ⟨state, hstate, rfl⟩ := Action.map_eq_ok_iff.1 h
  obtain ⟨hsame, hcounted⟩ := state.finish_terminals
  rw [flatten_apply]
  refine Action.bind_eq_ok_iff.2 ⟨state, hstate, ?_⟩
  refine Action.bind_eq_ok_iff.2 ⟨state.update fun flat => { flat with count := true }, ?_, ?_⟩
  · rw [Flattening.step, ← hcounted, hcount, ← hsame, hset]
    rfl
  · refine congrArg Except.ok ((state.finish_update state.flat.setOperation true).trans ?_)
    rw [← hsame]

end Query

end Orm
