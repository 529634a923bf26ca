import Orm.Proofs.Query.Interleaving
import Orm.Proofs.Sql.Statement

/-!
# The order of the tables of a statement

A statement joins its tables from left to right, so the condition of a join can use only what stands
before it. If every join of a query starts from an alias that is known by then, `in_order_joins_iff`
says when the conditions of its statement do so: all joins along relationships stand before all
cross joins, so none of them may start from the target of a cross join.
-/

namespace Orm

/-! ## Left to right -/

/-- A name that a piece introduces. -/
def SqlPiece.name? : SqlPiece → Option String
  | .name identifier => some identifier
  | .word _ | .table _ | .column _ _ | .star _ | .slot _ => none

/-- The names that a part of a statement introduces. In a clause of tables they are aliases. -/
def introduced (pieces : SqlPieces) : List String := pieces.filterMap SqlPiece.name?

/-- Two parts introduce what each of them introduces. -/
theorem introduced_append (left right : SqlPieces) :
    introduced (left ++ right) = introduced left ++ introduced right :=
  List.filterMap_append

/-- Some parts in a row introduce what each of them introduces. -/
theorem introduced_flat_map {α : Type} (items : List α) (part : α → SqlPieces) :
    introduced (items.flatMap part) = items.flatMap fun item => introduced (part item) :=
  List.filterMap_flatMap

/-- Every alias that qualifies a column is known or introduced before it. -/
def InOrder (known : List String) (pieces : SqlPieces) : Prop :=
  ∀ (before : SqlPieces) (piece : SqlPiece) (after : SqlPieces) (aliasName : String),
    pieces = before ++ piece :: after → piece.qualifier? = some aliasName →
      aliasName ∈ known ++ introduced before

section InOrder

variable {known : List String} {pieces left right : SqlPieces}

/-- Nothing is in order. -/
theorem in_order_nil : InOrder known [] := by
  intro before piece after aliasName hsplit
  cases before <;> cases hsplit

/-- The first piece uses what is known, and the others can use the name that it introduces. -/
theorem in_order_cons_iff {piece : SqlPiece} : InOrder known (piece :: pieces) ↔
    (∀ aliasName, piece.qualifier? = some aliasName → aliasName ∈ known) ∧
      InOrder (known ++ piece.name?.toList) pieces := by
  have hintroduced : ∀ before, known ++ introduced (piece :: before)
      = known ++ piece.name?.toList ++ introduced before := by
    intro before
    rw [introduced, List.filterMap_cons]
    cases piece.name? <;> simp [introduced]
  constructor
  · intro h
    refine ⟨fun aliasName halias => ?_, fun before other after aliasName hsplit halias => ?_⟩
    · simpa [introduced] using h [] piece pieces aliasName rfl halias
    · rw [← hintroduced]
      exact h (piece :: before) other after aliasName (congrArg (piece :: ·) hsplit) halias
  · intro h before other after aliasName hsplit halias
    cases before with
    | nil =>
        cases hsplit
        simpa [introduced] using h.1 aliasName halias
    | cons first rest =>
        obtain ⟨rfl, hrest⟩ := List.cons.inj hsplit
        rw [hintroduced]
        exact h.2 rest other after aliasName hrest halias

/-- The second part can use what the first one introduces. -/
theorem in_order_append_iff :
    InOrder known (left ++ right) ↔
      InOrder known left ∧ InOrder (known ++ introduced left) right := by
  induction left generalizing known with
  | nil => simp [in_order_nil, introduced]
  | cons piece rest ih =>
      rw [List.cons_append, in_order_cons_iff, in_order_cons_iff, ih, and_assoc]
      have hintroduced : introduced (piece :: rest) = piece.name?.toList ++ introduced rest := by
        rw [introduced, List.filterMap_cons]
        cases piece.name? <;> rfl
      rw [hintroduced, List.append_assoc]

/-- A part that qualifies no column is in order. -/
theorem in_order_of_unqualified (h : qualifiers pieces = []) : InOrder known pieces := by
  intro before piece after aliasName hsplit halias
  have hmem : piece ∈ pieces := by
    rw [hsplit]
    exact List.mem_append_right _ List.mem_cons_self
  rw [List.filterMap_eq_nil_iff.1 h piece hmem] at halias
  cases halias

/-- A part that introduces nothing uses what is known. -/
theorem in_order_iff_of_unnamed (h : introduced pieces = []) :
    InOrder known pieces ↔ ∀ aliasName ∈ qualifiers pieces, aliasName ∈ known := by
  induction pieces with
  | nil => simp [in_order_nil, qualifiers]
  | cons piece rest ih =>
      rw [introduced, List.filterMap_cons] at h
      rw [in_order_cons_iff, qualifiers, List.filterMap_cons]
      cases hname : piece.name? with
      | some name =>
          rw [hname] at h
          cases h
      | none =>
          rw [hname] at h
          rw [Option.toList_none, List.append_nil, ih h]
          cases piece.qualifier? <;> simp [qualifiers]

end InOrder

/-! ## Joins -/

namespace FlatQuery

variable {flat : FlatQuery} {known : List String}

/-- The condition of a join introduces nothing. -/
theorem introduced_join_condition (source : String) (join : JoinEntry) :
    introduced (joinCondition source join) = [] := by
  rw [joinCondition, introduced, filter_map_separated (fun _ => rfl), List.filterMap_eq_nil_iff]
  intro piece hpiece
  obtain ⟨part, hpart, hpiece⟩ := List.mem_flatten.1 hpiece
  obtain ⟨pair, -, rfl⟩ := List.mem_map.1 hpart
  simp only [List.mem_cons, List.not_mem_nil, or_false] at hpiece
  rcases hpiece with rfl | rfl | rfl <;> rfl

/-- The condition of a join uses the alias that it starts from and the one that it leads to. -/
theorem mem_qualifiers_join_condition {source aliasName : String} {join : JoinEntry} :
    aliasName ∈ qualifiers (joinCondition source join) ↔
      join.spec.keyPairs ≠ [] ∧ (aliasName = source ∨ aliasName = join.target) := by
  rw [joinCondition, qualifiers, filter_map_separated (fun _ => rfl)]
  induction join.spec.keyPairs with
  | nil => simp
  | cons pair rest ih =>
      rw [List.map_cons, List.flatten_cons, List.filterMap_append, List.mem_append, ih]
      simp only [List.filterMap_cons, SqlPiece.qualifier?, List.filterMap_nil, List.mem_cons,
        List.not_mem_nil, or_false, ne_eq, reduceCtorEq, not_false_eq_true, true_and]
      exact or_iff_left_of_imp And.right

/-- A join along a relationship introduces its target. -/
theorem introduced_join_text (join : JoinEntry) :
    introduced (flat.joinText join) = [join.target] := by
  have hcondition := introduced_join_condition (flat.resolve join.source) join
  exact congrArg (join.target :: ·) hcondition

/-- The condition of a join can use the alias that the join starts from if it is known by then. -/
theorem in_order_join_text_iff {join : JoinEntry} : InOrder known (flat.joinText join) ↔
    (join.spec.keyPairs ≠ [] → flat.resolve join.source ∈ known ++ [join.target]) := by
  have hhead : InOrder known (flat.joinText join) ↔
      InOrder (known ++ [join.target]) (joinCondition (flat.resolve join.source) join) := by
    simp [joinText, in_order_cons_iff, SqlPiece.qualifier?, SqlPiece.name?]
  rw [hhead, in_order_iff_of_unnamed (introduced_join_condition _ _)]
  simp only [mem_qualifiers_join_condition]
  constructor
  · intro h hpairs
    exact h _ ⟨hpairs, .inl rfl⟩
  · intro h aliasName hused
    rcases hused.2 with rfl | rfl
    · exact h hused.1
    · exact List.mem_append_right _ (List.mem_singleton_self _)

end FlatQuery

/-! ## Chains of joins -/

open QueryOperator

/-- Every join of a query starts from a known alias and leads to a new one, which is known to the
joins after it. -/
def WellScoped : List String → List QueryOperator → Prop
  | _, [] => True
  | known, operator :: rest =>
      match operator.ends? with
      | none => WellScoped known rest
      | some (source, target) =>
          source ∈ known ∧ target ∉ known ∧ WellScoped (known ++ [target]) rest

namespace WellScoped

variable {known : List String} {operators : List QueryOperator}

/-- No later cross join leads to what is known. -/
theorem fresh_crossed (h : WellScoped known operators) {cross : TableOccurrence}
    (hcross : cross ∈ operators.filterMap crossed?) : cross.aliasName ∉ known := by
  induction operators generalizing known with
  | nil => cases hcross
  | cons operator rest ih =>
      cases operator with
      | join source spec target =>
          obtain ⟨-, -, hrest⟩ := h
          intro hknown
          exact ih hrest hcross (List.mem_append_left _ hknown)
      | crossJoin source table target =>
          obtain ⟨-, hnew, hrest⟩ := h
          rcases List.mem_cons.1 hcross with rfl | hcross
          · exact hnew
          · intro hknown
            exact ih hrest hcross (List.mem_append_left _ hknown)
      | _ => exact ih h hcross

/-- The first join starts from what is known. -/
theorem first_ends (h : WellScoped known operators) {source target : String}
    {others : List (String × String)}
    (hends : operators.filterMap ends? = (source, target) :: others) : source ∈ known := by
  induction operators with
  | nil => cases hends
  | cons operator rest ih =>
      cases operator with
      | join start spec other | crossJoin start table other =>
          obtain ⟨hstart, -, -⟩ := h
          cases hends
          exact hstart
      | _ => exact ih h hends

end WellScoped

namespace Flattening

/-- An alias is known after another one was noted if it was known or is that one. -/
theorem mem_noted_iff {known : List String} {aliasName other : String} :
    aliasName ∈ noted known other ↔ aliasName ∈ known ∨ aliasName = other := by
  unfold noted
  split
  · next hmem =>
    constructor
    · exact .inl
    · intro h
      exact h.elim id fun heq => heq ▸ hmem
  · rw [List.mem_append, List.mem_singleton]

/-- Noted aliases stay noted. -/
theorem mem_foldl_noted {aliasName : String} (ends : List (String × String)) {known : List String}
    (h : aliasName ∈ known) :
    aliasName ∈ ends.foldl (fun known ends => noted (noted known ends.1) ends.2) known := by
  induction ends generalizing known with
  | nil => exact h
  | cons first rest ih => exact ih (mem_noted_iff.2 (.inl (mem_noted_iff.2 (.inl h))))

/-- The base table is the default occurrence if a join mentions its alias or there are no joins. -/
theorem finish_child_of_mem {state : Flattening}
    (h : state.endpoints ≠ [] → state.flat.base.aliasName ∈ state.endpoints) :
    state.finish.child = state.flat.base := by
  unfold finish
  split
  · next aliasName rest hendpoints =>
    dsimp only
    rw [if_neg fun hrenamed => hrenamed.2 (h (by rw [hendpoints]; exact List.cons_ne_nil _ _))]
  · rfl

end Flattening

namespace FlatQuery

variable {flat : FlatQuery}

/-- An alias stays as it is if the base table is the default occurrence. -/
theorem resolve_eq_self (h : flat.child = flat.base) (aliasName : String) :
    flat.resolve aliasName = aliasName := by
  have hsource : flat.sourceAlias = flat.base.aliasName := by
    rw [sourceAlias, h, ite_self]
  unfold resolve
  split
  · next hbase => rw [hsource, hbase]
  · rfl

/-- A chain of joins does not give the base table another name. -/
theorem resolve_of_well_scoped {query : Query} (h : query.flatten = .ok flat)
    (hscoped : WellScoped [query.baseAlias] query.operators) (aliasName : String) :
    flat.resolve aliasName = aliasName := by
  obtain ⟨-, rfl⟩ := flatten_eq_ok_iff.1 h
  refine resolve_eq_self ?_ aliasName
  rw [(Flattening.finish_tables _).1]
  refine Flattening.finish_child_of_mem fun hendpoints => ?_
  unfold Flattening.gathered at hendpoints ⊢
  cases hends : query.operators.filterMap ends? with
  | nil =>
      rw [hends] at hendpoints
      exact absurd rfl hendpoints
  | cons first others =>
      have hfirst := List.mem_singleton.1 (hscoped.first_ends hends)
      refine Flattening.mem_foldl_noted others ?_
      rw [Flattening.mem_noted_iff, Flattening.mem_noted_iff]
      exact .inl (.inr hfirst.symm)

/-- The declared aliases are those that stand before the rest of the joins along relationships and
those of the cross joins so far, which stand behind all of them. -/
structure AliasesPlaced (declared known crossed : List String) : Prop where
  declared_iff : ∀ aliasName, aliasName ∈ declared ↔ aliasName ∈ known ∨ aliasName ∈ crossed
  disjoint : ∀ aliasName ∈ known, aliasName ∉ crossed

namespace AliasesPlaced

variable {declared known crossed : List String} {target : String}

/-- The target of a join along a relationship stands before the rest of them. -/
theorem join (h : AliasesPlaced declared known crossed) (hnew : target ∉ declared) :
    AliasesPlaced (declared ++ [target]) (known ++ [target]) crossed where
  declared_iff := fun aliasName => by
    rw [List.mem_append, List.mem_append, h.declared_iff, or_right_comm]
  disjoint := fun aliasName hknown hcrossed => by
    rcases List.mem_append.1 hknown with hknown | htarget
    · exact h.disjoint aliasName hknown hcrossed
    · obtain rfl := List.mem_singleton.1 htarget
      exact hnew ((h.declared_iff aliasName).2 (.inr hcrossed))

/-- The target of a cross join stands behind all of them. -/
theorem cross_join (h : AliasesPlaced declared known crossed) (hnew : target ∉ declared) :
    AliasesPlaced (declared ++ [target]) known (crossed ++ [target]) where
  declared_iff := fun aliasName => by
    rw [List.mem_append, List.mem_append, h.declared_iff, or_assoc]
  disjoint := fun aliasName hknown hcrossed => by
    rcases List.mem_append.1 hcrossed with hcrossed | htarget
    · exact h.disjoint aliasName hknown hcrossed
    · obtain rfl := List.mem_singleton.1 htarget
      exact hnew ((h.declared_iff aliasName).2 (.inl hknown))

/-- A join starts from what stands before it and its own target if and only if it does not start
from the target of a cross join, be that one so far or a later one. -/
theorem source_iff (h : AliasesPlaced declared known crossed) {source : String}
    (hsource : source ∈ declared) (hnew : target ∉ declared) {rest : List QueryOperator}
    (hrest : WellScoped (declared ++ [target]) rest) :
    source ∈ known ++ [target] ↔
      source ∉ crossed ++ (rest.filterMap crossed?).map TableOccurrence.aliasName := by
  have hother : source ≠ target := fun heq => hnew (heq ▸ hsource)
  have hlater : source ∉ (rest.filterMap crossed?).map TableOccurrence.aliasName := by
    intro hmem
    obtain ⟨cross, hcross, rfl⟩ := List.mem_map.1 hmem
    exact hrest.fresh_crossed hcross (List.mem_append_left _ hsource)
  simp only [List.mem_append, List.mem_singleton, hother, or_false, not_or]
  constructor
  · intro hknown
    exact ⟨h.disjoint source hknown, hlater⟩
  · intro hapart
    exact ((h.declared_iff source).1 hsource).resolve_right hapart.1

end AliasesPlaced

/-- The joins along relationships of a chain are in order if and only if none of them starts from
the target of a cross join. -/
theorem in_order_joins_iff (hresolve : ∀ aliasName, flat.resolve aliasName = aliasName)
    {operators : List QueryOperator} {declared known crossed : List String}
    (h : WellScoped declared operators) (hplaced : AliasesPlaced declared known crossed) :
    InOrder known ((operators.filterMap joined?).flatMap flat.joinText) ↔
      ∀ join ∈ operators.filterMap joined?, join.spec.keyPairs ≠ [] →
        join.source ∉ crossed ++ (operators.filterMap crossed?).map TableOccurrence.aliasName := by
  induction operators generalizing declared known crossed with
  | nil => simp [in_order_nil]
  | cons operator rest ih =>
      cases operator with
      | join source spec target =>
          obtain ⟨hsource, hnew, hrest⟩ := h
          have hjoined : (.join source spec target :: rest).filterMap joined?
            = ⟨source, spec, target⟩ :: rest.filterMap joined? := rfl
          have hcrossed : (.join source spec target :: rest).filterMap crossed?
            = rest.filterMap crossed? := rfl
          rw [hjoined, hcrossed, List.flatMap_cons, in_order_append_iff, in_order_join_text_iff,
            introduced_join_text, hresolve, List.forall_mem_cons,
            hplaced.source_iff hsource hnew hrest, ih hrest (hplaced.join hnew)]
      | crossJoin source table target =>
          obtain ⟨-, hnew, hrest⟩ := h
          have hjoined : (.crossJoin source table target :: rest).filterMap joined?
            = rest.filterMap joined? := rfl
          have hcrossed : (.crossJoin source table target :: rest).filterMap crossed?
            = ⟨target, table⟩ :: rest.filterMap crossed? := rfl
          rw [hjoined, hcrossed, ih hrest (hplaced.cross_join hnew), List.map_cons,
            List.append_assoc, List.singleton_append]
      | _ => exact ih h hplaced

/-- The clause of tables introduces the base table, then the joins along relationships, then the
cross joins, and its conditions are in order if and only if those of the joins along relationships
are. -/
theorem from_clause_order {base : TableOccurrence} {tables : SqlPieces}
    (h : flat.fromClause base = .ok tables) :
    introduced tables = flat.resolve base.aliasName :: flat.joins.map JoinEntry.target ++
        flat.crossJoins.map TableOccurrence.aliasName ∧
      (InOrder [] tables ↔
        InOrder [flat.resolve base.aliasName] (flat.joins.flatMap flat.joinText)) := by
  obtain ⟨-, rfl⟩ := from_clause_eq_ok h
  have hjoins : introduced (flat.joins.flatMap flat.joinText)
      = flat.joins.map JoinEntry.target := by
    simp only [introduced_flat_map, introduced_join_text, ← List.map_eq_flatMap]
  have hcross : introduced (flat.crossJoins.flatMap crossText)
      = flat.crossJoins.map TableOccurrence.aliasName := by
    rw [introduced_flat_map, List.map_eq_flatMap]
    rfl
  have hunused : qualifiers (flat.crossJoins.flatMap crossText) = [] := by
    rw [qualifiers, List.filterMap_flatMap]
    exact List.flatMap_eq_nil_iff.2 fun cross _ => rfl
  have hbase : introduced (flat.baseText base) = [flat.resolve base.aliasName] := rfl
  constructor
  · rw [introduced_append, introduced_append, hbase, hjoins, hcross]
    rfl
  · rw [in_order_append_iff, in_order_append_iff, hbase, List.nil_append]
    constructor
    · intro hordered
      exact hordered.1.2
    · intro hordered
      exact ⟨⟨in_order_of_unqualified rfl, hordered⟩, in_order_of_unqualified hunused⟩

end FlatQuery

end Orm
