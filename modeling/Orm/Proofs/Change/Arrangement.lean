import Mathlib.Data.List.Nodup
import Orm.Change.WritePlan
import Orm.Proofs.Change.DependencyOrder

/-!
# Arrangements of entities

`WritePlan.ordered` puts nodes in an order that respects pairs of places. An order that respects a
relation between the nodes themselves is an arrangement: `arranges_of_ordered` says that every
order it gives is one, and `not_arranges_of_ordered` that it refuses only nodes that have none.
-/

namespace Orm.WritePlan

/-- `order` has exactly the given nodes, and of two that depend on each other the first one comes
earlier. -/
structure Arranges (before : EntityId → EntityId → Prop) (nodes order : List EntityId) :
    Prop where
  perm : order.Perm nodes
  earlier : ∀ first ∈ nodes, ∀ second ∈ nodes, before first second →
    order.idxOf first < order.idxOf second

/-- Fewer dependencies are respected too. -/
theorem Arranges.mono {before other : EntityId → EntityId → Prop} {nodes order : List EntityId}
    (h : Arranges before nodes order)
    (hsub : ∀ first ∈ nodes, ∀ second ∈ nodes, other first second → before first second) :
    Arranges other nodes order where
  perm := h.perm
  earlier := fun first hfirst second hsecond hother =>
    h.earlier first hfirst second hsecond (hsub first hfirst second hsecond hother)

/-- The dependencies that pairs of places stand for. -/
def Between (nodes : List EntityId) (edges : List (Nat × Nat)) (first second : EntityId) : Prop :=
  ∃ edge ∈ edges, nodes[edge.1]? = some first ∧ nodes[edge.2]? = some second

/-- Places looked up one after the other keep their order. -/
theorem idx_of_filter_map {nodes : List EntityId} (hnodup : nodes.Nodup) {places : List Nat}
    (hplaces : ∀ place ∈ places, place < nodes.length) {place : Nat} {id : EntityId}
    (hmem : place ∈ places) (hid : nodes[place]? = some id) :
    (places.filterMap fun place => nodes[place]?).idxOf id = places.idxOf place := by
  induction places with
  | nil => simp at hmem
  | cons head rest ih =>
      have hhead : head < nodes.length := hplaces head List.mem_cons_self
      rw [List.filterMap_cons_some (List.getElem?_eq_getElem hhead), List.idxOf_cons,
        List.idxOf_cons]
      by_cases hsame : head = place
      · subst hsame
        rw [List.getElem?_eq_getElem hhead, Option.some.injEq] at hid
        simp [hid]
      · have hne : nodes[head] ≠ id := by
          intro heq
          obtain ⟨hplace, heq'⟩ := List.getElem?_eq_some_iff.1 hid
          exact hsame (hnodup.getElem_inj_iff.1 (heq.trans heq'.symm))
        have hrest := ih (fun other hother => hplaces other (List.mem_cons_of_mem _ hother))
          ((List.mem_cons.1 hmem).resolve_left (Ne.symm hsame))
        rw [beq_eq_false_iff_ne.2 hne, beq_eq_false_iff_ne.2 hsame, hrest]

/-- All places in any order give all nodes. -/
theorem filter_map_perm {nodes : List EntityId} {places : List Nat}
    (hplaces : places.Perm (List.range nodes.length)) :
    (places.filterMap fun place => nodes[place]?).Perm nodes := by
  have hall : ∀ nodes : List EntityId,
      ((List.range nodes.length).filterMap fun place => nodes[place]?) = nodes := by
    intro nodes
    induction nodes with
    | nil => rfl
    | cons node rest ih =>
        rw [List.length_cons, List.range_succ_eq_map]
        show node :: ((List.range rest.length).map Nat.succ).filterMap
          (fun place => (node :: rest)[place]?) = node :: rest
        rw [List.filterMap_map]
        exact congrArg (node :: ·) ih
  exact (hplaces.filterMap _).trans (.of_eq (hall nodes))

section Ordered

variable {store : EntityStore} {nodes order : List EntityId} {edges : List (Nat × Nat)}

/-- If no place is left over, the nodes are put in the order of their places. -/
theorem ordered_of_length_eq
    (h : (DependencyOrder.run nodes.length edges).sequence.length = nodes.length) :
    ordered store nodes edges = .ok
      ((DependencyOrder.run nodes.length edges).sequence.filterMap fun node => nodes[node]?) :=
  if_neg (Nat.not_lt.2 (Nat.le_of_eq h.symm))

/-- If places are left over, the nodes are refused with the tables of those in these places. -/
theorem ordered_of_length_ne
    (h : (DependencyOrder.run nodes.length edges).sequence.length ≠ nodes.length) :
    ordered store nodes edges = .error (.dependencyCycle (sortedNames
      ((DependencyOrder.run nodes.length edges).blocked.filterMap fun node =>
        nodes[node]?.bind fun id => (store.get? id).map fun entity => entity.table.fullName))) :=
  if_pos (Nat.lt_of_le_of_ne (DependencyOrder.length_sequence_le nodes.length edges) h)

/-- An order of nodes has each node once and respects every pair of places. -/
theorem arranges_of_ordered (hnodup : nodes.Nodup)
    (hbound : ∀ edge ∈ edges, edge.2 < nodes.length)
    (h : ordered store nodes edges = .ok order) : Arranges (Between nodes edges) nodes order := by
  by_cases hfull : (DependencyOrder.run nodes.length edges).sequence.length = nodes.length
  · rw [ordered_of_length_eq hfull] at h
    have hperm := DependencyOrder.sequence_perm_range hfull
    have hlt : ∀ place ∈ (DependencyOrder.run nodes.length edges).sequence,
        place < nodes.length := fun place hplace => List.mem_range.1 (hperm.mem_iff.1 hplace)
    cases h
    refine ⟨filter_map_perm hperm, ?_⟩
    rintro first - second - ⟨edge, hedge, hfirst, hsecond⟩
    have hmem : ∀ place < nodes.length,
        place ∈ (DependencyOrder.run nodes.length edges).sequence := fun place hplace =>
      hperm.mem_iff.2 (List.mem_range.2 hplace)
    have hedge1 : edge.1 < nodes.length := (List.getElem?_eq_some_iff.1 hfirst).1
    rw [idx_of_filter_map hnodup hlt (hmem _ hedge1) hfirst,
      idx_of_filter_map hnodup hlt (hmem _ (hbound edge hedge)) hsecond]
    exact DependencyOrder.idx_of_lt_of_edge hedge (hmem _ (hbound edge hedge))
  · rw [ordered_of_length_ne hfull] at h
    cases h

/-- Nodes are refused only as a cycle, and only if no order respects every pair of places. -/
theorem not_arranges_of_ordered {error : PersistError}
    (hbound : ∀ edge ∈ edges, edge.1 < nodes.length ∧ edge.2 < nodes.length)
    (h : ordered store nodes edges = .error error) :
    (∃ tables, error = .dependencyCycle tables) ∧
      ¬ ∃ order, Arranges (Between nodes edges) nodes order := by
  by_cases hfull : (DependencyOrder.run nodes.length edges).sequence.length = nodes.length
  · rw [ordered_of_length_eq hfull] at h
    cases h
  · rw [ordered_of_length_ne hfull] at h
    cases h
    refine ⟨⟨_, rfl⟩, ?_⟩
    rintro ⟨order, harranges⟩
    refine hfull (DependencyOrder.length_sequence_of_rank (fun edge hedge => (hbound edge hedge).1)
      (fun place => (nodes[place]?.map fun id => order.idxOf id).getD 0) fun edge hedge => ?_)
    obtain ⟨hfirst, hsecond⟩ := hbound edge hedge
    simp only [List.getElem?_eq_getElem hfirst, List.getElem?_eq_getElem hsecond, Option.map_some,
      Option.getD_some]
    exact harranges.earlier _ (List.getElem_mem hfirst) _ (List.getElem_mem hsecond)
      ⟨edge, hedge, List.getElem?_eq_getElem hfirst, List.getElem?_eq_getElem hsecond⟩

end Ordered

end Orm.WritePlan
