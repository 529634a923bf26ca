import Orm.Entity.Store

/-!
# Pending changes

A `PendingSet` names the entities that wait for submission, in the order of their creation. An
entity of the set can have nothing to write; `PendingSet.dirty` leaves such entities out.
-/

namespace Orm

/-- The entities that wait for submission, in ascending order. -/
structure PendingSet where
  ids : List EntityId
  ascending : ids.Pairwise (· < ·)

namespace PendingSet

instance : DecidableEq PendingSet := fun left right =>
  match left, right with
  | ⟨first, _⟩, ⟨second, _⟩ =>
      if h : first = second then isTrue (by subst h; rfl)
      else isFalse fun same => h (congrArg PendingSet.ids same)

/-- The set without entities. -/
def empty : PendingSet := ⟨[], List.Pairwise.nil⟩

instance : Inhabited PendingSet := ⟨empty⟩

/-- Puts an identity at its place among ascending ones, unless it is there. -/
def place (id : EntityId) : List EntityId → List EntityId
  | [] => [id]
  | other :: rest =>
      if id < other then id :: other :: rest
      else if id = other then other :: rest
      else other :: place id rest

theorem mem_place {id other : EntityId} {ids : List EntityId} :
    other ∈ place id ids ↔ other = id ∨ other ∈ ids := by
  induction ids with
  | nil => simp [place]
  | cons head rest ih =>
      unfold place
      split
      · simp
      · split
        · next same => subst same; simp
        · simp [ih, or_left_comm]

theorem ascending_place (id : EntityId) {ids : List EntityId}
    (ascending : ids.Pairwise (· < ·)) : (place id ids).Pairwise (· < ·) := by
  induction ids with
  | nil => simp [place]
  | cons head rest ih =>
      obtain ⟨below, restAscending⟩ := List.pairwise_cons.1 ascending
      unfold place
      split
      · next less =>
        refine List.pairwise_cons.2 ⟨fun other member => ?_, ascending⟩
        rcases List.mem_cons.1 member with h | h
        · subst h; exact less
        · exact Nat.lt_trans less (below other h)
      · next notLess =>
        split
        · exact ascending
        · next different =>
          refine List.pairwise_cons.2 ⟨fun other member => ?_, ih restAscending⟩
          rcases mem_place.1 member with h | h
          · subst h
            have apart : head.index ≠ other.index := fun same =>
              different (by cases other; cases head; simp_all)
            exact Nat.lt_of_le_of_ne (Nat.le_of_not_lt notLess) apart
          · exact below other h

/-- The set with an entity. -/
def mark (pending : PendingSet) (id : EntityId) : PendingSet :=
  ⟨place id pending.ids, ascending_place id pending.ascending⟩

/-- The set without an entity. -/
def remove (pending : PendingSet) (id : EntityId) : PendingSet :=
  ⟨pending.ids.filter (· ≠ id), pending.ascending.filter _⟩

/-- Whether the set has an entity. -/
def contains (pending : PendingSet) (id : EntityId) : Bool := id ∈ pending.ids

/-- Whether the set has no entities. -/
def isEmpty (pending : PendingSet) : Bool := pending.ids.isEmpty

/-- The number of entities. -/
def size (pending : PendingSet) : Nat := pending.ids.length

/-- The entities of the set that have something to write, in the order of their creation. -/
def dirty (pending : PendingSet) (store : EntityStore) : List EntityId :=
  pending.ids.filter fun id => (store.get? id).any fun entity => entity.state.isDirty

/-- The tables of the entities of the set, sorted by full name. -/
def tables (pending : PendingSet) (store : EntityStore) : List Table :=
  ((pending.ids.filterMap fun id => (store.get? id).map Entity.table).mergeSort
    fun left right => left.fullName ≤ right.fullName).eraseReps

/-- The set after a notice. -/
def notice (pending : PendingSet) : Notice → PendingSet
  | .track id => pending.mark id
  | .forget id => pending.remove id
  | .changed _ _ => pending

@[simp]
theorem mem_mark {pending : PendingSet} {id other : EntityId} :
    other ∈ (pending.mark id).ids ↔ other = id ∨ other ∈ pending.ids :=
  mem_place

@[simp]
theorem mem_remove {pending : PendingSet} {id other : EntityId} :
    other ∈ (pending.remove id).ids ↔ other ∈ pending.ids ∧ other ≠ id := by
  simp [remove]

end PendingSet

end Orm
