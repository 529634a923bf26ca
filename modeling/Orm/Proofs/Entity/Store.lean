import Mathlib.Data.List.Forall2
import Orm.Entity.Store

/-!
# What a change of one entity changes

A change of one entity leaves all others as they are (`get_modify`), one more entity gets an
identity that no other has (`get_add`), and a store is known by the entities that it gives
(`ext_get`).
-/

namespace Orm

/-- Identities are equal if they name the same place. -/
theorem EntityId.index_inj {left right : EntityId} : left.index = right.index ↔ left = right := by
  cases left
  cases right
  simp

namespace EntityStore

/-- The entities after a change of one of them. -/
theorem get_modify (store : EntityStore) (id other : EntityId) (change : Entity → Entity) :
    (store.modify id change).get? other
      = if id = other then (store.get? id).map change else store.get? other := by
  simp only [modify, get?, Array.getElem?_modify, EntityId.index_inj]
  split
  · next hsame => rw [hsame]
  · rfl

/-- The changed entity. -/
theorem get_modify_self (store : EntityStore) (id : EntityId) (change : Entity → Entity) :
    (store.modify id change).get? id = (store.get? id).map change := by
  rw [get_modify, if_pos rfl]

/-- The other entities. -/
theorem get_modify_of_ne (store : EntityStore) {id other : EntityId} (h : id ≠ other)
    (change : Entity → Entity) : (store.modify id change).get? other = store.get? other := by
  rw [get_modify, if_neg h]

/-- The entities with one more. -/
theorem get_add (store : EntityStore) (entity : Entity) (id : EntityId) :
    (store.add entity).2.get? id
      = if id = (store.add entity).1 then some entity else store.get? id := by
  simp only [add, get?, Array.getElem?_push, ← EntityId.index_inj]

/-- A new entity gets an identity that no other has. -/
theorem get_add_fst (store : EntityStore) (entity : Entity) :
    store.get? (store.add entity).1 = none :=
  Array.getElem?_eq_none (Nat.le_refl _)

/-- Of some entities the first one is added before the other ones. -/
theorem add_all_cons (store : EntityStore) (row : Entity) (rest : List Entity) :
    (store.addAll (row :: rest)).2 = ((store.add row).2.addAll rest).2 := rfl

/-- An entity stays when others are added. -/
theorem get_add_all_of_get {store : EntityStore} {id : EntityId} {entity : Entity}
    (hentity : store.get? id = some entity) (rows : List Entity) :
    (store.addAll rows).2.get? id = some entity := by
  induction rows generalizing store with
  | nil => exact hentity
  | cons row rest ih =>
      have hother : id ≠ (store.add row).1 := by
        rintro rfl
        rw [get_add_fst] at hentity
        cases hentity
      rw [add_all_cons]
      exact ih (by rw [get_add, if_neg hother, hentity])

/-- Entities that are added get identities in their order. -/
theorem get_add_all_in_order (store : EntityStore) (rows : List Entity) :
    List.Forall₂ (fun id row => (store.addAll rows).2.get? id = some row)
      (store.addAll rows).1 rows := by
  induction rows generalizing store with
  | nil => exact .nil
  | cons row rest ih =>
      have hrow : (store.add row).2.get? (store.add row).1 = some row := by
        rw [get_add, if_pos rfl]
      exact .cons (get_add_all_of_get hrow rest) (ih (store.add row).2)

/-- Entities that are added are found under the identities that they get. -/
theorem get_add_all (store : EntityStore) (rows : List Entity) :
    (store.addAll rows).1.length = rows.length ∧
      ∀ id ∈ (store.addAll rows).1, ∃ row ∈ rows, (store.addAll rows).2.get? id = some row := by
  obtain ⟨hlength, hget⟩ := List.forall₂_iff_get.1 (store.get_add_all_in_order rows)
  refine ⟨hlength, fun id hid => ?_⟩
  obtain ⟨index, hindex, rfl⟩ := List.getElem_of_mem hid
  exact ⟨rows[index], List.getElem_mem _, hget index hindex (hlength ▸ hindex)⟩

/-- After some entities were added an entity is one from before or one of them. -/
theorem get_add_all_cases {store : EntityStore} {id : EntityId} {entity : Entity}
    {rows : List Entity} (h : (store.addAll rows).2.get? id = some entity) :
    store.get? id = some entity ∨ store.get? id = none ∧ entity ∈ rows := by
  induction rows generalizing store with
  | nil => exact .inl h
  | cons row rest ih =>
      rw [add_all_cons] at h
      rcases ih h with hget | ⟨hnone, hmem⟩
      · rw [get_add] at hget
        split at hget
        · next hsame =>
          obtain rfl := Option.some.inj hget
          exact .inr ⟨hsame ▸ store.get_add_fst row, List.mem_cons_self⟩
        · exact .inl hget
      · rw [get_add] at hnone
        split at hnone
        · cases hnone
        · exact .inr ⟨hnone, List.mem_cons_of_mem _ hmem⟩

/-- To add some entities and then others is to add all of them. -/
theorem add_all_append (store : EntityStore) (rows more : List Entity) :
    ((store.addAll rows).2.addAll more).2 = (store.addAll (rows ++ more)).2 := by
  induction rows generalizing store with
  | nil => rfl
  | cons row rest ih => exact ih (store.add row).2

/-- Two stores with the same entities are the same. -/
theorem ext_get {left right : EntityStore} (h : ∀ id, left.get? id = right.get? id) :
    left = right := by
  cases left
  cases right
  congr 1
  exact Array.ext_getElem? fun index => h ⟨index⟩

/-- A column of an entity is present with what it holds, if that is not null. -/
theorem present_eq_filter (store : EntityStore) (id : EntityId) (column : String) :
    store.present? id column
      = ((store.get? id).bind fun entity => entity.values.find? column).filter
          fun value => !value.isNull := by
  rw [present?]
  cases store.get? id <;> rfl

end EntityStore

namespace Entity

/-- Two entities are the same row of the same table for the same owner. -/
structure SameRow (left right : Entity) : Prop where
  owner : left.owner = right.owner
  table : left.table = right.table
  columns : left.columns = right.columns

/-- A row is the same as itself. -/
theorem SameRow.refl (entity : Entity) : entity.SameRow entity := ⟨rfl, rfl, rfl⟩

/-- Whatever is present in one entity is present in another one with the same value. -/
def PresentIn (old new : Entity) : Prop :=
  ∀ column value, old.present? column = some value → new.present? column = some value

/-- A column is present with a value that it holds and that is not null. -/
theorem present_eq_some_iff {entity : Entity} {column : String} {value : Value} :
    entity.present? column = some value ↔
      entity.values.find? column = some value ∧ value.isNull = false := by
  simp [present?, Option.filter_eq_some_iff]

/-- A column with a value is present with what it holds. -/
theorem present_of_has_value {entity : Entity} {column : String}
    (h : entity.hasValue column = true) :
    entity.present? column = some ((entity.values.find? column).getD .null) := by
  obtain ⟨value, hvalue⟩ := Option.isSome_iff_exists.1 h
  rw [hvalue, (present_eq_some_iff.1 hvalue).1, Option.getD_some]

/-- A column is not present if it holds nothing or null. -/
theorem present_eq_none_iff {entity : Entity} {column : String} :
    entity.present? column = none ↔
      ∀ value, entity.values.find? column = some value → value.isNull = true := by
  simp [present?, Option.filter_eq_none_iff]

/-- A stored value that is not null is present, and the other columns are as they were. -/
theorem present_store (entity : Entity) (column asked : String) {value : Value}
    (hvalue : value.isNull = false) :
    (entity.store column value).present? asked
      = if asked = column then some value else entity.present? asked := by
  rw [present?, store, NameMap.find?_insert]
  split
  · exact Option.filter_some_pos (by simp [hvalue])
  · rfl

end Entity

end Orm
