import Orm.Proofs.Change.Written
import Orm.Proofs.Entity.Edits

/-!
# What linking a child does to it

Linking copies the known keys of the parent to the child by tracked writes: `KeysCopied` lists what
the child holds then and how its edits are recorded, `copy_keys_of_ok` says that copying does so if
it succeeds, and `link_parent_of_ok` that linking does no more than to keep the link on top of it.
-/

namespace Orm

/-! ## What linking stores -/

/-- A value that is not null is not null as a column keeps it. -/
theorem Value.not_null_coerce {affinity : Affinity} {value kept : Value}
    (h : value.coerce affinity = .ok kept) (hvalue : value.isNull = false) :
    kept.isNull = false := by
  unfold coerce at h
  split at h
  · cases hvalue
  · cases h
    rfl
  · split at h
    all_goals first
      | cases h
        exact hvalue
      | obtain ⟨converted, -, rfl⟩ := Action.map_eq_ok_iff.1 h
        rfl

namespace Entity

variable {entity edited : Entity} {column : String} {value kept : Value}

/-- A value that is not null is not null as a column of an entity keeps it. -/
theorem not_null_coerce_for (h : entity.coerceFor column value = .ok kept)
    (hvalue : value.isNull = false) : kept.isNull = false := by
  unfold coerceFor at h
  split at h
  · cases h
    exact hvalue
  · split at h
    · cases h
    · exact Value.not_null_coerce (Action.map_error_eq_ok_iff.1 h) hvalue

/-- A write of a value that succeeds stores it as the column keeps it. -/
theorem write_some_eq_ok (h : entity.write column (some value) = .ok edited) :
    entity.state.acceptsEdits = true ∧ ∃ kept, entity.coerceFor column value = .ok kept ∧
      edited = { entity with
        values := entity.values.insert column kept
        state := entity.state.recordEdit column } := by
  rw [write] at h
  split at h
  · next haccepts =>
    obtain ⟨values, hvalues, hedited⟩ := Action.bind_eq_ok_iff.1 h
    obtain ⟨kept, hkept, rfl⟩ := Action.map_eq_ok_iff.1 hvalues
    cases hedited
    exact ⟨haccepts, kept, hkept, rfl⟩
  · cases h

end Entity

namespace EntityState

/-- The state after edits of some columns. -/
def recordEdits (state : EntityState) (columns : List String) : EntityState :=
  columns.foldl (fun state column => state.recordEdit column) state

variable {state : EntityState} {columns : List String}

/-- Edits of a new row leave it new. -/
theorem record_edits_created (columns : List String) :
    recordEdits .created columns = .created := by
  induction columns with
  | nil => rfl
  | cons column rest ih => exact ih

/-- Edits of a row in the database add their columns to the edited ones. -/
theorem mem_record_edits (hkept : state.isKept = true) {column : String} :
    column ∈ (state.recordEdits columns).modifiedColumns ↔
      column ∈ columns ∨ column ∈ state.modifiedColumns := by
  induction columns generalizing state with
  | nil => simp [recordEdits]
  | cons head rest ih =>
      refine (ih (is_kept_record_edit.trans hkept)).trans ?_
      rw [mem_record_edit hkept, List.mem_cons, ← or_assoc, or_comm (a := column ∈ rest)]

/-- A row that accepts edits has something to write after some, and it is new or their columns are
edited. -/
theorem dirty_record_edits (haccepts : state.acceptsEdits = true) {column : String}
    (hcolumn : column ∈ columns) :
    (state.recordEdits columns).isDirty = true ∧ (state.recordEdits columns = .created ∨
      column ∈ (state.recordEdits columns).modifiedColumns) := by
  by_cases hkept : state.isKept = true
  · have hedited := (mem_record_edits hkept).2 (.inl hcolumn)
    refine ⟨?_, .inr hedited⟩
    cases hafter : state.recordEdits columns <;> rw [hafter] at hedited <;>
      first | rfl | cases hedited
  · obtain rfl : state = .created := by
      cases state <;> first | rfl | exact absurd rfl hkept | cases haccepts
    rw [record_edits_created]
    exact ⟨rfl, .inl rfl⟩

end EntityState

namespace Batch

/-- Of the pairs of a relationship in reverse order the last one for a column counts. -/
theorem key_for_reverse_cons (store : EntityStore) (parent : EntityId) (primary foreign : String)
    (rest : List (String × String)) (column : String) :
    keyFor store parent ((primary, foreign) :: rest).reverse column
      = (keyFor store parent rest.reverse column).or
          (if foreign = column then store.present? parent primary else none) := by
  rw [keyFor, List.reverse_cons, List.findSome?_append]
  congr 1
  simp

end Batch

namespace EntityStore

/-- The columns that copying the known keys of a parent writes. -/
def knownColumns (store : EntityStore) (parent : EntityId) (pairs : List (String × String)) :
    List String :=
  (pairs.filter fun pair => (store.present? parent pair.1).isSome).map Prod.snd

variable {store : EntityStore} {child parent : EntityId} {entity : Entity}

/-- A write of a value that succeeds stores it in its entity as the column keeps it, and the owner
is told. -/
theorem write_of_ok (hentity : store.get? child = some entity) {column : String} {value : Value}
    (hok : (store.write child column (some value)).outcome = .ok ()) :
    entity.state.acceptsEdits = true ∧ ∃ kept edited, entity.coerceFor column value = .ok kept ∧
      edited = { entity with
        values := entity.values.insert column kept
        state := entity.state.recordEdit column } ∧
      store.write child column (some value) = ⟨store.modify child fun _ => edited,
        [.track child, .changed child column], .ok ()⟩ := by
  unfold write at hok ⊢
  rw [hentity] at hok ⊢
  dsimp only at hok ⊢
  cases hwrite : entity.write column (some value) with
  | error error =>
      rw [hwrite] at hok
      cases hok
  | ok edited =>
      obtain ⟨haccepts, kept, hkept, rfl⟩ := Entity.write_some_eq_ok hwrite
      exact ⟨haccepts, kept, _, hkept, rfl, rfl⟩

/-- The known keys of a parent depend on the parent only. -/
theorem known_columns_congr {first second : EntityStore}
    (h : first.get? parent = second.get? parent) (pairs : List (String × String)) :
    first.knownColumns parent pairs = second.knownColumns parent pairs := by
  simp only [knownColumns, present?, h]

/-- What copying keys makes of an entity: each column that a known key is for holds the last one as
the column keeps it, and the edit is recorded. -/
structure KeysCopied (store : EntityStore) (parent : EntityId) (pairs : List (String × String))
    (old new : Entity) : Prop where
  entity : new = { old with values := new.values, state := new.state }
  accepts : store.knownColumns parent pairs ≠ [] → old.state.acceptsEdits = true
  state : new.state = old.state.recordEdits (store.knownColumns parent pairs)
  others : ∀ column, Batch.keyFor store parent pairs.reverse column = none →
    new.values.find? column = old.values.find? column
  keys : ∀ column key, Batch.keyFor store parent pairs.reverse column = some key →
    ∃ kept, old.coerceFor column key = .ok kept ∧ new.values.find? column = some kept

namespace KeysCopied

variable {primary foreign : String} {rest : List (String × String)} {old edited new : Entity}

/-- A key that is not known is not copied. -/
theorem cons_of_unknown (h : KeysCopied store parent rest old new)
    (hkey : store.present? parent primary = none) :
    KeysCopied store parent ((primary, foreign) :: rest) old new := by
  have hsame : ∀ column, Batch.keyFor store parent ((primary, foreign) :: rest).reverse column
      = Batch.keyFor store parent rest.reverse column := fun column => by
    rw [Batch.key_for_reverse_cons, hkey, ite_self, Option.or_none]
  have hknown : store.knownColumns parent ((primary, foreign) :: rest)
      = store.knownColumns parent rest := by simp [knownColumns, hkey]
  refine ⟨h.entity, hknown ▸ h.accepts, hknown ▸ h.state, fun column hcolumn => ?_,
    fun column key hcolumn => ?_⟩
  · exact h.others column (hsame column ▸ hcolumn)
  · exact h.keys column key (hsame column ▸ hcolumn)

/-- A known key is written before the other ones are copied. -/
theorem cons_of_known {value kept : Value} {written : EntityStore}
    (hparent : written.get? parent = store.get? parent)
    (hkey : store.present? parent primary = some value)
    (haccepts : old.state.acceptsEdits = true) (hkept : old.coerceFor foreign value = .ok kept)
    (hedited : edited = { old with
      values := old.values.insert foreign kept
      state := old.state.recordEdit foreign })
    (h : KeysCopied written parent rest edited new) :
    KeysCopied store parent ((primary, foreign) :: rest) old new := by
  subst hedited
  have hlater : ∀ column, Batch.keyFor written parent rest.reverse column
      = Batch.keyFor store parent rest.reverse column := fun column =>
    Batch.key_for_congr hparent _ column
  refine ⟨h.entity, fun _ => haccepts, ?_, fun column hcolumn => ?_, fun column key hcolumn => ?_⟩
  · rw [h.state, known_columns_congr hparent]
    simp [knownColumns, hkey, EntityState.recordEdits]
  · obtain ⟨hrest, hfirst⟩ := Option.or_eq_none_iff.1
      ((Batch.key_for_reverse_cons ..).symm.trans hcolumn)
    have hne : column ≠ foreign := by
      rintro rfl
      rw [if_pos rfl, hkey] at hfirst
      cases hfirst
    rw [h.others column ((hlater column).trans hrest), NameMap.find?_insert, if_neg hne]
  · rw [Batch.key_for_reverse_cons, ← hlater] at hcolumn
    cases hrest : Batch.keyFor written parent rest.reverse column with
    | some later =>
        rw [hrest, Option.some_or] at hcolumn
        cases hcolumn
        exact h.keys column key hrest
    | none =>
        -- No later pair is for the column, so it keeps the key that was written first.
        rw [hrest, Option.none_or] at hcolumn
        split at hcolumn
        · next hsame =>
          subst hsame
          obtain rfl := Option.some.inj (hkey.symm.trans hcolumn)
          exact ⟨kept, hkept, by rw [h.others _ hrest, NameMap.find?_insert, if_pos rfl]⟩
        · cases hcolumn

end KeysCopied

/-- Copying the keys of a parent that succeeds. -/
theorem copy_keys_of_ok (hentity : store.get? child = some entity) (hne : child ≠ parent)
    {pairs : List (String × String)}
    (hok : (copyKeys child parent pairs store).outcome = .ok ()) :
    (copyKeys child parent pairs store).notices = (store.knownColumns parent pairs).flatMap
        (fun column => [.track child, .changed child column]) ∧
      ∃ copied, (copyKeys child parent pairs store).store.get? child = some copied ∧
        KeysCopied store parent pairs entity copied := by
  induction pairs generalizing store entity with
  | nil =>
      exact ⟨rfl, entity, hentity, rfl, fun hnone => absurd rfl hnone, rfl, fun _ _ => rfl, nofun⟩
  | cons pair rest ih =>
      obtain ⟨primary, foreign⟩ := pair
      rw [copyKeys] at hok ⊢
      cases hkey : store.present? parent primary with
      | none =>
          rw [hkey] at hok
          obtain ⟨hnotices, copied, hcopied, hcopy⟩ := ih hentity hok
          refine ⟨?_, copied, hcopied, hcopy.cons_of_unknown hkey⟩
          simpa [knownColumns, hkey] using hnotices
      | some value =>
          rw [hkey] at hok
          dsimp only at hok ⊢
          cases hfirst : (store.write child foreign (some value)).outcome with
          | error error =>
              rw [hfirst] at hok
              cases hok
          | ok =>
              obtain ⟨haccepts, kept, edited, hkept, hedited, hwrite⟩ := write_of_ok hentity hfirst
              rw [hwrite] at hok ⊢
              dsimp only at hok ⊢
              have hparent := store.get_modify_of_ne hne fun _ => edited
              have hchild : (store.modify child fun _ => edited).get? child = some edited := by
                rw [get_modify_self, hentity, Option.map_some]
              obtain ⟨hnotices, copied, hcopied, hcopy⟩ := ih hchild hok
              refine ⟨?_, copied, hcopied,
                hcopy.cons_of_known hparent hkey haccepts hkept hedited⟩
              rw [hnotices, known_columns_congr hparent]
              simp [knownColumns, hkey]

/-- Without known keys nothing is copied. -/
theorem copy_keys_of_unknown {pairs : List (String × String)}
    (hunknown : ∀ pair ∈ pairs, store.present? parent pair.1 = none) :
    copyKeys child parent pairs store = ⟨store, [], .ok ()⟩ := by
  induction pairs with
  | nil => rfl
  | cons pair rest ih =>
      obtain ⟨hfirst, hrest⟩ := List.forall_mem_cons.1 hunknown
      rw [copyKeys, hfirst]
      exact ih hrest

variable {parentEntity : Entity} {relationship : Relationship}

/-- Linking that succeeds copies the known keys and keeps the link. -/
theorem link_parent_of_ok (hchild : store.get? child = some entity)
    (hparent : store.get? parent = some parentEntity)
    (hok : (store.linkParent child relationship parent).outcome = .ok ()) :
    (copyKeys child parent relationship.keyPairs store).outcome = .ok () ∧
      store.linkParent child relationship parent
        = { copyKeys child parent relationship.keyPairs store with
            store := (copyKeys child parent relationship.keyPairs store).store.modify child
              fun entity =>
                { entity with links := entity.links ++ [⟨relationship, parent⟩] } } := by
  simp only [linkParent, hchild, hparent] at hok ⊢
  split at hok
  · cases hok
  · next hmatch =>
    rw [if_neg hmatch]
    cases hcopied : (copyKeys child parent relationship.keyPairs store).outcome with
    | error error =>
        rw [hcopied] at hok
        cases hcopied.symm.trans hok
    | ok => exact ⟨rfl, rfl⟩

end EntityStore

end Orm
