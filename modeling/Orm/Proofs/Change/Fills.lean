import Orm.Change.Submission
import Orm.Proofs.Data.NameMap
import Orm.Proofs.Entity.Store

/-!
# What filling changes

All that a submission does to an entity before its commit is to fill columns that hold nothing.
`Fills` says so once: `render_fills` and `absorb_fills` place a write under it, and everything else
is read off it. `FilledFrom` relates the entities to those before the submission, and
`revert_of_filled_from` is what a revert makes of it.
-/

namespace Orm

open Submission

namespace Batch

/-! ## One fill -/

/-- A fill stores its value in a column that holds nothing, and notes it, or does nothing. -/
theorem fill_cases (batch : Batch) (store : EntityStore) (id : EntityId) (column : String)
    (value : Value) :
    (∃ entity, store.get? id = some entity ∧ value.isNull = false ∧
        entity.present? column = none ∧
        batch.fill store id column value
          = (true, { batch with filled := batch.filled ++ [(id, column)] },
            store.modify id fun _ => entity.store column value)) ∨
      (batch.fill store id column value = (false, batch, store) ∧
        ∀ entity, store.get? id = some entity →
          value.isNull = true ∨ entity.hasValue column = true) := by
  unfold fill
  cases hentity : store.get? id with
  | none => exact .inr ⟨rfl, by simp⟩
  | some entity =>
      by_cases hkept : value.isNull ∨ entity.hasValue column
      · right
        rw [Option.bind_some, Entity.fillIfAbsent?, if_pos hkept]
        exact ⟨rfl, fun other hother => Option.some.inj hother ▸ hkept⟩
      · left
        rw [Option.bind_some, Entity.fillIfAbsent?, if_neg hkept]
        obtain ⟨hvalue, habsent⟩ := not_or.1 hkept
        exact ⟨entity, rfl, by simpa using hvalue, by simpa [Entity.hasValue] using habsent, rfl⟩

/-- The changes that filling columns of one entity can make, one fill after the other. -/
inductive Fills (id : EntityId) : Progress → Progress → Prop
  | done (progress : Progress) : Fills id progress progress
  | fill {progress after : Progress} {entity : Entity} {column : String} {value : Value}
      (hentity : progress.store.get? id = some entity) (hvalue : value.isNull = false)
      (habsent : entity.present? column = none)
      (hrest : Fills id
        ⟨{ progress.batch with filled := progress.batch.filled ++ [(id, column)] },
          progress.store.modify id fun _ => entity.store column value⟩ after) :
      Fills id progress after

namespace Fills

variable {id : EntityId} {first second third : Progress}

/-- Filling goes on where it ended. -/
theorem trans (h : Fills id first second) (hnext : Fills id second third) :
    Fills id first third := by
  induction h with
  | done progress => exact hnext
  | fill hentity hvalue habsent _ ih => exact .fill hentity hvalue habsent (ih hnext)

/-- Filling writes nothing. -/
theorem written_eq (h : Fills id first second) :
    second.batch.written = first.batch.written := by
  induction h with
  | done progress => rfl
  | fill _ _ _ _ ih => exact ih

/-- Filling notes columns of its entity only, after those that were noted before. The entity held
nothing in them, and in its other columns it holds what it did. -/
theorem filled_absent (h : Fills id first second) :
    ∃ columns : List String,
      second.batch.filled = first.batch.filled ++ columns.map (Prod.mk id) ∧
      ∀ entity, first.store.get? id = some entity →
        (∀ column ∈ columns, entity.present? column = none) ∧
        ∀ column ∉ columns, second.store.present? id column = entity.present? column := by
  induction h with
  | done progress =>
      refine ⟨[], (List.append_nil _).symm, fun entity hentity => ⟨nofun, fun column _ => ?_⟩⟩
      rw [EntityStore.present?, hentity, Option.bind_some]
  | @fill progress after current column value hcurrent hvalue habsent _ ih =>
      obtain ⟨columns, hcolumns, hnothing⟩ := ih
      refine ⟨column :: columns, by rw [hcolumns, List.append_assoc]; rfl, ?_⟩
      intro entity hentity
      obtain rfl := Option.some.inj (hcurrent.symm.trans hentity)
      have hstored : (progress.store.modify id fun _ => current.store column value).get? id
          = some (current.store column value) := by
        rw [EntityStore.get_modify_self, hcurrent, Option.map_some]
      obtain ⟨hlater, hkept⟩ := hnothing _ hstored
      rw [List.forall_mem_cons]
      refine ⟨⟨habsent, fun other hother => ?_⟩, fun other hother => ?_⟩
      · by_cases hsame : other = column
        · rw [hsame, habsent]
        · have hnone := hlater other hother
          rwa [Entity.present_store _ _ _ hvalue, if_neg hsame] at hnone
      · obtain ⟨hne, hother⟩ := not_or.1 (mt List.mem_cons.2 hother)
        rw [hkept other hother, Entity.present_store _ _ _ hvalue, if_neg hne]

/-- Filling notes columns of its entity only, after those that were noted before. -/
theorem filled_eq (h : Fills id first second) :
    ∃ columns : List String,
      second.batch.filled = first.batch.filled ++ columns.map (Prod.mk id) := by
  obtain ⟨columns, hcolumns, -⟩ := h.filled_absent
  exact ⟨columns, hcolumns⟩

/-- Filling leaves the other entities as they are. -/
theorem get_of_ne (h : Fills id first second) {other : EntityId} (hne : id ≠ other) :
    second.store.get? other = first.store.get? other := by
  induction h with
  | done progress => rfl
  | fill _ _ _ _ ih => rw [ih, EntityStore.get_modify_of_ne _ hne]

/-- Filling changes nothing but values, and no value that was present. -/
theorem get_self (h : Fills id first second) {entity : Entity}
    (hentity : first.store.get? id = some entity) :
    ∃ values, second.store.get? id = some { entity with values := values } ∧
      ∀ column value, entity.present? column = some value →
        ({ entity with values := values } : Entity).present? column = some value := by
  induction h generalizing entity with
  | done progress => exact ⟨entity.values, hentity, fun _ _ hvalue => hvalue⟩
  | @fill progress after current column value hcurrent hvalue habsent _ ih =>
      obtain rfl := Option.some.inj (hcurrent.symm.trans hentity)
      have hstored : (progress.store.modify id fun _ => current.store column value).get? id
          = some (current.store column value) := by
        rw [EntityStore.get_modify_self, hcurrent, Option.map_some]
      obtain ⟨values, hvalues, hkept⟩ := ih hstored
      refine ⟨values, hvalues, fun asked kept hasked => hkept asked kept ?_⟩
      have hother : asked ≠ column := by
        rintro rfl
        rw [habsent] at hasked
        cases hasked
      rw [Entity.present?, Entity.store, NameMap.find?_insert, if_neg hother]
      exact hasked

end Fills

/-- A fill is a way of filling. -/
theorem fill_fills (batch : Batch) (store : EntityStore) (id : EntityId) (column : String)
    (value : Value) :
    Fills id ⟨batch, store⟩
      ⟨(batch.fill store id column value).2.1, (batch.fill store id column value).2.2⟩ := by
  rcases fill_cases batch store id column value with
    ⟨entity, hentity, hvalue, habsent, hfill⟩ | ⟨hfill, -⟩
  · rw [hfill]
    exact .fill hentity hvalue habsent (.done _)
  · rw [hfill]
    exact .done _

/-- A fill notes its column if it stored a value there. -/
theorem filled_fill (batch : Batch) (store : EntityStore) (id : EntityId) (column : String)
    (value : Value) :
    (batch.fill store id column value).2.1.filled
      = batch.filled ++ if (batch.fill store id column value).1 then [(id, column)] else [] := by
  rcases fill_cases batch store id column value with ⟨_, _, _, _, hfill⟩ | ⟨hfill, -⟩
  · rw [hfill]
    rfl
  · rw [hfill]
    exact (List.append_nil _).symm

/-- Copying the keys of a parent is a way of filling. -/
theorem fill_keys_fills (id parent : EntityId) (pairs : List (String × String)) (batch : Batch)
    (store : EntityStore) :
    Fills id ⟨batch, store⟩
      ⟨(fillKeys id parent pairs batch store).2.1, (fillKeys id parent pairs batch store).2.2⟩ := by
  induction pairs generalizing batch store with
  | nil => exact .done _
  | cons pair rest ih =>
      obtain ⟨primary, foreign⟩ := pair
      rw [fillKeys]
      split
      · exact ih batch store
      · exact (fill_fills batch store id foreign _).trans (ih _ _)

/-- Copying the keys of a parent notes the columns that it gives. -/
theorem filled_fill_keys (id parent : EntityId) (pairs : List (String × String)) (batch : Batch)
    (store : EntityStore) :
    (fillKeys id parent pairs batch store).2.1.filled
      = batch.filled ++ (fillKeys id parent pairs batch store).1.map (Prod.mk id) := by
  induction pairs generalizing batch store with
  | nil => exact (List.append_nil _).symm
  | cons pair rest ih =>
      obtain ⟨primary, foreign⟩ := pair
      rw [fillKeys]
      split
      · exact ih batch store
      · next value _ =>
        rw [ih, filled_fill, List.append_assoc]
        rcases batch.fill store id foreign value with ⟨_ | _, filled, entities⟩ <;> rfl

/-- Copying the keys of all parents is a way of filling. -/
theorem resolve_links_fills (id : EntityId) (links : List ParentLink) (batch : Batch)
    (store : EntityStore) :
    Fills id ⟨batch, store⟩
      ⟨(resolveLinks id links batch store).2.1, (resolveLinks id links batch store).2.2⟩ := by
  induction links generalizing batch store with
  | nil => exact .done _
  | cons link rest ih =>
      exact (fill_keys_fills id link.parent link.relationship.keyPairs batch store).trans (ih _ _)

/-- Copying the keys of all parents notes the columns that it gives. -/
theorem filled_resolve_links (id : EntityId) (links : List ParentLink) (batch : Batch)
    (store : EntityStore) :
    (resolveLinks id links batch store).2.1.filled
      = batch.filled ++ (resolveLinks id links batch store).1.map (Prod.mk id) := by
  induction links generalizing batch store with
  | nil => exact (List.append_nil _).symm
  | cons link rest ih =>
      rw [resolveLinks, ih, filled_fill_keys, List.append_assoc, List.map_append]

/-- The columns that copying the keys of a parent gives are those of its pairs. -/
theorem mem_fill_keys {id parent : EntityId} {pairs : List (String × String)} {batch : Batch}
    {store : EntityStore} {column : String}
    (h : column ∈ (fillKeys id parent pairs batch store).1) :
    column ∈ pairs.map Prod.snd := by
  induction pairs generalizing batch store with
  | nil => cases h
  | cons pair rest ih =>
      obtain ⟨primary, foreign⟩ := pair
      rw [fillKeys] at h
      split at h
      · exact List.mem_cons_of_mem _ (ih h)
      · dsimp only at h
        split at h
        · rcases List.mem_cons.1 h with rfl | h
          · exact List.mem_cons_self
          · exact List.mem_cons_of_mem _ (ih h)
        · exact List.mem_cons_of_mem _ (ih h)

/-- The columns that copying the keys of all parents gives are foreign keys of the links. -/
theorem mem_resolve_links {id : EntityId} {links : List ParentLink} {batch : Batch}
    {store : EntityStore} {column : String} (h : column ∈ (resolveLinks id links batch store).1) :
    ∃ link ∈ links, column ∈ link.relationship.foreignKeys := by
  induction links generalizing batch store with
  | nil => cases h
  | cons link rest ih =>
      rw [resolveLinks] at h
      rcases List.mem_append.1 h with h | h
      · obtain ⟨pair, hpair, rfl⟩ := List.mem_map.1 (mem_fill_keys h)
        exact ⟨link, List.mem_cons_self, (List.of_mem_zip hpair).2⟩
      · obtain ⟨other, hother, hcolumn⟩ := ih h
        exact ⟨other, List.mem_cons_of_mem _ hother, hcolumn⟩

/-- Copying the keys of all parents gives the columns that held nothing, and leaves the other ones
as they were. -/
theorem resolve_links_absent {store : EntityStore} {id : EntityId} {entity : Entity}
    (hentity : store.get? id = some entity) (links : List ParentLink) (batch : Batch) :
    (∀ column ∈ (resolveLinks id links batch store).1, entity.present? column = none) ∧
      ∀ column ∉ (resolveLinks id links batch store).1,
        (resolveLinks id links batch store).2.2.present? id column = entity.present? column := by
  -- What filling notes are the columns that it gives.
  have hnoted := filled_resolve_links id links batch store
  obtain ⟨noted, hsame, habsent⟩ := (resolve_links_fills id links batch store).filled_absent
  have hcolumns := List.append_cancel_left (hsame.symm.trans hnoted)
  have hinj : Function.Injective (Prod.mk id : String → EntityId × String) :=
    fun _ _ h => (Prod.mk.inj h).2
  rw [List.map_injective_iff.2 hinj hcolumns] at habsent
  exact habsent entity hentity

/-! ## Writes -/

variable {store : EntityStore} {step : WritePlan.Step}

/-- Rendering a write fills columns of its entity. -/
theorem render_fills (batch : Batch) (store : EntityStore) (dialect : Dialect)
    (step : WritePlan.Step) (columns : ColumnMap) :
    Fills step.entity ⟨batch, store⟩ ⟨(batch.render store dialect step columns).2.1,
      (batch.render store dialect step columns).2.2⟩ := by
  unfold render
  cases hentity : store.get? step.entity with
  | none => exact .done _
  | some entity =>
      by_cases hdelete : step.operation = .delete
      · simp only [if_pos hdelete]
        exact .done _
      · simp only [if_neg hdelete]
        exact resolve_links_fills step.entity entity.links batch store

/-- What a write renders to: the statement of its entity, with the keys of parents filled in unless
the row is deleted. Only columns that held nothing are filled, as a link asks for. -/
theorem render_of_get (batch : Batch) (dialect : Dialect) (columns : ColumnMap) {entity : Entity}
    (hentity : store.get? step.entity = some entity) :
    ∃ filled values,
      (batch.render store dialect step columns).2.2.get? step.entity
        = some { entity with values := values } ∧
      (batch.render store dialect step columns).1
        = statementFor dialect step.operation { entity with values := values } columns filled ∧
      (batch.render store dialect step columns).2.1.filled
        = batch.filled ++ filled.map (Prod.mk step.entity) ∧
      (∀ column ∈ filled, entity.present? column = none ∧
        ∃ link ∈ entity.links, column ∈ link.relationship.foreignKeys) ∧
      (step.operation ≠ .delete → (filled, (batch.render store dialect step columns).2)
        = resolveLinks step.entity entity.links batch store) := by
  obtain ⟨values, hvalues, -⟩ := (render_fills batch store dialect step columns).get_self hentity
  dsimp only at hvalues
  by_cases hdelete : step.operation = .delete
  · simp only [render, hentity, if_pos hdelete] at hvalues ⊢
    rw [hvalues, Option.getD_some]
    exact ⟨[], _, rfl, rfl, (List.append_nil _).symm, nofun,
      fun hother => absurd hdelete hother⟩
  · simp only [render, hentity, if_neg hdelete] at hvalues ⊢
    rw [hvalues, Option.getD_some]
    obtain ⟨habsent, -⟩ := resolve_links_absent hentity entity.links batch
    exact ⟨_, _, rfl, rfl, filled_resolve_links step.entity entity.links batch store,
      fun column hcolumn => ⟨habsent column hcolumn, mem_resolve_links hcolumn⟩,
      fun _ => rfl⟩

/-- Taking in an answer fills columns of its entity and notes the write. -/
theorem absorb_fills (batch : Batch) (store : EntityStore) (step : WritePlan.Step)
    (columns : ColumnMap) (answer : Option (WriteStatement × CommandResult)) :
    (batch.absorb store step columns answer).1.written = batch.written ++ [step] ∧
      ∃ filled, Fills step.entity ⟨batch, store⟩
        ⟨filled, (batch.absorb store step columns answer).2⟩ ∧
        (batch.absorb store step columns answer).1.filled = filled.filled := by
  cases answer with
  | none => exact ⟨rfl, batch, .done _, rfl⟩
  | some answered =>
      obtain ⟨statement, result⟩ := answered
      simp only [absorb, Option.bind_some]
      cases identityOf statement columns result with
      | none => exact ⟨rfl, batch, .done _, rfl⟩
      | some assigned =>
          have hfills := fill_fills batch store step.entity assigned.1 assigned.2
          exact ⟨congrArg (· ++ [step]) hfills.written_eq, _, hfills, rfl⟩

/-! ## What was filled -/

/-- An entity as it was but for filled columns, which held nothing and now hold a value. -/
def KeptBut (filled : List (EntityId × String)) (id : EntityId) (old new : Entity) : Prop :=
  new = { old with values := new.values } ∧ ∀ column,
    if (id, column) ∈ filled then old.present? column = none ∧ new.hasValue column = true
    else new.values.find? column = old.values.find? column

/-- What is present in an entity is present in it after columns were filled. -/
theorem KeptBut.present_in {filled : List (EntityId × String)} {id : EntityId} {old new : Entity}
    (h : KeptBut filled id old new) : old.PresentIn new := by
  intro column value hvalue
  have hcolumn := h.2 column
  by_cases hfilled : (id, column) ∈ filled
  · rw [if_pos hfilled, hvalue] at hcolumn
    cases hcolumn.1
  · rw [if_neg hfilled] at hcolumn
    rwa [Entity.present?, hcolumn]

/-- The entities of a submission as they were but for what it filled so far. -/
structure FilledFrom (initial : EntityStore) (progress : Progress) : Prop where
  missing : ∀ id, initial.get? id = none → progress.store.get? id = none
  kept : ∀ id old, initial.get? id = some old → ∃ new, progress.store.get? id = some new ∧
    KeptBut progress.batch.filled id old new

/-- Before the first write the entities are as they were. -/
theorem filled_from_empty (initial : EntityStore) : FilledFrom initial ⟨.empty, initial⟩ where
  missing := fun _ hnone => hnone
  kept := fun _ old hold => ⟨old, hold, rfl, fun column => by simp [empty]⟩

/-- A fill of a column that holds nothing is one more filled column. -/
theorem KeptBut.with_fill {filled : List (EntityId × String)} {id : EntityId} {old entity : Entity}
    (h : KeptBut filled id old entity) {column : String} {value : Value}
    (hvalue : value.isNull = false) (habsent : entity.present? column = none) :
    KeptBut (filled ++ [(id, column)]) id old (entity.store column value) := by
  obtain ⟨hentity, hcolumns⟩ := h
  refine ⟨by rw [Entity.store, hentity], fun asked => ?_⟩
  have hasked := hcolumns asked
  by_cases hcolumn : asked = column
  · subst hcolumn
    rw [if_pos (by simp)]
    by_cases hfilled : (id, asked) ∈ filled
    · rw [if_pos hfilled, Entity.hasValue, habsent] at hasked
      cases hasked.2
    · rw [if_neg hfilled] at hasked
      refine ⟨?_, ?_⟩
      · rw [Entity.present?, ← hasked]
        exact habsent
      · rw [Entity.hasValue, Entity.present?, Entity.store, NameMap.find?_insert, if_pos rfl,
          Option.filter_some_pos (by simp [hvalue])]
        rfl
  · have hmem : (id, asked) ∈ filled ++ [(id, column)] ↔ (id, asked) ∈ filled := by
      simp [hcolumn]
    have hfind : (entity.store column value).values.find? asked = entity.values.find? asked := by
      rw [Entity.store, NameMap.find?_insert, if_neg hcolumn]
    simp only [hmem, Entity.hasValue, Entity.present?, hfind] at hasked ⊢
    exact hasked

/-- Filling keeps account of what it fills. -/
theorem FilledFrom.fills {initial : EntityStore} {id : EntityId} {progress after : Progress}
    (h : FilledFrom initial progress) (hfills : Fills id progress after) :
    FilledFrom initial after := by
  induction hfills with
  | done progress => exact h
  | @fill progress after entity column value hentity hvalue habsent _ ih =>
      refine ih ⟨fun other hnone => ?_, fun other old hold => ?_⟩
      · have hmissing := h.missing other hnone
        have hne : id ≠ other := by
          rintro rfl
          rw [hentity] at hmissing
          cases hmissing
        rw [EntityStore.get_modify_of_ne _ hne]
        exact hmissing
      · obtain ⟨new, hnew, hkept⟩ := h.kept other old hold
        -- Only the entity that is filled changes; for the other ones no column is noted.
        by_cases hsame : id = other
        · subst hsame
          obtain rfl := Option.some.inj (hentity.symm.trans hnew)
          refine ⟨entity.store column value, ?_, hkept.with_fill hvalue habsent⟩
          rw [EntityStore.get_modify_self, hentity, Option.map_some]
        · refine ⟨new, by rw [EntityStore.get_modify_of_ne _ hsame]; exact hnew, hkept.1, ?_⟩
          intro asked
          simpa [Ne.symm hsame] using hkept.2 asked

/-! ## Reverting -/

/-- An entity without the entries of filled columns. -/
theorem get_revert (batch : Batch) (store : EntityStore) (id : EntityId) :
    (batch.revert store).get? id = (store.get? id).map fun entity =>
      { entity with
        values := entity.values.filter fun column _ => (id, column) ∉ batch.filled } := by
  unfold revert
  generalize batch.filled = filled
  induction filled generalizing store with
  | nil =>
      cases hentity : store.get? id with
      | none => simp [hentity]
      | some entity =>
          have hvalues : entity.values.filter (fun _ _ => true) = entity.values :=
            NameMap.ext_find fun name => by
              rw [NameMap.find_filter]
              cases entity.values.find? name <;> rfl
          simp [hentity, hvalues]
  | cons entry rest ih =>
      obtain ⟨filledId, filledColumn⟩ := entry
      rw [List.foldl_cons, ih]
      by_cases hsame : filledId = id
      · subst hsame
        rw [EntityStore.get_modify_self, Option.map_map]
        congr 1
        funext entity
        simp only [Function.comp_apply, Entity.clearValue]
        congr 1
        refine NameMap.ext_find fun name => ?_
        rw [NameMap.find_filter, NameMap.find_filter, NameMap.find?_erase]
        by_cases hname : name = filledColumn
        · simp [hname]
        · simp [hname]
      · rw [EntityStore.get_modify_of_ne _ hsame]
        simp [Ne.symm hsame]

/-- Of the columns that held null before, those that were filled are present now. -/
theorem FilledFrom.mem_filled_iff {initial : EntityStore} {progress : Progress}
    (h : FilledFrom initial progress) {id : EntityId} {old : Entity}
    (hold : initial.get? id = some old) {column : String} {value : Value}
    (hvalue : old.values.find? column = some value) (hnull : value.isNull = true) :
    (id, column) ∈ progress.batch.filled ↔ (progress.store.present? id column).isSome = true := by
  obtain ⟨new, hnew, -, hcolumns⟩ := h.kept id old hold
  have hcolumn := hcolumns column
  rw [EntityStore.present?, hnew, Option.bind_some]
  by_cases hfilled : (id, column) ∈ progress.batch.filled
  · rw [if_pos hfilled] at hcolumn
    exact iff_of_true hfilled hcolumn.2
  · rw [if_neg hfilled] at hcolumn
    refine iff_of_false hfilled ?_
    simp [Entity.present?, hcolumn, hvalue, hnull]

/-- A revert gives back every entity without the nulls that were filled: a filled column has no
entry any more, whether it had none before or held null. -/
theorem revert_of_filled_from {initial : EntityStore} {progress : Progress}
    (h : FilledFrom initial progress) (id : EntityId) :
    (progress.batch.revert progress.store).get? id = (initial.get? id).map fun entity =>
      { entity with
        values := entity.values.filter fun column value =>
          !(value.isNull && (progress.store.present? id column).isSome) } := by
  rw [get_revert]
  cases hold : initial.get? id with
  | none => rw [h.missing id hold]; rfl
  | some old =>
      obtain ⟨new, hnew, hentity, hcolumns⟩ := h.kept id old hold
      rw [hnew, Option.map_some, Option.map_some, hentity]
      congr 2
      refine NameMap.ext_find fun column => ?_
      rw [NameMap.find_filter, NameMap.find_filter]
      have hcolumn := hcolumns column
      -- A filled column loses its entry: it held nothing, or null, which the filter drops too.
      by_cases hfilled : (id, column) ∈ progress.batch.filled
      · rw [if_pos hfilled, Entity.present_eq_none_iff] at hcolumn
        have hgone : (new.values.find? column).filter
            (fun _ => decide ((id, column) ∉ progress.batch.filled)) = none := by
          simp [hfilled]
        rw [hgone]
        cases hvalue : old.values.find? column with
        | none => rfl
        | some value =>
            have hnull := hcolumn.1 value hvalue
            rw [Option.filter_some_neg]
            simp [hnull, (h.mem_filled_iff hold hvalue hnull).1 hfilled]
      · rw [if_neg hfilled] at hcolumn
        rw [hcolumn]
        cases hvalue : old.values.find? column with
        | none => rfl
        | some value =>
            rw [Option.filter_some_pos (by simpa using hfilled), Option.filter_some_pos]
            by_cases hnull : value.isNull = true
            · have hpresent := mt (h.mem_filled_iff hold hvalue hnull).2 hfilled
              simpa [hnull] using hpresent
            · simp [hnull]

/-- A revert gives back the entities as they were if and only if no column that held null was
filled. -/
theorem revert_eq_iff {initial : EntityStore} {progress : Progress}
    (h : FilledFrom initial progress) :
    progress.batch.revert progress.store = initial ↔ ∀ id old column,
      initial.get? id = some old → old.values.find? column = some .null →
        progress.store.present? id column = none := by
  constructor
  · intro hsame id old column hold hnull
    have hget := revert_of_filled_from h id
    rw [hsame, hold, Option.map_some, Option.some.injEq] at hget
    have hfind := congrArg (fun entity => entity.values.find? column) hget
    rw [NameMap.find_filter, hnull] at hfind
    cases hpresent : progress.store.present? id column with
    | none => rfl
    | some value =>
        rw [hpresent] at hfind
        cases hfind
  · intro hnulls
    refine EntityStore.ext_get fun id => ?_
    rw [revert_of_filled_from h id]
    cases hold : initial.get? id with
    | none => rfl
    | some old =>
        have hvalues : old.values.filter (fun column value =>
            !(value.isNull && (progress.store.present? id column).isSome)) = old.values := by
          refine NameMap.ext_find fun column => ?_
          rw [NameMap.find_filter]
          cases hvalue : old.values.find? column with
          | none => rfl
          | some value =>
              cases value with
              | null => rw [hnulls id old column hold hvalue]; rfl
              | _ => rfl
        rw [Option.map_some, hvalues]

end Batch

end Orm
