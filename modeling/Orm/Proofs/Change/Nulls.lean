import Orm.Proofs.Change.Fills

/-!
# Entities without their nulls

A column that holds null counts as one without an entry. `Entity.withoutNulls` leaves such entries
out, and every part of a submission does the same with the entities as without their nulls: they
have the same plan (`build_without_nulls`) and the same statements (`statement_for_without_nulls`),
the same columns are filled (`render_without_nulls`, `absorb_without_nulls`), and what a commit or a
revert makes of them is the same but for the nulls.
-/

namespace Orm

/-- An entity without the entries of columns that hold null. -/
def Entity.withoutNulls (entity : Entity) : Entity :=
  { entity with values := entity.values.filter fun _ value => !value.isNull }

/-- The entities without the entries of columns that hold null. -/
def EntityStore.withoutNulls (store : EntityStore) : EntityStore :=
  ⟨store.entities.map Entity.withoutNulls⟩

/-- The entities of an owner without the entries of columns that hold null. -/
def Tracked.withoutNulls (tracked : Tracked) : Tracked :=
  { tracked with store := tracked.store.withoutNulls }

/-! ## Entities -/

namespace Entity

variable (entity : Entity) (column : String)

/-- A column holds what it did, unless that is null. -/
theorem find_values_without_nulls :
    entity.withoutNulls.values.find? column = entity.present? column :=
  NameMap.find_filter _ _ _

/-- The same columns are present. -/
theorem present_without_nulls : entity.withoutNulls.present? column = entity.present? column := by
  rw [present?, find_values_without_nulls, present?, Option.filter_filter]
  simp only [Bool.and_self]

/-- The same columns have a value. -/
theorem has_value_without_nulls : entity.withoutNulls.hasValue = entity.hasValue :=
  funext fun column => congrArg Option.isSome (entity.present_without_nulls column)

/-- Where a missing value is read as null, nothing changes. -/
theorem find_get_null_without_nulls :
    (entity.withoutNulls.values.find? column).getD .null
      = (entity.values.find? column).getD .null := by
  rw [find_values_without_nulls, present?]
  cases hvalue : entity.values.find? column with
  | none => rfl
  | some value => cases value <;> rfl

/-- A value that is not null is stored as it was. -/
theorem store_without_nulls {value : Value} (hvalue : value.isNull = false) :
    (entity.store column value).withoutNulls = entity.withoutNulls.store column value := by
  simp only [withoutNulls, store]
  congr 1
  refine NameMap.ext_find fun asked => ?_
  rw [NameMap.find_filter, NameMap.find?_insert, NameMap.find?_insert, NameMap.find_filter]
  split
  · exact Option.filter_some_pos (by rw [hvalue]; rfl)
  · rfl

/-- The same columns can be filled. -/
theorem fill_if_absent_without_nulls (value : Value) :
    entity.withoutNulls.fillIfAbsent? column value
      = (entity.fillIfAbsent? column value).map withoutNulls := by
  rw [fillIfAbsent?, fillIfAbsent?, has_value_without_nulls]
  split
  · rfl
  · next hkept =>
    have hvalue : value.isNull = false := by simpa using (not_or.1 hkept).1
    rw [Option.map_some, store_without_nulls _ _ hvalue]

/-- An entry is removed as it was. -/
theorem clear_value_without_nulls :
    (entity.clearValue column).withoutNulls = entity.withoutNulls.clearValue column := by
  simp only [withoutNulls, clearValue]
  congr 1
  refine NameMap.ext_find fun asked => ?_
  rw [NameMap.find_filter, NameMap.find?_erase, NameMap.find?_erase, NameMap.find_filter]
  split <;> rfl

end Entity

namespace EntityStore

variable (store : EntityStore) (id : EntityId)

/-- The same entities exist. -/
theorem get_without_nulls :
    store.withoutNulls.get? id = (store.get? id).map Entity.withoutNulls :=
  Array.getElem?_map

/-- The same columns are present. -/
theorem present_without_nulls :
    store.withoutNulls.present? id = store.present? id := by
  funext column
  rw [present?, get_without_nulls, present?]
  cases store.get? id with
  | none => rfl
  | some entity => exact entity.present_without_nulls column

/-- Whatever does not depend on the values of an entity is the same. -/
theorem map_get_without_nulls {α : Type} {view : Entity → α}
    (hview : ∀ entity, view entity.withoutNulls = view entity) :
    (store.withoutNulls.get? id).map view = (store.get? id).map view := by
  rw [get_without_nulls, Option.map_map]
  exact congrArg (fun view => (store.get? id).map view) (funext hview)

/-- A test that does not depend on the values of an entity has the same result. -/
theorem any_get_without_nulls {test : Entity → Bool}
    (htest : ∀ entity, test entity.withoutNulls = test entity) :
    (store.withoutNulls.get? id).any test = (store.get? id).any test := by
  rw [get_without_nulls, Option.any_map]
  exact congrArg (fun test => (store.get? id).any test) (funext htest)

/-- A change that keeps nulls apart is made as it was. -/
theorem modify_without_nulls (change changed : Entity → Entity)
    (hchange : ∀ entity, store.get? id = some entity →
      (change entity).withoutNulls = changed entity.withoutNulls) :
    (store.modify id change).withoutNulls = store.withoutNulls.modify id changed := by
  refine ext_get fun other => ?_
  rw [get_without_nulls, get_modify, get_modify, get_without_nulls, get_without_nulls]
  split
  · cases hentity : store.get? id with
    | none => rfl
    | some entity => exact congrArg some (hchange entity hentity)
  · rfl

end EntityStore

/-- The same entities wait for something to be written. -/
theorem PendingSet.dirty_without_nulls (pending : PendingSet) (store : EntityStore) :
    pending.dirty store.withoutNulls = pending.dirty store :=
  List.filter_congr fun id _ => store.any_get_without_nulls id fun _ => rfl

/-! ## Plans -/

namespace WritePlan

variable {σ : Type} (schema : SchemaSource σ) (store : EntityStore)

/-- The same entities are in a state. -/
theorem in_state_without_nulls (test : EntityState → Bool) (ids : List EntityId) :
    inState store.withoutNulls test ids = inState store test ids :=
  List.filter_congr fun id _ => store.any_get_without_nulls id fun _ => rfl

/-- The same nodes are linked. -/
theorem link_edges_without_nulls (nodes : List EntityId) :
    linkEdges store.withoutNulls nodes = linkEdges store nodes := by
  have hlinks : ∀ id, (store.withoutNulls.get? id).map Entity.links
      = (store.get? id).map Entity.links :=
    fun id => store.map_get_without_nulls id fun _ => rfl
  simp only [linkEdges, hlinks]

/-- The keys of a child refer to the same nodes. -/
theorem refers_to_without_nulls (relationship : Relationship) (child parent : EntityId) :
    refersTo store.withoutNulls relationship child parent
      = refersTo store relationship child parent := by
  rw [refersTo, refersTo, store.any_get_without_nulls parent (fun _ => rfl)]
  simp only [keyValues, store.present_without_nulls]

/-- A child refers to the same nodes through some relationships. -/
theorem parents_of_without_nulls (nodes : List EntityId) (relationships : List Relationship)
    (id : EntityId) (child : Nat) :
    parentsOf store.withoutNulls nodes relationships id child
      = parentsOf store nodes relationships id child := by
  simp only [parentsOf, refers_to_without_nulls]

/-- The same references are found, by the same questions. -/
theorem key_edges_from_without_nulls (nodes ids : List EntityId) (first : Nat) :
    keyEdgesFrom schema store.withoutNulls nodes first ids
      = keyEdgesFrom schema store nodes first ids := by
  induction ids generalizing first with
  | nil => rfl
  | cons id rest ih =>
      rw [keyEdgesFrom, keyEdgesFrom, store.get_without_nulls]
      cases store.get? id with
      | none => exact ih (first + 1)
      | some entity => simp only [Option.map_some, ih, parents_of_without_nulls]; rfl

/-- Nodes are in the same order, or wait for each other as before. -/
theorem ordered_without_nulls (nodes : List EntityId) (edges : List (Nat × Nat)) :
    ordered store.withoutNulls nodes edges = ordered store nodes edges := by
  have htable : ∀ id, (store.withoutNulls.get? id).map (fun entity => entity.table.fullName)
      = (store.get? id).map fun entity => entity.table.fullName :=
    fun id => store.map_get_without_nulls id fun _ => rfl
  simp only [ordered, htable]

/-- The plan is the same. -/
theorem build_without_nulls (ids : List EntityId) :
    build schema store.withoutNulls ids = build schema store ids := by
  simp only [build, keyEdges, in_state_without_nulls, key_edges_from_without_nulls,
    link_edges_without_nulls, ordered_without_nulls]

end WritePlan

/-! ## Statements -/

namespace WriteStatement

variable (entity : Entity) (columns : ColumnMap)

/-- An insert stores the same values. -/
theorem inserted_values_without_nulls :
    insertedValues entity.withoutNulls columns = insertedValues entity columns := by
  rw [insertedValues, insertedValues, Entity.withoutNulls, NameMap.filter, List.filter_filter]
  refine List.filter_congr fun entry _ => ?_
  cases entry.2.isNull <;> simp

/-- The keys of an entity are the same. -/
theorem key_values_without_nulls (keys : List String) (operation : WriteOperation) :
    keyValues entity.withoutNulls keys operation = keyValues entity keys operation := by
  simp only [keyValues, Entity.has_value_without_nulls, Entity.find_get_null_without_nulls]
  rfl

/-- The statement that writes an entity is the same. -/
theorem statement_for_without_nulls (dialect : Dialect) (operation : WriteOperation)
    (filled : List String) :
    Batch.statementFor dialect operation entity.withoutNulls columns filled
      = Batch.statementFor dialect operation entity columns filled := by
  have hchanged : changedColumns entity.withoutNulls columns.primaryKeys filled
      = changedColumns entity columns.primaryKeys filled := rfl
  cases operation with
  | insert =>
      simp only [Batch.statementFor, insert, plainInsert, upsert, inserted_values_without_nulls]
      rfl
  | update =>
      simp only [Batch.statementFor, update, hchanged, key_values_without_nulls,
        Entity.find_get_null_without_nulls]
      rfl
  | delete =>
      simp only [Batch.statementFor, delete, key_values_without_nulls]
      rfl

end WriteStatement

/-! ## Batches -/

namespace Batch

variable (batch : Batch) (store : EntityStore)

/-- A fill does the same. -/
theorem fill_without_nulls (id : EntityId) (column : String) (value : Value) :
    batch.fill store.withoutNulls id column value
      = ((batch.fill store id column value).1, (batch.fill store id column value).2.1,
        (batch.fill store id column value).2.2.withoutNulls) := by
  rw [fill, fill, store.get_without_nulls]
  cases hentity : store.get? id with
  | none => rfl
  | some entity =>
      rw [Option.map_some, Option.bind_some, Option.bind_some,
        entity.fill_if_absent_without_nulls]
      cases entity.fillIfAbsent? column value with
      | none => rfl
      | some filled =>
          simp only [Option.map_some]
          rw [store.modify_without_nulls id _ (fun _ => filled.withoutNulls) fun _ _ => rfl]

/-- Copying the keys of a parent does the same: to copy null is to copy nothing. -/
theorem fill_keys_without_nulls (id parent : EntityId) (pairs : List (String × String)) :
    fillKeys id parent pairs batch store.withoutNulls
      = ((fillKeys id parent pairs batch store).1, (fillKeys id parent pairs batch store).2.1,
        (fillKeys id parent pairs batch store).2.2.withoutNulls) := by
  induction pairs generalizing batch store with
  | nil => rfl
  | cons pair rest ih =>
      obtain ⟨primary, foreign⟩ := pair
      have hfound : ((store.withoutNulls.get? parent).bind fun entity =>
            entity.values.find? primary)
          = ((store.get? parent).bind fun entity => entity.values.find? primary).filter
              fun value => !value.isNull := by
        rw [store.get_without_nulls]
        cases store.get? parent with
        | none => rfl
        | some entity => exact entity.find_values_without_nulls primary
      rw [fillKeys, fillKeys, hfound]
      cases (store.get? parent).bind fun entity => entity.values.find? primary with
      | none => exact ih batch store
      | some value =>
          cases hnull : value.isNull with
          | false =>
              rw [Option.filter_some_pos (by rw [hnull]; rfl)]
              simp only [fill_without_nulls, ih]
          | true =>
              -- A null of the parent is not copied.
              have hnothing : batch.fill store id foreign value = (false, batch, store) := by
                rcases batch.fill_cases store id foreign value with ⟨_, _, hvalue, _⟩ | ⟨h, -⟩
                · rw [hnull] at hvalue
                  cases hvalue
                · exact h
              rw [Option.filter_some_neg (by simp [hnull])]
              simp only [hnothing]
              exact ih batch store

/-- Copying the keys of all parents does the same. -/
theorem resolve_links_without_nulls (id : EntityId) (links : List ParentLink) :
    resolveLinks id links batch store.withoutNulls
      = ((resolveLinks id links batch store).1, (resolveLinks id links batch store).2.1,
        (resolveLinks id links batch store).2.2.withoutNulls) := by
  induction links generalizing batch store with
  | nil => rfl
  | cons link rest ih =>
      simp only [resolveLinks, fill_keys_without_nulls, ih]

/-- A write renders to the same statement. -/
theorem render_without_nulls (dialect : Dialect) (step : WritePlan.Step) (columns : ColumnMap) :
    batch.render store.withoutNulls dialect step columns
      = ((batch.render store dialect step columns).1,
        (batch.render store dialect step columns).2.1,
        (batch.render store dialect step columns).2.2.withoutNulls) := by
  have hcurrent : ∀ (store : EntityStore) (entity : Entity),
      (store.withoutNulls.get? step.entity).getD entity.withoutNulls
        = ((store.get? step.entity).getD entity).withoutNulls := by
    intro store entity
    rw [store.get_without_nulls]
    exact Option.getD_map ..
  rw [render, render, store.get_without_nulls]
  cases store.get? step.entity with
  | none => rfl
  | some entity =>
      by_cases hdelete : step.operation = .delete
      · simp only [Option.map_some, if_pos hdelete, hcurrent,
          WriteStatement.statement_for_without_nulls]
      · have hlinks : entity.withoutNulls.links = entity.links := rfl
        simp only [Option.map_some, if_neg hdelete, hlinks, resolve_links_without_nulls, hcurrent,
          WriteStatement.statement_for_without_nulls]

/-- An answer is taken in as before. -/
theorem absorb_without_nulls (step : WritePlan.Step) (columns : ColumnMap)
    (answer : Option (WriteStatement × CommandResult)) :
    batch.absorb store.withoutNulls step columns answer
      = ((batch.absorb store step columns answer).1,
        (batch.absorb store step columns answer).2.withoutNulls) := by
  simp only [absorb]
  split
  · simp only [fill_without_nulls]
  · rfl

/-- What a revert leaves is the same but for the nulls. -/
theorem revert_without_nulls :
    batch.revert store.withoutNulls = (batch.revert store).withoutNulls := by
  rw [revert, revert]
  generalize batch.filled = filled
  induction filled generalizing store with
  | nil => rfl
  | cons entry rest ih =>
      have hcleared := store.modify_without_nulls entry.1 (·.clearValue entry.2)
        (·.clearValue entry.2) fun entity _ => entity.clear_value_without_nulls entry.2
      rw [List.foldl_cons, List.foldl_cons, ← ih, hcleared]

/-- What a commit settles is the same but for the nulls. -/
theorem finish_without_nulls (tracked : Tracked) :
    batch.finish tracked.withoutNulls = (batch.finish tracked).withoutNulls := by
  rw [finish, finish]
  generalize batch.written = written
  induction written generalizing tracked with
  | nil => rfl
  | cons step rest ih =>
      have hsettled : ∀ entity : Entity, (settled step.operation entity).withoutNulls
          = settled step.operation entity.withoutNulls := by
        intro entity
        cases step.operation <;> rfl
      have hstore := tracked.store.modify_without_nulls step.entity _ _
        fun entity _ => hsettled entity
      rw [List.foldl_cons, List.foldl_cons, ← ih, Tracked.withoutNulls, Tracked.withoutNulls,
        hstore]

/-- A refused statement gives the same error. -/
theorem statement_error_without_nulls (step : WritePlan.Step) (cause : DriverError) :
    statementError store.withoutNulls step cause = statementError store step cause := by
  rw [statementError, statementError, store.get_without_nulls]
  cases store.get? step.entity <;> rfl

end Batch

end Orm
