import Mathlib.Data.List.Induction
import Orm.Proofs.Change.Gains
import Orm.Proofs.Change.Rollback
import Orm.Proofs.Entity.Edits

/-!
# Values fit the models of their entities

An edit converts its value to what the column stores, and rejects columns that the model does not
have. Submissions fill columns as well: `values_fit` says of any run of edits and submissions that
what an entity holds fits its model, but for a key that the database assigned and for the keys of
parents that a submission copied, and where these were filled.
-/

namespace Orm

/-! ## Conversions -/

/-- The values that a column of an affinity stores: nulls, arrays and those of one kind, or of any
kind if the affinity has none. -/
def Affinity.keeps : Affinity → Value → Bool
  | _, .null | _, .array _ => true
  | .boolean, .bool _ | .integer, .int _ | .float, .float _ | .decimal, .float _ => true
  | .text, .text _ | .guid, .text _ | .date, .date _ | .dateTime, .dateTime _ => true
  | .binary, .blob _ => true
  | .array, _ | .other, _ => true
  | _, _ => false

/-- A conversion gives what the affinity stores. -/
theorem Value.keeps_coerce {affinity : Affinity} {value coerced : Value}
    (h : value.coerce affinity = .ok coerced) : affinity.keeps coerced = true := by
  cases value with
  | null | array =>
      cases h
      rfl
  | bool | int | float | text | date | dateTime | blob =>
      cases affinity with
      | boolean | integer | float | decimal | text | guid | date | dateTime | binary =>
          rw [coerce.eq_def] at h
          obtain ⟨content, -, rfl⟩ := Action.map_eq_ok_iff.1 h
          rfl
      | array | other =>
          cases h
          rfl

namespace Entity

variable {id : EntityId} {entity edited after : Entity} {notices : List Notice} {column : String}
  {value : Value}

/-- A value fits in a column of an entity: its model has the column, which stores such values. -/
def Fits (entity : Entity) (column : String) (value : Value) : Prop :=
  ∃ description, entity.columns.find? column = some description ∧
    description.affinity.keeps value = true

instance (entity : Entity) (column : String) (value : Value) :
    Decidable (entity.Fits column value) :=
  decidable_of_iff _
    (Option.any_eq_true (fun description : Column => description.affinity.keeps value) _)

/-- A value that is converted for a column fits in it, if there is a model. -/
theorem fits_of_coerce_for {given : Value} (hmodel : entity.columns.isEmpty = false)
    (h : entity.coerceFor column given = .ok value) : entity.Fits column value := by
  rw [coerceFor, hmodel] at h
  cases hfind : entity.columns.find? column with
  | none =>
      rw [hfind] at h
      cases h
  | some description =>
      rw [hfind] at h
      exact ⟨description, hfind, Value.keeps_coerce (Action.map_error_eq_ok_iff.1 h)⟩

/-- What an entity holds after a write it held before, or it fits. -/
theorem fits_of_write {written : String} {given : Option Value}
    (hmodel : entity.columns.isEmpty = false) (h : entity.write written given = .ok edited)
    (hvalue : edited.values.find? column = some value) :
    entity.values.find? column = some value ∨ entity.Fits column value := by
  by_cases haccepts : entity.state.acceptsEdits = true
  swap
  · rw [write, if_neg haccepts] at h
    cases h
  rw [write, if_pos haccepts] at h
  cases given with
  | none =>
      cases h
      rw [NameMap.find?_erase] at hvalue
      split at hvalue
      · cases hvalue
      · exact .inl hvalue
  | some given =>
      obtain ⟨values, hvalues, hedited⟩ := Action.bind_eq_ok_iff.1 h
      obtain ⟨coerced, hcoerced, rfl⟩ := Action.map_eq_ok_iff.1 hvalues
      cases hedited
      rw [NameMap.find?_insert] at hvalue
      split at hvalue
      · next hsame =>
        cases hvalue
        exact .inr (hsame ▸ fits_of_coerce_for hmodel hcoerced)
      · exact .inl hvalue

/-- What an entity holds after some edits it held before, or it fits. -/
theorem Edits.fits (h : Edits id entity notices after)
    (hmodel : entity.columns.isEmpty = false)
    (hvalue : after.values.find? column = some value) :
    entity.values.find? column = some value ∨ entity.Fits column value := by
  induction h with
  | done entity => exact .inl hvalue
  | written hwrite _ ih =>
      obtain ⟨-, values, rfl, -⟩ := write_eq_ok hwrite
      rcases ih hmodel hvalue with hheld | hfits
      · exact fits_of_write hmodel hwrite hheld
      · exact .inr hfits
  | discarded _ _ ih => exact ih hmodel hvalue
  | marked _ _ ih => exact ih hmodel hvalue
  | linked _ _ ih => exact ih hmodel hvalue

end Entity

namespace Submission

variable {σ : Type}

/-! ## Submissions -/

/-- What an entity holds after a submission it held before, or the submission gave it a key. -/
theorem Submitted.find_after {schema : SchemaSource σ} {dialect : Dialect}
    {options : TransactionOptions} {tracked : Tracked} {state : σ} {calls : List Exchange}
    {result : Except PersistError Nat × Tracked}
    (h : Submitted schema dialect options tracked state calls result) {id : EntityId}
    {old new : Entity} (hold : tracked.store.get? id = some old)
    (hnew : result.2.store.get? id = some new) {column : String} {value : Value}
    (hvalue : new.values.find? column = some value) :
    old.values.find? column = some value ∨
      ReadBack schema dialect tracked calls id old column value ∨
      CopiedKey tracked result.2 id old column value := by
  cases hresult : result.1 with
  | error error =>
      -- What was filled before the failure is taken back.
      obtain ⟨-, failed, -, hget, -⟩ := h.taken_back hresult
      rw [hget, hold, Option.map_some, Option.some.injEq] at hnew
      rw [← hnew, NameMap.find_filter] at hvalue
      exact .inl (Option.eq_some_of_filter_eq_some hvalue)
  | ok count =>
      by_cases hsame : new.values.find? column = old.values.find? column
      · exact .inl (hsame.symm.trans hvalue)
      · obtain ⟨-, given, hgiven, hsource⟩ := h.gained hresult hold hnew hsame
        obtain ⟨hfind, -⟩ := Entity.present_eq_some_iff.1 hgiven
        rw [Option.some.inj (hvalue.symm.trans hfind)]
        exact .inr hsource

/-- All that a submission depends on but the entities: what is pending, where the models of tables
come from, and over which connection, in which state and in which way it is made. -/
structure Terms (σ : Type) where
  pending : PendingSet
  schema : SchemaSource σ
  connection : Connection σ
  dialect : Dialect
  options : TransactionOptions
  state : σ
  isAsync : Bool

namespace Terms

/-- The entities with what is pending. -/
def tracked (terms : Terms σ) (store : EntityStore) : Tracked := ⟨store, terms.pending⟩

/-- The submission: its result and the entities afterwards. -/
def submit (terms : Terms σ) (store : EntityStore) : Except PersistError Nat × Tracked :=
  if terms.isAsync then
    (applyPendingAsync terms.schema terms.connection terms.dialect terms.options
      (terms.tracked store) terms.state).1
  else
    (applyPending terms.schema terms.connection terms.dialect terms.options
      (terms.tracked store) terms.state).1

/-- The calls that the submission makes. -/
def calls (terms : Terms σ) (store : EntityStore) : List Exchange :=
  if terms.isAsync then
    asyncExchanges terms.schema terms.connection terms.dialect terms.options
      (terms.tracked store) terms.state
  else
    exchanges terms.schema terms.connection terms.dialect terms.options
      (terms.tracked store) terms.state

/-- Either way the submission ends as `Submitted` says. -/
theorem submitted (terms : Terms σ) (store : EntityStore) :
    Submitted terms.schema terms.dialect terms.options (terms.tracked store) terms.state
      (terms.calls store) (terms.submit store) := by
  rw [calls, submit]
  split
  · exact async_submitted_exchanges ..
  · exact submitted_exchanges ..

end Terms

end Submission

open Submission

/-! ## Runs -/

/-- What happens to the entities of a store: new ones are added, one is edited, or what is pending
is submitted. -/
inductive StoreAction (σ : Type)
  | add (rows : List Entity)
  | edit (id : EntityId) (change : EntityEdit)
  | submit (terms : Terms σ)

namespace StoreAction

variable {σ : Type}

/-- The entities after an action. -/
def perform : StoreAction σ → EntityStore → EntityStore
  | .add rows, store => (store.addAll rows).2
  | .edit id change, store => (change.apply id store).store
  | .submit terms, store => (terms.submit store).2.store

/-- The entities after some actions, one after the other. -/
def performAll (actions : List (StoreAction σ)) (store : EntityStore) : EntityStore :=
  actions.foldl (fun store action => action.perform store) store

variable {action : StoreAction σ} {store : EntityStore} {id : EntityId} {old : Entity}
  {column : String} {value : Value}

/-- A submission fills a column of an entity with the key that the database assigned to its row. -/
def ReadsBack (action : StoreAction σ) (store : EntityStore) (id : EntityId) (column : String)
    (value : Value) : Prop :=
  ∃ terms entity, action = .submit terms ∧ store.get? id = some entity ∧
    ReadBack terms.schema terms.dialect (terms.tracked store) (terms.calls store) id entity column
      value

/-- A submission fills a column of an entity with a key of a parent that the entity is linked to. -/
def CopiesKey (action : StoreAction σ) (store : EntityStore) (id : EntityId) (column : String)
    (value : Value) : Prop :=
  ∃ terms entity, action = .submit terms ∧ store.get? id = some entity ∧
    CopiedKey (terms.tracked store) (terms.submit store).2 id entity column value

/-- An action keeps an entity with its model. What the entity holds afterwards it held before, or it
fits, or it is a key that the action filled in. -/
theorem perform_fits (action : StoreAction σ) (hold : store.get? id = some old)
    (hmodel : old.columns.isEmpty = false) :
    ∃ new, (action.perform store).get? id = some new ∧ new.columns = old.columns ∧
      ∀ column value, new.values.find? column = some value →
        old.values.find? column = some value ∨ old.Fits column value ∨
          action.ReadsBack store id column value ∨ action.CopiesKey store id column value := by
  cases action with
  | add rows =>
      exact ⟨old, store.get_add_all_of_get hold rows, rfl, fun _ _ hvalue => .inl hvalue⟩
  | edit edited change =>
      have hedits := change.edits_of edited store
      by_cases hsame : id = edited
      · subst hsame
        obtain ⟨new, hnew, hchanges⟩ := hedits.edits old hold
        exact ⟨new, hnew, hchanges.same_row.columns, fun column value hvalue =>
          (hchanges.fits hmodel hvalue).imp_right .inl⟩
      · exact ⟨old, (hedits.others id hsame).trans hold, rfl, fun _ _ hvalue => .inl hvalue⟩
  | submit terms =>
      have hsubmitted := terms.submitted store
      obtain ⟨new, hnew, hrow, -⟩ := hsubmitted.submits.kept id old hold
      refine ⟨new, hnew, hrow.columns, fun column value hvalue => ?_⟩
      rcases hsubmitted.find_after hold hnew hvalue with hheld | hread | hcopied
      · exact .inl hheld
      · exact .inr (.inr (.inl ⟨terms, old, rfl, hold, hread⟩))
      · exact .inr (.inr (.inr ⟨terms, old, rfl, hold, hcopied⟩))

/-- An action of a run does something with the entities as they are then. -/
def Occurs (actions : List (StoreAction σ)) (start : EntityStore)
    (event : StoreAction σ → EntityStore → Prop) : Prop :=
  ∃ front action back, actions = front ++ action :: back ∧ event action (performAll front start)

/-- What occurs in a run occurs in a longer one. -/
theorem Occurs.concat {actions : List (StoreAction σ)} {start : EntityStore}
    {event : StoreAction σ → EntityStore → Prop} (h : Occurs actions start event)
    (last : StoreAction σ) : Occurs (actions ++ [last]) start event := by
  obtain ⟨front, action, back, rfl, hevent⟩ := h
  exact ⟨front, action, back ++ [last], by simp, hevent⟩

/-- What a new row holds after any run of edits and submissions, whoever makes them and however they
end, fits the model that it was created with. There are two exceptions: the single key of a model by
which a submission inserted the row, which it read back from the result and kept as the database
answered if it could not convert it, and foreign keys that a submission copied from a parent that
the row was linked to. -/
theorem values_fit {start : EntityStore} {id : EntityId} {entity : Entity}
    (hentity : start.get? id = some entity) (hfresh : entity.values = .empty)
    (hmodel : entity.columns.isEmpty = false) (actions : List (StoreAction σ)) :
    ∃ after, (performAll actions start).get? id = some after ∧ after.columns = entity.columns ∧
      ∀ column value, after.values.find? column = some value →
        after.Fits column value ∨
          Occurs actions start (fun action store => action.ReadsBack store id column value) ∨
          Occurs actions start (fun action store => action.CopiesKey store id column value) := by
  induction actions using List.reverseRecOn with
  | nil =>
      refine ⟨entity, hentity, rfl, fun column value hvalue => ?_⟩
      rw [hfresh] at hvalue
      cases hvalue
  | append_singleton actions last ih =>
      obtain ⟨old, hold, hcolumns, hvalues⟩ := ih
      obtain ⟨new, hnew, hsame, hkept⟩ := last.perform_fits hold (hcolumns ▸ hmodel)
      refine ⟨new, ?_, hsame.trans hcolumns, fun column value hvalue => ?_⟩
      · rw [performAll, List.foldl_append]
        exact hnew
      have hfits : old.Fits column value → new.Fits column value := fun hfits => by
        rwa [Entity.Fits, hsame]
      rcases hkept column value hvalue with hheld | hfit | hread | hcopied
      · -- It was held before, and fits or was filled in as it was then.
        rcases hvalues column value hheld with hfit | hread | hcopied
        · exact .inl (hfits hfit)
        · exact .inr (.inl (hread.concat last))
        · exact .inr (.inr (hcopied.concat last))
      · exact .inl (hfits hfit)
      · exact .inr (.inl ⟨actions, last, [], rfl, hread⟩)
      · exact .inr (.inr ⟨actions, last, [], rfl, hcopied⟩)

/-- A new order, whose key and customer are numbers. -/
def newOrder : Entity :=
  .fresh (Table.named "dbo" "Orders")
    (.ofColumns [(Column.plain "Id" .integer "int").primaryKey,
      Column.plain "CustomerId" .integer "int"]) none

/-- A connection that answers every command with a text. -/
def answeringText (content : String) : Connection Unit where
  start := fun _ => return .ok ()
  execute := fun _ => return .ok (.scalar (.text content))
  commit := return .ok ()
  rollback := return .ok ()

/-- The customer of an order is set by a text and the order is submitted; the database assigns a key
that is a text. -/
def insertKeyedByText : List (StoreAction Unit) :=
  [.edit ⟨0⟩ (.set "CustomerId" (some (.text "3"))),
    .submit ⟨PendingSet.empty.mark ⟨0⟩, WritePlan.unrelated, answeringText "A7", .brackets, default,
      (), false⟩]

/-- The text became the number of the customer. The key is the only value that need not fit. -/
theorem order_values_fit :
    ∃ after, (performAll insertKeyedByText ⟨#[newOrder]⟩).get? ⟨0⟩ = some after ∧
      after.columns = newOrder.columns ∧ after.values.find? "CustomerId" = some (.int 3) ∧
      ∀ column value, after.values.find? column = some value →
        after.Fits column value ∨
          Occurs insertKeyedByText ⟨#[newOrder]⟩
            (fun action store => action.ReadsBack store ⟨0⟩ column value) ∨
          Occurs insertKeyedByText ⟨#[newOrder]⟩
            (fun action store => action.CopiesKey store ⟨0⟩ column value) := by
  have horder : (⟨#[newOrder]⟩ : EntityStore).get? ⟨0⟩ = some newOrder := rfl
  obtain ⟨after, hafter, hcolumns, hvalues⟩ :=
    values_fit horder rfl (by decide) insertKeyedByText
  refine ⟨after, hafter, hcolumns, ?_, hvalues⟩
  obtain rfl := Option.some.inj hafter
  decide +kernel

/-- The key does not fit. -/
theorem text_key_misfits :
    ∃ after, (performAll insertKeyedByText ⟨#[newOrder]⟩).get? ⟨0⟩ = some after ∧
      ¬ ∀ column value, after.values.find? column = some value → after.Fits column value := by
  refine ⟨_, rfl, fun hfits => ?_⟩
  exact absurd (hfits "Id" (.text "A7") (by decide +kernel)) (by decide +kernel)

end StoreAction

end Orm
