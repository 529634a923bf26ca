import Orm.Proofs.Change.DeleteOrder
import Orm.Proofs.Change.LinkOrder
import Orm.Proofs.Context.Tracking

/-!
# In which order loaded rows are deleted

Entities do not remember what they were loaded with, so the order of a batch of deletes follows the
keys that they hold when they are submitted. `referring_rows_deleted_first` says so, and that these
are the loaded keys where no edit wrote them. A row that is moved to another parent before it is
deleted can come after the parent that the database still has for it (`moved_order_deleted_last`).
-/

namespace Orm.Context

open Submission

variable {σ τ : Type} {context : Context σ} {start : Workspace σ}

/-- A session keeps what is present in the columns that it does not write. -/
theorem present_session (halive : (start.owner? context.owner).isSome = true)
    (actions : List ContextAction) {id : EntityId} {column : String} {value : Value}
    (hpresent : start.store.present? id column = some value)
    (hcolumn : (id, column) ∉ context.writtenIn actions start) :
    (context.session actions start).store.present? id column = some value := by
  obtain ⟨old, hold, hvalue⟩ := Option.bind_eq_some_iff.1 hpresent
  obtain ⟨new, hnew, hkept⟩ := kept_session halive actions hold
  rw [EntityStore.present?, hnew, Option.bind_some]
  exact hkept.present column value hcolumn hvalue

/-- A session keeps the values of some columns that it does not write. -/
theorem key_values_session (halive : (start.owner? context.owner).isSome = true)
    (actions : List ContextAction) {id : EntityId} {columns : List String} {values : List Value}
    (hvalues : WritePlan.keyValues start.store id columns = some values)
    (hcolumns : ∀ column ∈ columns, (id, column) ∉ context.writtenIn actions start) :
    WritePlan.keyValues (context.session actions start).store id columns = some values := by
  induction columns generalizing values with
  | nil => exact hvalues
  | cons column rest ih =>
      obtain ⟨hcolumn, hrest⟩ := List.forall_mem_cons.1 hcolumns
      simp only [WritePlan.keyValues, List.mapM_cons, Option.bind_eq_bind,
        Option.bind_eq_some_iff] at hvalues ih ⊢
      obtain ⟨value, hvalue, others, hothers, hsame⟩ := hvalues
      exact ⟨value, present_session halive actions hvalue hcolumn, others, ih hothers hrest, hsame⟩

/-- A row goes on to refer to another one if a session writes no key of either. -/
theorem refers_session (halive : (start.owner? context.owner).isSome = true)
    (actions : List ContextAction) {relationship : Relationship} {child parent : EntityId}
    (hrefers : WritePlan.Refers start.store relationship child parent)
    (hforeign : ∀ column ∈ relationship.foreignKeys,
      (child, column) ∉ context.writtenIn actions start)
    (hprimary : ∀ column ∈ relationship.primaryKeys,
      (parent, column) ∉ context.writtenIn actions start) :
    WritePlan.Refers (context.session actions start).store relationship child parent := by
  obtain ⟨⟨old, hold, htable⟩, primary, foreign, hparent, hchild, hsame⟩ := hrefers
  obtain ⟨new, hnew, hkept⟩ := kept_session halive actions hold
  exact ⟨⟨new, hnew, hkept.row.table.trans htable⟩, primary, foreign,
    key_values_session halive actions hparent hprimary,
    key_values_session halive actions hchild hforeign, hsame⟩

/-- A row refers to another one when both are submitted after a session, or it did before the
session and the session wrote no key of either. -/
def ReferredTo (context : Context σ) (start : Workspace σ) (actions : List ContextAction)
    (relationship : Relationship) (child parent : EntityId) : Prop :=
  WritePlan.Refers (context.session actions start).store relationship child parent ∨
    WritePlan.Refers start.store relationship child parent ∧
      (∀ column ∈ relationship.foreignKeys, (child, column) ∉ context.writtenIn actions start) ∧
      ∀ column ∈ relationship.primaryKeys, (parent, column) ∉ context.writtenIn actions start

/-- Rows were loaded, and after any session some are submitted, by blocking calls or not. The
commands are those of statements that were rendered for the submitted entities, at most one for
each. A row that is to be deleted refers to another one, either by what both hold when they are
submitted, or by what they were loaded with if no key of either was written since. Then the
statement that deletes the other one comes behind one that deletes the row itself, and that is a
delete of the row with the loaded key, but for the key columns that were written since. -/
theorem referring_rows_deleted_first (halive : (start.owner? context.owner).isSome = true)
    (actions : List ContextAction) (schema : SchemaSource τ) (connection : Connection τ)
    (dialect : Dialect) (options : TransactionOptions) (pending : PendingSet) (state : τ) :
    let tracked : Tracked := ⟨(context.session actions start).store, pending⟩
    ∀ calls, calls = exchanges schema connection dialect options tracked state ∨
        calls = asyncExchanges schema connection dialect options tracked state →
      ∃ issues : List Issue,
        commandsOf calls = issues.map (fun issue => issue.statement.command dialect) ∧
        (issues.map fun issue => issue.step.entity).Nodup ∧
        (∀ issue ∈ issues, ∃ entity, issue.Renders schema dialect tracked entity) ∧
        ∀ relationship child parent entity, child ≠ parent →
          child ∈ pending.ids → tracked.store.get? child = some entity →
          entity.state = .deletePending →
          (∀ asked set, (schema.relationships entity.table asked).1 = .ok set →
            relationship ∈ set.parents) →
          ReferredTo context start actions relationship child parent →
          ∀ front issue back, issues = front ++ issue :: back → issue.step = ⟨.delete, parent⟩ →
            ∃ earlier ∈ front, earlier.step = ⟨.delete, child⟩ ∧
              ∃ keyed, earlier.statement.Addresses entity.table keyed ∧
                keyed.map Prod.fst = earlier.columns.primaryKeys ∧
                ∀ column value, (column, value) ∈ keyed →
                  ∀ read, start.store.present? child column = some read →
                    (child, column) ∉ context.writtenIn actions start → value = read := by
  intro tracked calls hcalls
  obtain ⟨result, hsubmitted⟩ := exists_submitted hcalls
  obtain ⟨issues, hissues⟩ := hsubmitted.issues_as_planned
  have hrenders : ∀ issue ∈ issues, ∃ entity, issue.Renders schema dialect tracked entity := by
    intro issue hissue
    obtain ⟨entity, hrendered⟩ := hissues.renders issue hissue
    exact ⟨entity, hrendered.toRenders⟩
  refine ⟨issues, hissues.commands, hissues.distinct, hrenders, ?_⟩
  intro relationship child parent entity hne hwaits hentity hstate hknown hreferred front issue back
    hsplit hissue
  have hdirty : child ∈ tracked.pending.dirty tracked.store :=
    PendingSet.mem_dirty_iff.2 ⟨hwaits, entity, hentity, by rw [hstate]; rfl⟩
  have hrefers : WritePlan.Refers tracked.store relationship child parent := by
    rcases hreferred with hrefers | ⟨hrefers, hforeign, hprimary⟩
    · exact hrefers
    · exact refers_session halive actions hrefers hforeign hprimary
  obtain ⟨earlier, hearlier, hstep⟩ := hissues.deletes_child_before hne hdirty hentity hstate hknown
    hrefers hsplit hissue
  have hissued : earlier ∈ issues := by
    rw [hsplit]
    exact List.mem_append_left _ hearlier
  obtain ⟨known, hrendered⟩ := hrenders earlier hissued
  have hget := hrendered.get
  rw [hstep, hentity] at hget
  obtain rfl := Option.some.inj hget
  obtain ⟨keyed, haddresses, hkeys, -, hvalues⟩ := hrendered.addresses (by rw [hstep]; nofun)
  refine ⟨earlier, hearlier, hstep, keyed, haddresses, hkeys, ?_⟩
  intro column value hmem read hread hcolumn
  have hpresent := present_session halive actions hread hcolumn
  rw [EntityStore.present?, hentity, Option.bind_some] at hpresent
  exact (hvalues column value hmem).2 read hpresent

/-- A schema in which orders refer to their customers. -/
def relatedOrders : SchemaSource Unit where
  columns := fun _ => return .ok .empty
  relationships := fun table => return .ok (.partition table [customerOfOrder])

/-- The row of Ann and that of an order of hers were loaded. -/
def annWithOrder : Workspace Unit :=
  { alone (ofNames (assigningSeven (.ok ()))) with
    store := ⟨#[
      .materialized (Table.named "dbo" "Customers")
        (.ofColumns [(Column.plain "Id" .integer "int").primaryKey,
          Column.plain "Name" .text "nvarchar"]) (some ⟨0⟩) [("Id", .int 1), ("Name", .text "Ann")],
      .materialized (Table.named "dbo" "Orders")
        (.ofColumns [(Column.plain "Id" .integer "int").primaryKey,
          Column.plain "CustomerId" .integer "int"]) (some ⟨0⟩)
        [("Id", .int 5), ("CustomerId", .int 1)]]⟩ }

/-- The calls that submit Ann and her order after some edits. -/
def callsAfter (actions : List ContextAction) : List Exchange :=
  exchanges relatedOrders (assigningSeven (.ok ())) .brackets default
    (((ofNames (assigningSeven (.ok ()))).session actions annWithOrder).trackedBy ⟨0⟩) ()

/-- An order that was moved to another customer is deleted behind the customer that it was loaded
with. -/
theorem moved_order_deleted_last :
    WritePlan.Refers annWithOrder.store customerOfOrder ⟨1⟩ ⟨0⟩ ∧
      commandsOf (callsAfter [.edit ⟨1⟩ (.set "CustomerId" (some (.int 2))), .edit ⟨0⟩ .delete,
          .edit ⟨1⟩ .delete])
        = [.statement "DELETE FROM [dbo].[Customers] WHERE [Id] = @p0" [.input "@p0" (.int 1)],
          .statement "DELETE FROM [dbo].[Orders] WHERE [Id] = @p0" [.input "@p0" (.int 5)]] :=
  ⟨WritePlan.refers_to_iff.1 (by decide +kernel), by decide +kernel⟩

/-- Of two deletes that one comes first without which the other one cannot stand. -/
theorem two_deletes_in_order {issues : List Issue} {child parent : EntityId}
    (hcount : issues.length = 2) (hdistinct : (issues.map fun issue => issue.step.entity).Nodup)
    (hsteps : ∀ issue ∈ issues, issue.step = ⟨.delete, parent⟩ ∨ issue.step = ⟨.delete, child⟩)
    (hbehind : ∀ front issue back, issues = front ++ issue :: back →
      issue.step = ⟨.delete, parent⟩ → front ≠ []) :
    ∃ first second, issues = [first, second] ∧ first.step = ⟨.delete, child⟩ ∧
      second.step = ⟨.delete, parent⟩ := by
  obtain ⟨first, second, rfl⟩ := List.length_eq_two.1 hcount
  have hfirst : first.step = ⟨.delete, child⟩ :=
    (hsteps first (by simp)).resolve_left fun hparent => hbehind [] first [second] rfl hparent rfl
  refine ⟨first, second, rfl, hfirst, (hsteps second (by simp)).resolve_right fun hagain => ?_⟩
  simp [hfirst, hagain] at hdistinct

/-- Ann is renamed, and then she and her order are deleted. -/
def renamedThenDeleted : List ContextAction :=
  [.edit ⟨0⟩ (.set "Name" (some (.text "Eve"))), .edit ⟨0⟩ .delete, .edit ⟨1⟩ .delete]

/-- What waits for a submission then. -/
def deletesOfAnn : Tracked :=
  ((ofNames (assigningSeven (.ok ()))).session renamedThenDeleted annWithOrder).trackedBy ⟨0⟩

/-- All that is issued for them are deletes. -/
theorem step_of_renders {issue : Issue} {entity : Entity}
    (h : issue.Renders relatedOrders .brackets deletesOfAnn entity) :
    issue.step = ⟨.delete, ⟨0⟩⟩ ∨ issue.step = ⟨.delete, ⟨1⟩⟩ := by
  have hdirty : deletesOfAnn.pending.dirty deletesOfAnn.store = [⟨0⟩, ⟨1⟩] := by decide +kernel
  have hstates : ∀ id ∈ [(⟨0⟩ : EntityId), ⟨1⟩], (deletesOfAnn.store.get? id).map Entity.state
      = some .deletePending := by decide +kernel
  have hid : issue.step.entity ∈ [(⟨0⟩ : EntityId), ⟨1⟩] := hdirty ▸ h.dirty
  have hstate := hstates _ hid
  rw [h.get, Option.map_some, Option.some.injEq] at hstate
  rw [h.step_of_delete hstate]
  simpa using hid

/-- The order waits for its delete. -/
theorem order_waits : ∃ order, deletesOfAnn.store.get? ⟨1⟩ = some order ∧
    order.state = .deletePending ∧ order.table = Table.named "dbo" "Orders" ∧
    order.columns.primaryKeys = ["Id"] := by
  have horder : (deletesOfAnn.store.get? ⟨1⟩).map
      (fun entity => (entity.state, entity.table, entity.columns.primaryKeys))
      = some (.deletePending, Table.named "dbo" "Orders", ["Id"]) := by decide +kernel
  obtain ⟨order, hget, hsame⟩ := Option.map_eq_some_iff.1 horder
  exact ⟨order, hget, by simpa using hsame⟩

/-- If only the name of the customer was edited, then the order is deleted before the customer. -/
theorem order_of_renamed_customer_deleted_first :
    ReferredTo (ofNames (assigningSeven (.ok ()))) annWithOrder renamedThenDeleted customerOfOrder
        ⟨1⟩ ⟨0⟩ ∧
      ∃ first second : Issue, first.step = ⟨.delete, ⟨1⟩⟩ ∧ second.step = ⟨.delete, ⟨0⟩⟩ ∧
        commandsOf (callsAfter renamedThenDeleted)
          = [first.statement.command .brackets, second.statement.command .brackets] ∧
        first.statement.Addresses (Table.named "dbo" "Orders") [("Id", .int 5)] := by
  have hreferred : ReferredTo (ofNames (assigningSeven (.ok ()))) annWithOrder renamedThenDeleted
      customerOfOrder ⟨1⟩ ⟨0⟩ :=
    .inr ⟨WritePlan.refers_to_iff.1 (by decide +kernel), by decide +kernel, by decide +kernel⟩
  refine ⟨hreferred, ?_⟩
  obtain ⟨issues, hcommands, hdistinct, hrenders, hfirst⟩ :=
    referring_rows_deleted_first rfl renamedThenDeleted relatedOrders (assigningSeven (.ok ()))
      .brackets default deletesOfAnn.pending () (callsAfter renamedThenDeleted) (.inl rfl)
  obtain ⟨order, hget, hstate, htable, hkey⟩ := order_waits
  have hknown : ∀ asked set, (relatedOrders.relationships order.table asked).1 = .ok set →
      customerOfOrder ∈ set.parents := by
    intro asked set hset
    cases hset
    rw [htable]
    decide
  have hbehind := hfirst customerOfOrder ⟨1⟩ ⟨0⟩ order (by decide) (by decide +kernel) hget hstate
    hknown hreferred
  have hcount : issues.length = 2 := by
    rw [← List.length_map fun issue : Issue => issue.statement.command .brackets, ← hcommands]
    decide +kernel
  obtain ⟨first, second, rfl, hchild, hparent⟩ := two_deletes_in_order hcount hdistinct
    (fun issue hissue => step_of_renders (hrenders issue hissue).choose_spec)
    fun front issue back hsplit hissue => by
      obtain ⟨earlier, hearlier, -⟩ := hbehind front issue back hsplit hissue
      exact List.ne_nil_of_mem hearlier
  obtain ⟨earlier, hearlier, -, keyed, haddresses, hkeys, hread⟩ :=
    hbehind [first] second [] rfl hparent
  obtain rfl := List.mem_singleton.1 hearlier
  refine ⟨earlier, second, hchild, hparent, hcommands, ?_⟩
  obtain ⟨entity, hrendered⟩ := hrenders earlier (by simp)
  have hsource : deletesOfAnn.store.get? earlier.step.entity = some entity := hrendered.get
  rw [hchild] at hsource
  obtain rfl := Option.some.inj (hget.symm.trans hsource)
  rw [hrendered.columns_eq fun _ _ => rfl, hkey] at hkeys
  obtain ⟨⟨_, value⟩, rfl, rfl⟩ := List.map_eq_singleton_iff.1 hkeys
  obtain rfl := hread "Id" value List.mem_cons_self (.int 5) rfl (by decide +kernel)
  rwa [htable] at haddresses

end Orm.Context
