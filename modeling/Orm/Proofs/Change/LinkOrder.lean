import Orm.Proofs.Change.Linking

/-!
# Linking a child before or after its parent is inserted

The key that the database assigns to a new parent reaches a child in two ways: it is filled in at
the write of a child that was linked before, or copied when the child is linked afterwards. The two
do not come to the same. A copied key is converted, overwrites what was there and is an edit of the
child; a key that is filled in is none of that, and is not filled in at all unless the child waits
for its write anyway. `linked_before_or_after` says what either way leaves in a column of the child
and which statement stores it.
-/

namespace Orm

/-- The entities of an owner after a child was linked to a parent, of which the owner is told. -/
def Tracked.linked (tracked : Tracked) (child : EntityId) (relationship : Relationship)
    (parent : EntityId) : Tracked :=
  let edited := tracked.store.linkParent child relationship parent
  ⟨edited.store, edited.notices.foldl PendingSet.notice tracked.pending⟩

/-- The same row keeps a value in the same way. -/
theorem Entity.SameRow.coerce_for {left right : Entity} (h : left.SameRow right) (column : String)
    (value : Value) : left.coerceFor column value = right.coerceFor column value := by
  simp only [Entity.coerceFor, h.table, h.columns]

namespace Batch

/-- What is given to a column depends on the keys of the pairs only. -/
theorem key_for_congr_of_present {first second : EntityStore} {parent : EntityId}
    {pairs : List (String × String)}
    (h : ∀ pair ∈ pairs, first.present? parent pair.1 = second.present? parent pair.1)
    (column : String) : keyFor first parent pairs column = keyFor second parent pairs column := by
  induction pairs with
  | nil => rfl
  | cons pair rest ih =>
      obtain ⟨hfirst, hrest⟩ := List.forall_mem_cons.1 h
      rw [key_for_cons, key_for_cons, hfirst, ih hrest]

variable {store : EntityStore} {parent : EntityId} {pairs : List (String × String)}

/-- A column has a key if one of the pairs for it has. -/
theorem key_for_of_mem {primary foreign : String} (hpair : (primary, foreign) ∈ pairs)
    {key : Value} (hkey : store.present? parent primary = some key) :
    ∃ first, keyFor store parent pairs foreign = some first := by
  cases hfirst : keyFor store parent pairs foreign with
  | some first => exact ⟨first, rfl⟩
  | none =>
      have hnone := List.findSome?_eq_none_iff.1 hfirst (primary, foreign) hpair
      rw [if_pos rfl, hkey] at hnone
      cases hnone

/-- A key of a column is what one of the pairs for it has, and is not null. -/
theorem exists_of_key_for {column : String} {key : Value}
    (h : keyFor store parent pairs column = some key) :
    ∃ primary, (primary, column) ∈ pairs ∧ store.present? parent primary = some key ∧
      key.isNull = false := by
  obtain ⟨⟨primary, foreign⟩, hpair, hkey⟩ := List.exists_of_findSome?_eq_some h
  dsimp only at hkey
  split at hkey
  · next hsame =>
    subst hsame
    obtain ⟨entity, -, hpresent⟩ := Option.bind_eq_some_iff.1 hkey
    exact ⟨primary, hpair, hkey, (Entity.present_eq_some_iff.1 hpresent).2⟩
  · cases hkey

end Batch

namespace Tracked

variable {tracked : Tracked} {child parent : EntityId} {relationship : Relationship}
  {entity parentEntity : Entity}

/-- Without known keys linking only keeps the link. -/
theorem linked_of_unknown (hchild : tracked.store.get? child = some entity)
    (hparent : tracked.store.get? parent = some parentEntity)
    (hok : (tracked.store.linkParent child relationship parent).outcome = .ok ())
    (hunknown : ∀ pair ∈ relationship.keyPairs, tracked.store.present? parent pair.1 = none) :
    tracked.linked child relationship parent
      = { tracked with store := tracked.store.modify child fun entity =>
            { entity with links := entity.links ++ [⟨relationship, parent⟩] } } := by
  obtain ⟨-, hlinked⟩ := EntityStore.link_parent_of_ok hchild hparent hok
  rw [linked, hlinked, EntityStore.copy_keys_of_unknown hunknown]
  rfl

/-- Without known keys a child waits for its write after it was linked if and only if it did
before. -/
theorem mem_dirty_linked_iff (hchild : tracked.store.get? child = some entity)
    (hparent : tracked.store.get? parent = some parentEntity)
    (hok : (tracked.store.linkParent child relationship parent).outcome = .ok ())
    (hunknown : ∀ pair ∈ relationship.keyPairs, tracked.store.present? parent pair.1 = none) :
    child ∈ (tracked.linked child relationship parent).pending.dirty
        (tracked.linked child relationship parent).store ↔
      child ∈ tracked.pending.dirty tracked.store := by
  rw [linked_of_unknown hchild hparent hok hunknown, PendingSet.mem_dirty_iff,
    PendingSet.mem_dirty_iff, EntityStore.get_modify_self, hchild]
  simp

/-- A child waits for its write once its owner was told of columns that changed. -/
theorem mem_pending_of_changed (child : EntityId) {columns : List String} {pending : PendingSet}
    (h : child ∈ pending.ids ∨ columns ≠ []) :
    child ∈ ((columns.flatMap fun column => [Notice.track child, .changed child column]).foldl
      PendingSet.notice pending).ids := by
  induction columns generalizing pending with
  | nil => exact h.resolve_right fun hsome => hsome rfl
  | cons column rest ih => exact ih (.inl (PendingSet.mem_mark.2 (.inl rfl)))

/-- A known key is copied to a column as the column keeps it, and the child waits for a write of
it. -/
theorem linked_of_known (hchild : tracked.store.get? child = some entity)
    (hparent : tracked.store.get? parent = some parentEntity) (hne : child ≠ parent)
    (hok : (tracked.store.linkParent child relationship parent).outcome = .ok ())
    {column : String} {key : Value}
    (hkey : Batch.keyFor tracked.store parent relationship.keyPairs.reverse column = some key) :
    ∃ kept joined, entity.coerceFor column key = .ok kept ∧
      (tracked.linked child relationship parent).store.get? child = some joined ∧
      joined.table = entity.table ∧ joined.present? column = some kept ∧
      child ∈ (tracked.linked child relationship parent).pending.ids ∧
      joined.state.isDirty = true ∧
      (joined.state = .created ∨ column ∈ joined.state.modifiedColumns) := by
  obtain ⟨hcopies, hlinked⟩ := EntityStore.link_parent_of_ok hchild hparent hok
  obtain ⟨hnotices, copied, hcopied, hcopy⟩ := EntityStore.copy_keys_of_ok hchild hne hcopies
  obtain ⟨primary, hpair, hpresent, hnull⟩ := Batch.exists_of_key_for hkey
  obtain ⟨kept, hkept, hvalue⟩ := hcopy.keys column key hkey
  have hknown : column ∈ tracked.store.knownColumns parent relationship.keyPairs :=
    List.mem_map_of_mem (f := Prod.snd) (List.mem_filter.2
      ⟨List.mem_reverse.1 hpair, by rw [hpresent]; rfl⟩)
  obtain ⟨hdirty, hedited⟩ := EntityState.dirty_record_edits
    (hcopy.accepts (List.ne_nil_of_mem hknown)) hknown
  rw [← hcopy.state] at hdirty hedited
  refine ⟨kept, { copied with links := copied.links ++ [⟨relationship, parent⟩] }, hkept, ?_, ?_,
    ?_, ?_, hdirty, hedited⟩
  · rw [linked, hlinked, EntityStore.get_modify_self, hcopied, Option.map_some]
  · rw [hcopy.entity]
  · exact Entity.present_eq_some_iff.2 ⟨hvalue, Entity.not_null_coerce_for hkept hnull⟩
  · rw [linked, hlinked, hnotices]
    exact mem_pending_of_changed child (.inr (List.ne_nil_of_mem hknown))

end Tracked

namespace Submission

variable {σ : Type}

/-- A submission, by blocking calls or by asynchronous ones, succeeds. -/
def Succeeds (schema : SchemaSource σ) (dialect : Dialect) (options : TransactionOptions)
    (tracked : Tracked) (calls : List Exchange) (after : Tracked) : Prop :=
  ∃ (connection : Connection σ) (state : σ) (count : Nat),
    (applyPending schema connection dialect options tracked state).1 = (.ok count, after) ∧
        calls = exchanges schema connection dialect options tracked state ∨
      (applyPendingAsync schema connection dialect options tracked state).1
          = (.ok count, after) ∧
        calls = asyncExchanges schema connection dialect options tracked state

/-- A child is linked to a parent and what waits is submitted, which all succeeds. -/
structure LinkSucceeds (schema : SchemaSource σ) (dialect : Dialect)
    (options : TransactionOptions) (tracked : Tracked) (child : EntityId)
    (relationship : Relationship) (parent : EntityId) (calls : List Exchange) (after : Tracked) :
    Prop where
  link : (tracked.store.linkParent child relationship parent).outcome = .ok ()
  submit : Succeeds schema dialect options (tracked.linked child relationship parent) calls after

variable {schema : SchemaSource σ} {dialect : Dialect} {options : TransactionOptions}
  {tracked early between late : Tracked} {child parent : EntityId} {relationship : Relationship}
  {entity : Entity} {calls : List Exchange}

/-- A submission that succeeds ends in one of the ways of `Submitted`. -/
theorem Succeeds.submitted (h : Succeeds schema dialect options tracked calls early) :
    ∃ state count, Submitted schema dialect options tracked state calls (.ok count, early) := by
  obtain ⟨connection, state, count, ⟨hrun, rfl⟩ | ⟨hrun, rfl⟩⟩ := h
  · exact ⟨state, count, hrun ▸ submitted_exchanges schema connection dialect options tracked state⟩
  · exact ⟨state, count,
      hrun ▸ async_submitted_exchanges schema connection dialect options tracked state⟩

/-- A key that is known when a child is linked is what the child holds after its submission, as the
column keeps it, and its write stores it wherever it can. -/
theorem LinkSucceeds.stored_of_known
    (h : LinkSucceeds schema dialect options between child relationship parent calls late)
    (hchild : between.store.get? child = some entity) {parentEntity : Entity}
    (hparent : between.store.get? parent = some parentEntity) (hne : child ≠ parent)
    {column : String} {key : Value}
    (hkey : Batch.keyFor between.store parent relationship.keyPairs.reverse column = some key) :
    ∃ kept, entity.coerceFor column key = .ok kept ∧
      late.store.present? child column = some kept ∧
      ∃ state count plan entries, Committed schema dialect options
          (between.linked child relationship parent) state calls count late plan entries ∧
        ∃ entry ∈ entries, entry.step.entity = child ∧
          entry.StoresIf dialect entity.table column kept (entry.HasPlace column) := by
  obtain ⟨kept, joined, hkept, hjoined, htable, hpresent, hpending, hdirty, hedited⟩ :=
    Tracked.linked_of_known hchild hparent hne h.link hkey
  obtain ⟨state, count, hsubmitted⟩ := h.submit.submitted
  have hwaits := PendingSet.mem_dirty_iff.2 ⟨hpending, joined, hjoined, hdirty⟩
  obtain ⟨plan, entries, last, hcommitted, hledger, rfl⟩ :=
    hsubmitted.finished (List.ne_nil_of_mem hwaits) rfl
  obtain ⟨entry, hentry, rfl, hoperation, hbefore⟩ :=
    entry_of_dirty hcommitted.planned hledger hwaits hjoined
  have hdelete : entry.step.operation ≠ .delete := by
    intro hdelete
    rw [hdelete] at hoperation
    cases hstate : joined.state <;> rw [hstate] at hoperation hedited <;> cases hoperation
    rcases hedited with hedited | hedited <;> cases hedited
  have hvalid := hledger.valid_of_mem hentry
  have hheld := Entry.held_with_of_present hbefore joined.links hpresent
  have hchanged : entry.step.operation = .insert ∨ column ∈ joined.state.modifiedColumns ∨
      joined.present? column = none := by
    refine hedited.imp (fun hcreated => ?_) .inl
    rw [hcreated] at hoperation
    exact (Option.some.inj hoperation).symm
  have hstores := hvalid.stores hbefore hdelete hheld
  rw [and_iff_left hchanged, htable] at hstores
  refine ⟨kept, hkept, ?_, state, count, plan, entries, hcommitted, entry, hentry, rfl, hstores⟩
  rw [present_finish_of_entry hcommitted.planned hledger hentry]
  exact hvalid.present_after hbefore hdelete hheld

/-- If no key of the parent is known when a child is linked, then the child is written if and only
if it waited before, and otherwise nothing is stored. At its write a column that holds nothing gets
the first key that an earlier link has for it, or else that of the parent. -/
theorem LinkSucceeds.stored_of_unknown
    (h : LinkSucceeds schema dialect options tracked child relationship parent calls early)
    (hchild : tracked.store.get? child = some entity) (haccepts : entity.state.acceptsEdits = true)
    (hparent : New tracked parent)
    (hunknown : ∀ pair ∈ relationship.keyPairs, tracked.store.present? parent pair.1 = none)
    {column : String} {key : Value}
    (hkey : Batch.keyFor early.store parent relationship.keyPairs column = some key) :
    child ≠ parent ∧ ∃ state count plan entries, Committed schema dialect options
        (tracked.linked child relationship parent) state calls count early plan entries ∧
      (child ∉ tracked.pending.dirty tracked.store →
        early.store.present? child column = entity.present? column ∧
        ∀ entry ∈ entries, entry.step.entity ≠ child) ∧
      (child ∈ tracked.pending.dirty tracked.store →
        ∃ entry ∈ entries, entry.step.entity = child ∧
          early.store.present? child column
            = some ((entry.heldWith entity.links column).getD key) ∧
          entry.StoresIf dialect entity.table column
            ((entry.heldWith entity.links column).getD key)
            (entry.HasPlace column ∧ (entity.state = .created ∨
              column ∈ entity.state.modifiedColumns ∨ entity.present? column = none))) := by
  obtain ⟨hpending, parentEntity, hget, hcreated⟩ := hparent
  have hlinked := Tracked.linked_of_unknown hchild hget h.link hunknown
  have hwaits := Tracked.mem_dirty_linked_iff hchild hget h.link hunknown
  have hnew : New (tracked.linked child relationship parent) parent := by
    rw [hlinked, New, EntityStore.get_modify]
    refine ⟨hpending, ?_⟩
    split
    · next hsame =>
      subst hsame
      exact ⟨_, by rw [hchild, Option.map_some], by
        rwa [Option.some.inj (hchild.symm.trans hget)]⟩
    · exact ⟨parentEntity, hget, hcreated⟩
  have hjoined : (tracked.linked child relationship parent).store.get? child
      = some { entity with links := entity.links ++ [⟨relationship, parent⟩] } := by
    rw [hlinked, EntityStore.get_modify_self, hchild, Option.map_some]
  obtain ⟨state, count, hsubmitted⟩ := h.submit.submitted
  have hdirty : parent ∈ (tracked.linked child relationship parent).pending.dirty
      (tracked.linked child relationship parent).store := by
    obtain ⟨hstill, other, hother, hstate⟩ := hnew
    exact PendingSet.mem_dirty_iff.2 ⟨hstill, other, hother, by rw [hstate]; rfl⟩
  obtain ⟨plan, entries, last, hcommitted, hledger, rfl⟩ :=
    hsubmitted.finished (List.ne_nil_of_mem hdirty) rfl
  by_cases hwaiting : child ∈ tracked.pending.dirty tracked.store
  swap
  · have hidle := mt hwaits.1 hwaiting
    refine ⟨fun hsame => hidle (hsame ▸ hdirty), state, count, plan, entries, hcommitted,
      fun _ => ⟨?_, fun entry hentry hsame => hidle ?_⟩, fun hmem => absurd hmem hwaiting⟩
    · rw [EntityStore.present?, hcommitted.others child hidle, hjoined]
      rfl
    · exact hsame ▸ dirty_of_entry hcommitted.planned hentry
  · obtain ⟨entry, hentry, rfl, hoperation, hbefore⟩ :=
      entry_of_dirty hcommitted.planned hledger (hwaits.2 hwaiting) hjoined
    have hdelete : entry.step.operation ≠ .delete := by
      intro hdelete
      rw [hdelete] at hoperation
      cases hstate : entity.state <;> rw [hstate] at hoperation haccepts <;> cases hoperation
      cases haccepts
    obtain ⟨hvalue, hstores⟩ := stored_of_last_link hcommitted.planned hledger hentry hdelete
      hjoined rfl hnew hkey
    have hlink : (⟨relationship, parent⟩ : ParentLink) ∈ entity.links ++ [⟨relationship, parent⟩] :=
      List.mem_append_right _ List.mem_cons_self
    have hne := entity_ne_parent hcommitted.planned hentry hdelete hjoined hlink hnew
    refine ⟨hne, state, count, plan, entries, hcommitted,
      fun hclean => absurd hwaiting hclean, fun _ => ⟨entry, hentry, rfl, hvalue, ?_⟩⟩
    have hcreated : entry.step.operation = .insert ↔ entity.state = .created := by
      rw [← EntityState.operation_eq_insert_iff, ← Option.some_inj, ← hoperation]
    rwa [hcreated] at hstores

/-- A child that accepts edits is linked to a new parent of which no key is known. Either it is
linked first and what waits is submitted (`early`), or what waits is submitted first, and the child
is linked and submitted after that (`late`). All of it succeeds, by blocking or asynchronous calls,
and the parent gets the same keys in both ways.

In the late way a foreign key of the child ends up with the key of its last pair, as the column
keeps it, and a statement for the child stores that wherever it has a place for the column. In the
early way a child that did not wait for its write is not written, and the column is as it was. If it
did wait, the column ends up with what it held, with the first key that an earlier link has for it,
or else with the key of its first pair, as the parent holds it. A statement stores that if it has a
place for the column, and it is an insert or the column was edited or held nothing. -/
theorem linked_before_or_after (hchild : tracked.store.get? child = some entity)
    (haccepts : entity.state.acceptsEdits = true) (hparent : New tracked parent)
    (hunknown : ∀ pair ∈ relationship.keyPairs, tracked.store.present? parent pair.1 = none)
    {earlyCalls firstCalls lateCalls : List Exchange}
    (hearly :
      LinkSucceeds schema dialect options tracked child relationship parent earlyCalls early)
    (hfirst : Succeeds schema dialect options tracked firstCalls between)
    (hlate : LinkSucceeds schema dialect options between child relationship parent lateCalls late)
    (hkeys : ∀ pair ∈ relationship.keyPairs, ∃ key,
      early.store.present? parent pair.1 = some key ∧
        between.store.present? parent pair.1 = some key)
    {primary foreign : String} (hpair : (primary, foreign) ∈ relationship.keyPairs) :
    ∃ first last kept,
      Batch.keyFor between.store parent relationship.keyPairs foreign = some first ∧
      Batch.keyFor between.store parent relationship.keyPairs.reverse foreign = some last ∧
      entity.coerceFor foreign last = .ok kept ∧
      (late.store.present? child foreign = some kept ∧
        ∃ state count plan entries, Committed schema dialect options
            (between.linked child relationship parent) state lateCalls count late plan entries ∧
          ∃ entry ∈ entries, entry.step.entity = child ∧
            entry.StoresIf dialect entity.table foreign kept (entry.HasPlace foreign)) ∧
      ∃ state count plan entries, Committed schema dialect options
          (tracked.linked child relationship parent) state earlyCalls count early plan entries ∧
        (child ∉ tracked.pending.dirty tracked.store →
          early.store.present? child foreign = entity.present? foreign ∧
          ∀ entry ∈ entries, entry.step.entity ≠ child) ∧
        (child ∈ tracked.pending.dirty tracked.store →
          ∃ entry ∈ entries, entry.step.entity = child ∧
            early.store.present? child foreign
              = some ((entry.heldWith entity.links foreign).getD first) ∧
            entry.StoresIf dialect entity.table foreign
              ((entry.heldWith entity.links foreign).getD first)
              (entry.HasPlace foreign ∧ (entity.state = .created ∨
                foreign ∈ entity.state.modifiedColumns ∨ entity.present? foreign = none))) := by
  -- The parent has the same keys in both ways, so they have the same first key for the column.
  obtain ⟨key, hkey, hbetween⟩ := hkeys _ hpair
  obtain ⟨first, hfirstKey⟩ := Batch.key_for_of_mem hpair hbetween
  obtain ⟨last, hlastKey⟩ := Batch.key_for_of_mem (List.mem_reverse.2 hpair) hbetween
  have hsame : Batch.keyFor early.store parent relationship.keyPairs foreign = some first := by
    rw [← hfirstKey]
    refine Batch.key_for_congr_of_present (fun pair hmem => ?_) foreign
    obtain ⟨shared, hshared, hlater⟩ := hkeys pair hmem
    rw [hshared, hlater]
  obtain ⟨hne, hearlier⟩ := hearly.stored_of_unknown hchild haccepts hparent hunknown hsame
  obtain ⟨state, count, hsubmitted⟩ := hfirst.submitted
  obtain ⟨-, parentEntity, hget, -⟩ := hparent
  obtain ⟨child', hchild', hrow, -⟩ := hsubmitted.submits.kept child entity hchild
  obtain ⟨parent', hparent', -⟩ := hsubmitted.submits.kept parent parentEntity hget
  obtain ⟨kept, hkept, hlater⟩ := hlate.stored_of_known hchild' hparent' hne hlastKey
  rw [hrow.coerce_for] at hkept
  rw [hrow.table] at hlater
  exact ⟨first, last, kept, hfirstKey, hlastKey, hkept, hlater, hearlier⟩

/-- A new customer. -/
def newCustomer : Entity :=
  .fresh (Table.named "dbo" "Customers")
    (.ofColumns [(Column.plain "Id" .integer "int").primaryKey]) none

/-- An order that was loaded and has no customer. -/
def loadedOrder : Entity :=
  .materialized (Table.named "dbo" "Orders")
    (.ofColumns [(Column.plain "Id" .integer "int").primaryKey,
      Column.plain "CustomerId" .integer "int"]) none [("Id", .int 1)]

/-- The customer waits for its insert. -/
def customerBesideOrder : Tracked :=
  ⟨⟨#[newCustomer, loadedOrder]⟩, PendingSet.empty.mark ⟨0⟩⟩

/-- Orders refer to their customers. -/
def customerOfOrder : Relationship :=
  ⟨"FK_Orders", Table.named "dbo" "Customers", ["Id"], Table.named "dbo" "Orders", ["CustomerId"]⟩

/-- What a submission makes of the entities if the database assigns the key seven. -/
def submittedWithSeven (tracked : Tracked) : Tracked :=
  (applyPending WritePlan.unrelated (assigningSeven (.ok ())) .brackets default tracked ()).1.2

/-- A submission in which the database assigns the key seven succeeds if its outcome is good. -/
theorem succeeds_with_seven {tracked : Tracked} (count : Nat)
    (hcount : (applyPending WritePlan.unrelated (assigningSeven (.ok ())) .brackets default
      tracked ()).1.1 = .ok count) :
    Succeeds WritePlan.unrelated .brackets default tracked
      (exchanges WritePlan.unrelated (assigningSeven (.ok ())) .brackets default tracked ())
      (submittedWithSeven tracked) :=
  ⟨_, (), count, .inl ⟨Prod.ext hcount rfl, rfl⟩⟩

/-- Linked before its customer is inserted, the order is not written and has no customer. Linked
after that, it is updated with the key of the customer. -/
theorem loaded_order_unassigned :
    let early := submittedWithSeven (customerBesideOrder.linked ⟨1⟩ customerOfOrder ⟨0⟩)
    let between := submittedWithSeven customerBesideOrder
    let late := submittedWithSeven (between.linked ⟨1⟩ customerOfOrder ⟨0⟩)
    early.store.present? ⟨1⟩ "CustomerId" = none ∧
      late.store.present? ⟨1⟩ "CustomerId" = some (.int 7) := by
  intro early between late
  have hchild : customerBesideOrder.store.get? ⟨1⟩ = some loadedOrder := rfl
  have hparent : New customerBesideOrder ⟨0⟩ := ⟨by decide, newCustomer, rfl, rfl⟩
  have hunknown : ∀ pair ∈ customerOfOrder.keyPairs,
      customerBesideOrder.store.present? ⟨0⟩ pair.1 = none := by decide
  have hkeys : ∀ pair ∈ customerOfOrder.keyPairs,
      ∃ key, early.store.present? ⟨0⟩ pair.1 = some key ∧
        between.store.present? ⟨0⟩ pair.1 = some key := by
    intro pair hpair
    obtain rfl := List.mem_singleton.1 hpair
    exact ⟨.int 7, by decide +kernel, by decide +kernel⟩
  have hpair : ("Id", "CustomerId") ∈ customerOfOrder.keyPairs := by decide
  have hclean : (⟨1⟩ : EntityId) ∉ customerBesideOrder.pending.dirty customerBesideOrder.store := by
    decide
  have hcopied : Batch.keyFor between.store ⟨0⟩ customerOfOrder.keyPairs.reverse "CustomerId"
      = some (.int 7) := by decide +kernel
  have hearly : LinkSucceeds WritePlan.unrelated .brackets default customerBesideOrder ⟨1⟩
      customerOfOrder ⟨0⟩ _ early :=
    ⟨by decide +kernel, succeeds_with_seven 1 (by decide +kernel)⟩
  have hlater : LinkSucceeds WritePlan.unrelated .brackets default between ⟨1⟩
      customerOfOrder ⟨0⟩ _ late :=
    ⟨by decide +kernel, succeeds_with_seven 1 (by decide +kernel)⟩
  obtain ⟨first, last, kept, -, hlast, hkept, ⟨hlate, -⟩, _, _, _, _, -, hidle, -⟩ :=
    linked_before_or_after hchild rfl hparent hunknown hearly
      (succeeds_with_seven 1 (by decide +kernel)) hlater hkeys hpair
  obtain rfl := Option.some.inj (hcopied.symm.trans hlast)
  cases hkept
  exact ⟨(hidle hclean).1, hlate⟩

end Submission

end Orm
