import Orm.Proofs.Change.LinkOrder

/-!
# Links that fail

A link is made key by key, each by a write of its own, and nothing takes back what was written when
a later key cannot be stored. `copy_keys_of_stops` says that a link that stops at a key is the
copying of the keys before it, `Tracked.KeepsKeys` lists what that leaves, and
`failed_link_keeps_earlier_keys` says for every link whether it fails and what is left then.
-/

namespace Orm

/-- A relationship leads from the table of a child to the table of a parent. -/
def Relationship.Joins (relationship : Relationship) (child parent : Entity) : Prop :=
  relationship.foreignTable = child.table ∧ relationship.primaryTable = parent.table

/-- Edits leave a row that accepts edits so. -/
theorem EntityState.accepts_record_edits {state : EntityState} {columns : List String}
    (haccepts : state.acceptsEdits = true) :
    (state.recordEdits columns).acceptsEdits = true := by
  induction columns generalizing state with
  | nil => exact haccepts
  | cons column rest ih => exact ih (by cases state <;> first | rfl | cases haccepts)

/-- A value cannot be stored by an entity that accepts no edits, or if the column does not keep
it. -/
theorem Entity.write_some_eq_error_iff {entity : Entity} {column : String} {value : Value}
    {error : EntityError} :
    entity.write column (some value) = .error error ↔
      entity.state.acceptsEdits = true ∧ entity.coerceFor column value = .error error ∨
        entity.state.acceptsEdits = false ∧
          error = .invalidOperation entity.table column entity.state.label := by
  cases haccepts : entity.state.acceptsEdits with
  | true =>
      cases hkept : entity.coerceFor column value <;>
        simp [write, haccepts, hkept, Except.map, bind, Except.bind, pure, Except.pure]
  | false => simp [write, haccepts, eq_comm]

namespace EntityStore

variable {store : EntityStore} {child parent : EntityId} {entity parentEntity : Entity}
  {pairs before : List (String × String)} {error : EntityError} {relationship : Relationship}

/-! ## Where copying stops -/

/-- Copying the keys of some pairs stops with an error after those that stand before one of them:
they are copied, and the next key is known then and cannot be stored. -/
def StopsAfter (store : EntityStore) (child parent : EntityId)
    (pairs before : List (String × String)) (error : EntityError) : Prop :=
  (copyKeys child parent before store).outcome = .ok () ∧
    ∃ primary foreign after key, pairs = before ++ (primary, foreign) :: after ∧
      (copyKeys child parent before store).store.present? parent primary = some key ∧
      ((copyKeys child parent before store).store.write child foreign (some key)).outcome
        = .error error

/-- A write fails if there is an entity that cannot store the value. -/
theorem write_eq_error_iff {column : String} {value : Option Value} :
    (store.write child column value).outcome = .error error ↔
      ∃ entity, store.get? child = some entity ∧ entity.write column value = .error error := by
  cases hentity : store.get? child with
  | none => simp [write, hentity]
  | some entity => cases hwrite : entity.write column value <;> simp [write, hentity, hwrite]

/-- A write that fails changes nothing, and nobody is told of it. -/
theorem write_of_error {column : String} {value : Option Value}
    (h : (store.write child column value).outcome = .error error) :
    store.write child column value = ⟨store, [], .error error⟩ := by
  obtain ⟨entity, hentity, hwrite⟩ := write_eq_error_iff.1 h
  simp only [write, hentity, hwrite]

/-- A key in front that is not known is passed over. -/
theorem copy_keys_cons_of_unknown {primary foreign : String}
    (hkey : store.present? parent primary = none) :
    copyKeys child parent ((primary, foreign) :: pairs) store
      = copyKeys child parent pairs store := by
  rw [copyKeys, hkey]

/-- A known key in front is stored before the others are copied. -/
theorem copy_keys_cons_of_known {primary foreign : String} {key : Value}
    (hkey : store.present? parent primary = some key)
    (hwrite : (store.write child foreign (some key)).outcome = .ok ()) :
    copyKeys child parent ((primary, foreign) :: pairs) store
      = { copyKeys child parent pairs (store.write child foreign (some key)).store with
          notices := (store.write child foreign (some key)).notices ++
            (copyKeys child parent pairs
              (store.write child foreign (some key)).store).notices } := by
  rw [copyKeys, hkey]
  dsimp only
  rw [hwrite]

/-- A known key in front that cannot be stored ends the copying. -/
theorem copy_keys_cons_of_error {primary foreign : String} {key : Value}
    (hkey : store.present? parent primary = some key)
    (hwrite : (store.write child foreign (some key)).outcome = .error error) :
    copyKeys child parent ((primary, foreign) :: pairs) store = ⟨store, [], .error error⟩ := by
  rw [copyKeys, hkey]
  dsimp only
  rw [hwrite, write_of_error hwrite]

/-- If the pair in front has no known key, then copying stops after the same pairs as without it. -/
theorem stops_after_cons_of_unknown {primary foreign : String}
    (hkey : store.present? parent primary = none)
    (h : StopsAfter store child parent pairs before error) :
    StopsAfter store child parent ((primary, foreign) :: pairs) ((primary, foreign) :: before)
      error := by
  obtain ⟨hbefore, asked, written, after, key, rfl, hknown, hwrite⟩ := h
  rw [StopsAfter, copy_keys_cons_of_unknown hkey]
  exact ⟨hbefore, asked, written, after, key, rfl, hknown, hwrite⟩

/-- If the key of the pair in front can be stored, then copying stops after the same pairs as
without it, once it is stored. -/
theorem stops_after_cons_of_known {primary foreign : String} {key : Value}
    (hkey : store.present? parent primary = some key)
    (hwrite : (store.write child foreign (some key)).outcome = .ok ())
    (h : StopsAfter (store.write child foreign (some key)).store child parent pairs before error) :
    StopsAfter store child parent ((primary, foreign) :: pairs) ((primary, foreign) :: before)
      error := by
  obtain ⟨hbefore, asked, written, after, next, rfl, hknown, hrefused⟩ := h
  rw [StopsAfter, copy_keys_cons_of_known hkey hwrite]
  exact ⟨hbefore, asked, written, after, next, rfl, hknown, hrefused⟩

/-- Copying that fails stops at one of the pairs. -/
theorem stops_after_of_error (h : (copyKeys child parent pairs store).outcome = .error error) :
    ∃ before, StopsAfter store child parent pairs before error := by
  induction pairs generalizing store with
  | nil => cases h
  | cons pair rest ih =>
      obtain ⟨primary, foreign⟩ := pair
      cases hkey : store.present? parent primary with
      | none =>
          rw [copy_keys_cons_of_unknown hkey] at h
          obtain ⟨before, hstops⟩ := ih h
          exact ⟨_, stops_after_cons_of_unknown hkey hstops⟩
      | some key =>
          cases hwrite : (store.write child foreign (some key)).outcome with
          | error cause =>
              rw [copy_keys_cons_of_error hkey hwrite] at h
              cases h
              exact ⟨[], rfl, primary, foreign, rest, key, rfl, hkey, hwrite⟩
          | ok =>
              rw [copy_keys_cons_of_known hkey hwrite] at h
              obtain ⟨before, hstops⟩ := ih h
              exact ⟨_, stops_after_cons_of_known hkey hwrite hstops⟩

/-- Where copying stops, only the keys of the pairs before are copied. -/
theorem copy_keys_of_stops (h : StopsAfter store child parent pairs before error) :
    copyKeys child parent pairs store
      = { copyKeys child parent before store with outcome := .error error } := by
  obtain ⟨hbefore, primary, foreign, after, key, rfl, hkey, hwrite⟩ := h
  induction before generalizing store with
  | nil => exact copy_keys_cons_of_error hkey hwrite
  | cons pair rest ih =>
      obtain ⟨asked, written⟩ := pair
      rw [List.cons_append]
      cases hknown : store.present? parent asked with
      | none =>
          rw [copy_keys_cons_of_unknown hknown] at hbefore hkey hwrite ⊢
          rw [copy_keys_cons_of_unknown hknown, ih hbefore hkey hwrite]
      | some first =>
          cases hfirst : (store.write child written (some first)).outcome with
          | error cause =>
              rw [copy_keys_cons_of_error hknown hfirst] at hbefore
              cases hbefore
          | ok =>
              rw [copy_keys_cons_of_known hknown hfirst] at hbefore hkey hwrite ⊢
              rw [copy_keys_cons_of_known hknown hfirst, ih hbefore hkey hwrite]

/-! ## What a link does -/

/-- A link through a relationship of other tables fails at once. -/
theorem link_parent_of_not_joins (hchild : store.get? child = some entity)
    (hparent : store.get? parent = some parentEntity)
    (h : ¬ relationship.Joins entity parentEntity) :
    store.linkParent child relationship parent = ⟨store, [], .error
      (.relationshipMismatch relationship.name parentEntity.table entity.table)⟩ := by
  simp only [linkParent, hchild, hparent]
  rw [if_pos]
  by_contra hsame
  rw [not_or, not_not, not_not] at hsame
  exact h hsame

/-- A link through a relationship of the tables copies the known keys, and if that succeeds the link
is kept. -/
theorem link_parent_of_joins (hchild : store.get? child = some entity)
    (hparent : store.get? parent = some parentEntity) (h : relationship.Joins entity parentEntity) :
    (store.linkParent child relationship parent).outcome
        = (copyKeys child parent relationship.keyPairs store).outcome ∧
      ((copyKeys child parent relationship.keyPairs store).outcome ≠ .ok () →
        store.linkParent child relationship parent
          = copyKeys child parent relationship.keyPairs store) := by
  have hmatch : ¬ (relationship.foreignTable ≠ entity.table ∨
      relationship.primaryTable ≠ parentEntity.table) := by
    rw [not_or, not_not, not_not]
    exact h
  simp only [linkParent, hchild, hparent]
  rw [if_neg hmatch]
  cases hcopied : (copyKeys child parent relationship.keyPairs store).outcome with
  | error cause => exact ⟨hcopied, fun _ => rfl⟩
  | ok => exact ⟨rfl, fun hfails => absurd rfl hfails⟩

/-- A link fails if its relationship is one of other tables, or copying the keys stops at one of
them. -/
theorem link_parent_eq_error_iff (hchild : store.get? child = some entity)
    (hparent : store.get? parent = some parentEntity) :
    (store.linkParent child relationship parent).outcome = .error error ↔
      ¬ relationship.Joins entity parentEntity ∧
          error = .relationshipMismatch relationship.name parentEntity.table entity.table ∨
        relationship.Joins entity parentEntity ∧
          ∃ before, StopsAfter store child parent relationship.keyPairs before error := by
  by_cases hjoins : relationship.Joins entity parentEntity
  · rw [(link_parent_of_joins hchild hparent hjoins).1]
    simp only [hjoins, not_true_eq_false, false_and, true_and, false_or]
    refine ⟨stops_after_of_error, ?_⟩
    rintro ⟨before, hstops⟩
    rw [copy_keys_of_stops hstops]
  · rw [link_parent_of_not_joins hchild hparent hjoins]
    simp only [hjoins, not_false_eq_true, true_and, false_and, or_false, Except.error.injEq]
    exact eq_comm

/-- A child that accepts no edits refuses the first key that is known, and nothing is changed. -/
theorem copy_keys_of_refused (hchild : store.get? child = some entity)
    (hrefuses : entity.state.acceptsEdits = false) (parent : EntityId)
    (pairs : List (String × String)) :
    (copyKeys child parent pairs store).store = store ∧
      (copyKeys child parent pairs store).notices = [] ∧
      ((copyKeys child parent pairs store).outcome = .ok () ↔
        ∀ pair ∈ pairs, store.present? parent pair.1 = none) := by
  induction pairs with
  | nil => exact ⟨rfl, rfl, by simp [copyKeys]⟩
  | cons pair rest ih =>
      obtain ⟨primary, foreign⟩ := pair
      cases hkey : store.present? parent primary with
      | none =>
          rw [copy_keys_cons_of_unknown hkey]
          obtain ⟨hstore, hnotices, houtcome⟩ := ih
          exact ⟨hstore, hnotices, houtcome.trans (by simp [hkey])⟩
      | some key =>
          have hwrite : (store.write child foreign (some key)).outcome
              = .error (.invalidOperation entity.table foreign entity.state.label) := by
            simp [write, hchild, Entity.write, hrefuses]
          rw [copy_keys_cons_of_error hkey hwrite]
          exact ⟨rfl, rfl, by simp [hkey]⟩

/-- Copying the keys of some pairs that succeeds writes some columns of the child, none if no key is
known. -/
theorem copy_keys_writes (hchild : store.get? child = some entity)
    (hok : (copyKeys child parent pairs store).outcome = .ok ()) :
    ∃ columns copied, (copyKeys child parent pairs store).store.get? child = some copied ∧
      (copyKeys child parent pairs store).notices
        = columns.flatMap (fun column => [.track child, .changed child column]) ∧
      copied = { entity with
        values := copied.values
        state := entity.state.recordEdits columns } ∧
      (∀ column ∉ columns, copied.values.find? column = entity.values.find? column) ∧
      (columns ≠ [] → entity.state.acceptsEdits = true) ∧
      (columns = [] ↔ ∀ pair ∈ pairs, store.present? parent pair.1 = none) := by
  induction pairs generalizing store entity with
  | nil =>
      exact ⟨[], entity, hchild, rfl, rfl, fun _ _ => rfl, fun hsome => absurd rfl hsome, by simp⟩
  | cons pair rest ih =>
      obtain ⟨primary, foreign⟩ := pair
      cases hkey : store.present? parent primary with
      | none =>
          rw [copy_keys_cons_of_unknown hkey] at hok ⊢
          obtain ⟨columns, copied, hget, hnotices, hsame, hvalues, haccepts, hnone⟩ := ih hchild hok
          exact ⟨columns, copied, hget, hnotices, hsame, hvalues, haccepts,
            hnone.trans (by simp [hkey])⟩
      | some key =>
          cases hwrite : (store.write child foreign (some key)).outcome with
          | error cause =>
              rw [copy_keys_cons_of_error hkey hwrite] at hok
              cases hok
          | ok =>
              obtain ⟨haccepts, kept, edited, -, rfl, hstored⟩ := write_of_ok hchild hwrite
              rw [copy_keys_cons_of_known hkey hwrite] at hok ⊢
              have hedited : (store.write child foreign (some key)).store.get? child
                  = some { entity with
                      values := entity.values.insert foreign kept
                      state := entity.state.recordEdit foreign } := by
                rw [hstored, get_modify_self, hchild, Option.map_some]
              obtain ⟨columns, copied, hget, hnotices, hsame, hvalues, -, -⟩ := ih hedited hok
              refine ⟨foreign :: columns, copied, hget, ?_, hsame, fun column hcolumn => ?_,
                fun _ => haccepts, by simp [hkey]⟩
              · rw [hnotices, hstored]
                rfl
              · obtain ⟨hfirst, hothers⟩ := not_or.1 (List.mem_cons.not.1 hcolumn)
                rw [hvalues column hothers, NameMap.find?_insert, if_neg hfirst]

end EntityStore

namespace Tracked

variable {tracked : Tracked} {child parent : EntityId} {entity parentEntity : Entity}
  {relationship : Relationship} {before : List (String × String)} {error : EntityError}

/-- What is left where the known keys of some pairs were copied to a child and nothing else was
done: some columns of the child were written one by one, each of which is an edit of it. -/
structure KeepsKeys (tracked : Tracked) (child parent : EntityId) (pairs : List (String × String))
    (old : Entity) (columns : List String) (new : Entity) (left : Tracked) : Prop where
  others : ∀ other, other ≠ child → left.store.get? other = tracked.store.get? other ∧
    (other ∈ left.pending.ids ↔ other ∈ tracked.pending.ids)
  kept : left.store.get? child = some new
  entity : new = { old with values := new.values, state := old.state.recordEdits columns }
  values : ∀ column ∉ columns, new.values.find? column = old.values.find? column
  accepts : columns ≠ [] → old.state.acceptsEdits = true
  dirty : columns ≠ [] → new.state.isDirty = true
  waits : child ∈ left.pending.ids ↔ child ∈ tracked.pending.ids ∨ columns ≠ []
  unwritten : columns = [] ↔ ∀ pair ∈ pairs, tracked.store.present? parent pair.1 = none
  untouched : columns = [] → left = tracked
  copied : child ≠ parent → EntityStore.KeysCopied tracked.store parent pairs old new

/-- Copying the keys of some pairs that succeeds leaves them. -/
theorem keeps_keys_of_copied (hchild : tracked.store.get? child = some entity)
    (hok : (EntityStore.copyKeys child parent before tracked.store).outcome = .ok ()) :
    ∃ columns new, tracked.KeepsKeys child parent before entity columns new
      ⟨(EntityStore.copyKeys child parent before tracked.store).store,
        (EntityStore.copyKeys child parent before tracked.store).notices.foldl PendingSet.notice
          tracked.pending⟩ := by
  obtain ⟨columns, new, hget, hnotices, hnew, hvalues, haccepts, hnone⟩ :=
    EntityStore.copy_keys_writes hchild hok
  have hedits := EntityStore.copy_keys_edits_of child parent before tracked.store
  obtain ⟨after, -, hafter⟩ := hedits.edits entity hchild
  refine ⟨columns, new, {
    others := fun other hother =>
      ⟨hedits.others other hother, hafter.mem_pending_of_ne hother tracked.pending⟩
    kept := hget
    entity := hnew
    values := hvalues
    accepts := haccepts
    dirty := fun hsome => ?_
    waits := ?_
    unwritten := hnone
    untouched := fun hnothing => ?_
    copied := fun hne => ?_ }⟩
  · obtain ⟨column, hcolumn⟩ := List.exists_mem_of_ne_nil columns hsome
    rw [hnew]
    exact (EntityState.dirty_record_edits (haccepts hsome) hcolumn).1
  · rw [hnotices]
    refine ⟨fun hwaits => ?_, mem_pending_of_changed child⟩
    by_cases hsome : columns = []
    · subst hsome
      exact .inl hwaits
    · exact .inr hsome
  · rw [EntityStore.copy_keys_of_unknown (hnone.1 hnothing)]
    rfl
  · obtain ⟨-, copied, hcopied, hkeys⟩ := EntityStore.copy_keys_of_ok hchild hne hok
    obtain rfl := Option.some.inj (hget.symm.trans hcopied)
    exact hkeys

/-- A key that cannot be stored once others are copied could not be stored before. -/
theorem KeepsKeys.write_eq_error {columns : List String} {new : Entity} {left : Tracked}
    (h : tracked.KeepsKeys child parent before entity columns new left)
    (hchild : tracked.store.get? child = some entity) {column : String} {value : Value}
    (hwrite : new.write column (some value) = .error error) :
    entity.write column (some value) = .error error := by
  by_cases hnothing : columns = []
  · have hsame := h.kept
    rw [h.untouched hnothing, hchild] at hsame
    rwa [Option.some.inj hsame]
  · have hcoerce : new.coerceFor column value = entity.coerceFor column value := by
      rw [h.entity]
      rfl
    have haccepts : new.state.acceptsEdits = true := by
      rw [h.entity]
      exact EntityState.accepts_record_edits (h.accepts hnothing)
    rw [Entity.write_some_eq_error_iff, ← hcoerce]
    rcases Entity.write_some_eq_error_iff.1 hwrite with ⟨-, hcause⟩ | ⟨hrefuses, -⟩
    · exact .inl ⟨h.accepts hnothing, hcause⟩
    · rw [haccepts] at hrefuses
      cases hrefuses

/-- A link that stops at a key leaves the keys of the pairs before it, and no link. -/
theorem linked_of_stops (hchild : tracked.store.get? child = some entity)
    (hparent : tracked.store.get? parent = some parentEntity)
    (hjoins : relationship.Joins entity parentEntity)
    (hstops : EntityStore.StopsAfter tracked.store child parent relationship.keyPairs before
      error) :
    tracked.linked child relationship parent
      = ⟨(EntityStore.copyKeys child parent before tracked.store).store,
        (EntityStore.copyKeys child parent before tracked.store).notices.foldl PendingSet.notice
          tracked.pending⟩ := by
  have hcopied := EntityStore.copy_keys_of_stops hstops
  have hfails : (EntityStore.copyKeys child parent relationship.keyPairs tracked.store).outcome
      ≠ .ok () := by
    rw [hcopied]
    nofun
  obtain ⟨-, hlink⟩ := EntityStore.link_parent_of_joins hchild hparent hjoins
  rw [linked, hlink hfails, hcopied]

end Tracked

/-! ## All links -/

section

variable {tracked : Tracked} {child parent : EntityId} {entity parentEntity : Entity}
  {relationship : Relationship}

/-- A link of a child to a parent fails if the relationship is one of other tables, and then nothing
is changed, or if the key of some pair is known and cannot be stored.

In the second case what the keys of the pairs before it were written to stays so: each of these
columns was edited, the child has something to write, and it waits for that, all without the link.
Only if none of these keys is known everything is as it was.

A child that accepts no edits is linked nevertheless if no key of the parent is known. If one is,
then the link fails and nothing is changed. -/
theorem failed_link_keeps_earlier_keys (hchild : tracked.store.get? child = some entity)
    (hparent : tracked.store.get? parent = some parentEntity) :
    (∀ error, (tracked.store.linkParent child relationship parent).outcome = .error error ↔
      ¬ relationship.Joins entity parentEntity ∧
          error = .relationshipMismatch relationship.name parentEntity.table entity.table ∨
        relationship.Joins entity parentEntity ∧ ∃ before,
          EntityStore.StopsAfter tracked.store child parent relationship.keyPairs before error) ∧
    (¬ relationship.Joins entity parentEntity →
      tracked.linked child relationship parent = tracked) ∧
    (relationship.Joins entity parentEntity → ∀ before error,
      EntityStore.StopsAfter tracked.store child parent relationship.keyPairs before error →
        (∃ columns new, tracked.KeepsKeys child parent before entity columns new
          (tracked.linked child relationship parent)) ∧
        (child ≠ parent → ∃ primary foreign after key,
          relationship.keyPairs = before ++ (primary, foreign) :: after ∧
            tracked.store.present? parent primary = some key ∧
            entity.write foreign (some key) = .error error)) ∧
    (relationship.Joins entity parentEntity → entity.state.acceptsEdits = false →
      ((∃ error, (tracked.store.linkParent child relationship parent).outcome = .error error) ↔
        ∃ pair ∈ relationship.keyPairs, tracked.store.present? parent pair.1 ≠ none) ∧
      ((∃ error, (tracked.store.linkParent child relationship parent).outcome = .error error) →
        tracked.linked child relationship parent = tracked) ∧
      ((tracked.store.linkParent child relationship parent).outcome = .ok () →
        tracked.linked child relationship parent
          = { tracked with store := tracked.store.modify child fun entity =>
                { entity with links := entity.links ++ [⟨relationship, parent⟩] } })) := by
  refine ⟨fun error => EntityStore.link_parent_eq_error_iff hchild hparent, fun hother => ?_,
    fun hjoins before error hstops => ⟨?_, fun hne => ?_⟩, fun hjoins hrefuses => ?_⟩
  · rw [Tracked.linked, EntityStore.link_parent_of_not_joins hchild hparent hother]
    rfl
  · rw [Tracked.linked_of_stops hchild hparent hjoins hstops]
    exact Tracked.keeps_keys_of_copied hchild hstops.1
  · obtain ⟨columns, new, hkeeps⟩ := Tracked.keeps_keys_of_copied hchild hstops.1
    obtain ⟨-, primary, foreign, after, key, hpairs, hkey, hwrite⟩ := hstops
    obtain ⟨copied, hcopied, hrefused⟩ := EntityStore.write_eq_error_iff.1 hwrite
    obtain rfl := Option.some.inj (hkeeps.kept.symm.trans hcopied)
    rw [EntityStore.present?, (hkeeps.others parent hne.symm).1] at hkey
    exact ⟨primary, foreign, after, key, hpairs, hkey, hkeeps.write_eq_error hchild hrefused⟩
  · obtain ⟨hstore, hnotices, houtcome⟩ :=
      EntityStore.copy_keys_of_refused hchild hrefuses parent relationship.keyPairs
    obtain ⟨hsame, hlink⟩ := EntityStore.link_parent_of_joins hchild hparent hjoins
    refine ⟨?_, ?_, ?_⟩
    · rw [hsame]
      constructor
      · rintro ⟨error, herror⟩
        by_contra hnone
        simp only [not_exists, not_and, not_not] at hnone
        cases herror.symm.trans (houtcome.2 hnone)
      · rintro ⟨pair, hpair, hknown⟩
        cases hcopied : (EntityStore.copyKeys child parent relationship.keyPairs
          tracked.store).outcome with
        | ok => exact absurd (houtcome.1 hcopied pair hpair) hknown
        | error error => exact ⟨error, rfl⟩
    · rintro ⟨error, herror⟩
      rw [hsame] at herror
      have hfails : (EntityStore.copyKeys child parent relationship.keyPairs
          tracked.store).outcome ≠ .ok () := fun hok => by cases herror.symm.trans hok
      rw [Tracked.linked, hlink hfails, hstore, hnotices]
      rfl
    · intro hok
      exact Tracked.linked_of_unknown hchild hparent hok (houtcome.1 (hsame.symm.trans hok))

/-- An order with a key of two columns, of which the second one is a text. -/
def codedOrder : Entity :=
  .materialized (Table.named "dbo" "Orders")
    (.ofColumns [(Column.plain "Id" .integer "int").primaryKey,
      (Column.plain "Code" .text "nvarchar").primaryKey]) none [("Id", .int 1), ("Code", .text "A")]

/-- A line of order three, in which both columns of the key are numbers. -/
def loadedLine : Entity :=
  .materialized (Table.named "dbo" "Lines")
    (.ofColumns [(Column.plain "Id" .integer "int").primaryKey,
      Column.plain "OrderId" .integer "int", Column.plain "OrderCode" .integer "int"]) none
    [("Id", .int 7), ("OrderId", .int 3), ("OrderCode", .int 4)]

/-- Nothing waits to be written. -/
def lineBesideOrder : Tracked := ⟨⟨#[codedOrder, loadedLine]⟩, .empty⟩

/-- Lines refer to their orders. -/
def codedOrderOfLine : Relationship :=
  ⟨"FK_Lines", Table.named "dbo" "Orders", ["Id", "Code"], Table.named "dbo" "Lines",
    ["OrderId", "OrderCode"]⟩

/-- The line cannot be linked to the order, but waits to be moved to it in the column that could be
written. -/
theorem line_keeps_order_id :
    let after := lineBesideOrder.linked ⟨1⟩ codedOrderOfLine ⟨0⟩
    (∃ error, (lineBesideOrder.store.linkParent ⟨1⟩ codedOrderOfLine ⟨0⟩).outcome = .error error) ∧
      ⟨1⟩ ∉ lineBesideOrder.pending.ids ∧ ⟨1⟩ ∈ after.pending.ids ∧
      ∃ left, after.store.get? ⟨1⟩ = some left ∧ left.links = [] ∧
        left.values.find? "OrderId" = some (.int 1) ∧ left.state = .modified ["OrderId"] := by
  intro after
  have hchild : lineBesideOrder.store.get? ⟨1⟩ = some loadedLine := rfl
  have hparent : lineBesideOrder.store.get? ⟨0⟩ = some codedOrder := rfl
  have hjoins : codedOrderOfLine.Joins loadedLine codedOrder := ⟨rfl, rfl⟩
  have hstops : EntityStore.StopsAfter lineBesideOrder.store ⟨1⟩ ⟨0⟩ codedOrderOfLine.keyPairs
      [("Id", "OrderId")]
      (.coercion (Table.named "dbo" "Lines") "OrderCode" (.unreadable "A" "int")) :=
    ⟨by decide +kernel, "Code", "OrderCode", [], .text "A", rfl, by decide +kernel,
      by decide +kernel⟩
  obtain ⟨hfails, -, hleaves, -⟩ := failed_link_keeps_earlier_keys hchild hparent
  obtain ⟨⟨columns, left, hkeeps⟩, -⟩ := hleaves hjoins _ _ hstops
  have hcopied := hkeeps.copied (by decide)
  have hknown : lineBesideOrder.store.knownColumns ⟨0⟩ [("Id", "OrderId")] = ["OrderId"] := by
    decide +kernel
  obtain ⟨kept, hkept, hvalue⟩ := hcopied.keys "OrderId" (.int 1) (by decide +kernel)
  cases hkept
  have hwritten : columns ≠ [] := fun hnothing =>
    absurd (hkeeps.unwritten.1 hnothing ("Id", "OrderId") List.mem_cons_self) (by decide +kernel)
  refine ⟨⟨_, (hfails _).2 (.inr ⟨hjoins, _, hstops⟩)⟩, by decide, hkeeps.waits.2 (.inr hwritten),
    left, hkeeps.kept, ?_, hvalue, ?_⟩
  · rw [hkeeps.entity]
    rfl
  · rw [hcopied.state, hknown]
    rfl

end

end Orm
