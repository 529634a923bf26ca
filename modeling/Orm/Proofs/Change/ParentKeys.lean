import Mathlib.Logic.Relation
import Orm.Proofs.Change.Flight
import Orm.Proofs.Change.Transaction
import Orm.Sql.Brackets

/-!
# Keys of parents reach their children

A new row that is linked to another new row is inserted after it, and takes over its key.
`present_resolve_links` says what filling makes of a column: the value that it had, or the first key
that a link has for it.
-/

namespace Orm

namespace Batch

/-! ## What a column holds after filling -/

/-- The value of a key of a parent, as the pairs of a relationship give it to a column. -/
def keyFor (store : EntityStore) (parent : EntityId) (pairs : List (String × String))
    (column : String) : Option Value :=
  pairs.findSome? fun pair => if pair.2 = column then store.present? parent pair.1 else none

/-- The first pair for a column counts. -/
theorem key_for_cons (store : EntityStore) (parent : EntityId) (primary foreign : String)
    (rest : List (String × String)) (column : String) :
    keyFor store parent ((primary, foreign) :: rest) column
      = (if foreign = column then store.present? parent primary else none).or
          (keyFor store parent rest column) := by
  rw [keyFor, List.findSome?_cons]
  cases if foreign = column then store.present? parent primary else none <;> rfl

/-- What is given to a column depends on the parent only. -/
theorem key_for_congr {first second : EntityStore} {parent : EntityId}
    (h : first.get? parent = second.get? parent) (pairs : List (String × String))
    (column : String) : keyFor first parent pairs column = keyFor second parent pairs column := by
  simp only [keyFor, EntityStore.present?, h]

/-- A fill gives a column its value if it had none, and leaves the other columns. -/
theorem present_fill {store : EntityStore} {id : EntityId} {entity : Entity}
    (hentity : store.get? id = some entity) (batch : Batch) (column asked : String)
    (value : Value) :
    (batch.fill store id column value).2.2.present? id asked
      = (store.present? id asked).or
        (if column = asked ∧ value.isNull = false then some value else none) := by
  rcases fill_cases batch store id column value with
    ⟨found, hfound, hvalue, habsent, hfill⟩ | ⟨hfill, hkept⟩
  · obtain rfl := Option.some.inj (hentity.symm.trans hfound)
    rw [hfill, EntityStore.present?, EntityStore.present?, EntityStore.get_modify_self, hentity,
      Option.map_some, Option.bind_some, Option.bind_some, Entity.present_store _ _ _ hvalue]
    by_cases hsame : column = asked
    · subst hsame
      simp [hvalue, habsent]
    · simp [hsame, Ne.symm hsame]
  · have hsaved : ¬ (column = asked ∧ value.isNull = false) ∨
        (store.present? id asked).isSome = true := by
      rcases hkept entity hentity with hnull | hpresent
      · exact .inl fun h => by simp [hnull] at h
      · by_cases hsame : column = asked
        · subst hsame
          right
          rwa [EntityStore.present?, hentity, Option.bind_some]
        · exact .inl fun h => hsame h.1
    rw [hfill]
    rcases hsaved with hnone | hsome
    · rw [if_neg hnone, Option.or_none]
    · rw [Option.or_of_isSome hsome]

/-- Copying the keys of a parent gives a column without a value the first key for it. -/
theorem present_fill_keys {store : EntityStore} {id parent : EntityId} {entity : Entity}
    (hentity : store.get? id = some entity) (hne : id ≠ parent) (pairs : List (String × String))
    (batch : Batch) (column : String) :
    (fillKeys id parent pairs batch store).2.2.present? id column
      = (store.present? id column).or (keyFor store parent pairs column) := by
  induction pairs generalizing batch store entity with
  | nil => exact Option.or_none.symm
  | cons pair rest ih =>
      obtain ⟨primary, foreign⟩ := pair
      have hprimary := store.present_eq_filter parent primary
      rw [fillKeys, key_for_cons]
      cases hvalue : (store.get? parent).bind fun entity => entity.values.find? primary with
      | none =>
          rw [hvalue, Option.filter_none] at hprimary
          rw [hprimary, ite_self, Option.none_or]
          exact ih hentity batch
      | some value =>
          have hfills := fill_fills batch store id foreign value
          obtain ⟨values, hfilled, -⟩ := hfills.get_self hentity
          rw [hvalue] at hprimary
          have hgiven : (if foreign = column then store.present? parent primary else none)
              = if foreign = column ∧ value.isNull = false then some value else none := by
            rw [hprimary]
            by_cases hsame : foreign = column
            · cases hnull : value.isNull <;> simp [hsame, hnull, Option.filter_some]
            · simp [hsame]
          -- The first pair is filled by now, and the parent is the same for the other pairs.
          rw [hgiven, ← Option.or_assoc, ← present_fill hentity batch foreign column value,
            ← key_for_congr (hfills.get_of_ne hne) rest column]
          exact ih hfilled _

/-- What the links of an entity give to a column: the first key for it. -/
def linkedKeyFor (store : EntityStore) (links : List ParentLink) (column : String) :
    Option Value :=
  links.findSome? fun link => keyFor store link.parent link.relationship.keyPairs column

/-- The first link with a key for a column counts. -/
theorem linked_key_for_cons (store : EntityStore) (link : ParentLink) (rest : List ParentLink)
    (column : String) :
    linkedKeyFor store (link :: rest) column
      = (keyFor store link.parent link.relationship.keyPairs column).or
          (linkedKeyFor store rest column) := by
  rw [linkedKeyFor, List.findSome?_cons]
  cases keyFor store link.parent link.relationship.keyPairs column <;> rfl

/-- What links give to a column depends on the parents only. -/
theorem linked_key_for_congr {first second : EntityStore} {links : List ParentLink}
    (h : ∀ link ∈ links, first.get? link.parent = second.get? link.parent) (column : String) :
    linkedKeyFor first links column = linkedKeyFor second links column := by
  induction links with
  | nil => rfl
  | cons link rest ih =>
      rw [linked_key_for_cons, linked_key_for_cons, key_for_congr (h link List.mem_cons_self),
        ih fun other hother => h other (List.mem_cons_of_mem _ hother)]

/-- Copying the keys of all parents gives a column without a value the first key for it. -/
theorem present_resolve_links {store : EntityStore} {id : EntityId} {entity : Entity}
    (hentity : store.get? id = some entity) {links : List ParentLink}
    (hself : ∀ link ∈ links, link.parent ≠ id) (batch : Batch) (column : String) :
    (resolveLinks id links batch store).2.2.present? id column
      = (store.present? id column).or (linkedKeyFor store links column) := by
  induction links generalizing batch store entity with
  | nil => exact Option.or_none.symm
  | cons link rest ih =>
      have hne := Ne.symm (hself link List.mem_cons_self)
      have hrest : ∀ other ∈ rest, other.parent ≠ id := fun other hother =>
        hself other (List.mem_cons_of_mem _ hother)
      have hfills := fill_keys_fills id link.parent link.relationship.keyPairs batch store
      obtain ⟨values, hfilled, -⟩ := hfills.get_self hentity
      have hsame := linked_key_for_congr
        (fun other hother => hfills.get_of_ne (Ne.symm (hrest other hother))) column
      rw [resolveLinks, ih hfilled hrest, hsame, linked_key_for_cons, ← Option.or_assoc,
        ← present_fill_keys hentity hne]

/-- A key of a parent is the only one that some links have for a column. -/
structure SoleSource (links : List ParentLink) (parent : EntityId) (primary foreign : String) :
    Prop where
  given : ∃ link ∈ links, link.parent = parent ∧ (primary, foreign) ∈ link.relationship.keyPairs
  only : ∀ link ∈ links, ∀ pair ∈ link.relationship.keyPairs, pair.2 = foreign →
    link.parent = parent ∧ pair.1 = primary

/-- Links give a column the value of the only key that they have for it. -/
theorem linked_key_for_of_sole {links : List ParentLink} {parent : EntityId}
    {primary foreign : String} (h : SoleSource links parent primary foreign)
    (store : EntityStore) :
    linkedKeyFor store links foreign = store.present? parent primary := by
  cases hkey : linkedKeyFor store links foreign with
  | none =>
      obtain ⟨link, hlink, rfl, hpair⟩ := h.given
      have hnone := List.findSome?_eq_none_iff.1 hkey link hlink
      have hpresent := List.findSome?_eq_none_iff.1 hnone (primary, foreign) hpair
      rw [if_pos rfl] at hpresent
      exact hpresent.symm
  | some value =>
      obtain ⟨link, hlink, hvalue⟩ := List.exists_of_findSome?_eq_some hkey
      obtain ⟨pair, hpair, hvalue⟩ := List.exists_of_findSome?_eq_some hvalue
      by_cases hforeign : pair.2 = foreign
      · obtain ⟨rfl, rfl⟩ := h.only link hlink pair hpair hforeign
        rw [if_pos hforeign] at hvalue
        exact hvalue.symm
      · rw [if_neg hforeign] at hvalue
        cases hvalue

end Batch

namespace Submission

/-! ## Parents before children -/

variable {σ : Type} {schema : SchemaSource σ} {dialect : Dialect} {tracked : Tracked} {state : σ}
  {plan : WritePlan} {entries : List Entry}

/-- An entity is new and waits for its insert. -/
def New (tracked : Tracked) (id : EntityId) : Prop :=
  id ∈ tracked.pending.ids ∧ ∃ entity, tracked.store.get? id = some entity ∧
    entity.state = .created

/-- A new entity is the parent of another new one by a link. -/
def NewLink (tracked : Tracked) (parent child : EntityId) : Prop :=
  New tracked parent ∧ New tracked child ∧ WritePlan.Linked tracked.store child parent

/-- Of two members of a list the one with the smaller index comes first. -/
theorem pair_sublist_of_idx_of_lt {ids : List EntityId} {first second : EntityId}
    (hsecond : second ∈ ids) (h : ids.idxOf first < ids.idxOf second) :
    [first, second].Sublist ids := by
  induction ids with
  | nil => cases hsecond
  | cons head rest ih =>
      by_cases hfirst : head = first
      · subst hfirst
        have hne : second ≠ head := by
          rintro rfl
          exact Nat.lt_irrefl _ h
        exact .cons_cons head
          (List.singleton_sublist.2 ((List.mem_cons.1 hsecond).resolve_left hne))
      · by_cases hsame : head = second
        · subst hsame
          rw [List.idxOf_cons_self] at h
          exact absurd h (Nat.not_lt_zero _)
        · rw [List.idxOf_cons_ne _ hfirst, List.idxOf_cons_ne _ hsame] at h
          exact .cons head (ih ((List.mem_cons.1 hsecond).resolve_left (Ne.symm hsame))
            (Nat.lt_of_succ_lt_succ h))

/-- The new entities are those that a plan inserts. -/
theorem mem_created_iff {id : EntityId} :
    id ∈ WritePlan.inState tracked.store WritePlan.needsInsert
        (tracked.pending.dirty tracked.store) ↔ New tracked id := by
  rw [WritePlan.mem_in_state, PendingSet.mem_dirty_iff]
  constructor
  · rintro ⟨⟨hpending, -⟩, entity, hentity, hcreated⟩
    refine ⟨hpending, entity, hentity, ?_⟩
    cases hstate : entity.state <;> simp [hstate, WritePlan.needsInsert] at hcreated
    rfl
  · rintro ⟨hpending, entity, hentity, hcreated⟩
    exact ⟨⟨hpending, entity, hentity, by rw [hcreated]; rfl⟩, entity, hentity,
      by rw [hcreated]; rfl⟩

/-- Along links among new entities the inserts of a plan have parents before children. -/
theorem inserts_of_new_links {writes : List (WritePlan.Step × ColumnMap)}
    (h : Planned schema tracked state plan writes) {parent child : EntityId}
    (hlinks : Relation.TransGen (NewLink tracked) parent child) :
    [parent, child].Sublist plan.inserts := by
  obtain ⟨hinserts, hself, -, -⟩ := WritePlan.arranges_of_build
    (tracked.pending.nodup_dirty tracked.store) (Prod.ext h.build rfl)
  have hlink : ∀ {first second}, NewLink tracked first second →
      second ∈ plan.inserts ∧ plan.inserts.idxOf first < plan.inserts.idxOf second := by
    rintro first second ⟨hfirst, hsecond, hlinked⟩
    rw [← mem_created_iff] at hfirst hsecond
    refine ⟨hinserts.perm.mem_iff.2 hsecond,
      hinserts.earlier first hfirst second hsecond ⟨?_, .inl hlinked⟩⟩
    rintro rfl
    exact hself first hfirst hlinked
  -- The place among the inserts grows along every link, so it grows along a chain of links.
  have hchain : child ∈ plan.inserts ∧ plan.inserts.idxOf parent < plan.inserts.idxOf child := by
    induction hlinks with
    | single hfirst => exact hlink hfirst
    | tail _ hlast ih => exact ⟨(hlink hlast).1, Nat.lt_trans ih.2 (hlink hlast).2⟩
  exact pair_sublist_of_idx_of_lt hchain.1 hchain.2

/-- Two steps of a plan have their entries in the same order. -/
theorem entries_of_steps (hplanned : Planned schema tracked state plan (entries.map Entry.write))
    {first second : WritePlan.Step} (h : [first, second].Sublist plan.steps) :
    ∃ earlier later, [earlier, later].Sublist entries ∧ earlier.step = first ∧
      later.step = second := by
  have hsteps : [first, second].Sublist (entries.map Entry.step) := by
    have hplan := hplanned.steps
    rw [List.map_map] at hplan
    show List.Sublist _ (entries.map (Prod.fst ∘ Entry.write))
    rwa [hplan]
  obtain ⟨pair, hpair, hsame⟩ := List.sublist_map_iff.1 hsteps
  obtain ⟨earlier, others, rfl, hearlier, hothers⟩ := List.map_eq_cons_iff.1 hsame.symm
  obtain ⟨later, rest, rfl, hlater, hrest⟩ := List.map_eq_cons_iff.1 hothers
  obtain rfl := List.map_eq_nil_iff.1 hrest
  exact ⟨earlier, later, hpair, hearlier, hlater⟩

/-- Two inserts of a plan have their entries in the same order. -/
theorem entries_of_inserts (hplanned : Planned schema tracked state plan (entries.map Entry.write))
    {first second : EntityId} (h : [first, second].Sublist plan.inserts) :
    ∃ earlier later, [earlier, later].Sublist entries ∧ earlier.step = ⟨.insert, first⟩ ∧
      later.step = ⟨.insert, second⟩ := by
  refine entries_of_steps hplanned ((h.map (WritePlan.Step.mk .insert)).trans ?_)
  rw [WritePlan.steps, List.append_assoc]
  exact List.sublist_append_left _ _

/-! ## Keys in the inserts of children -/

/-- The insert of an entry is that of its entity with the keys of its parents filled in. -/
theorem Entry.Valid.insert_answer {entry : Entry} (h : entry.Valid dialect)
    (hinsert : entry.step.operation = .insert) {entity : Entity}
    (hentity : entry.before.store.get? entry.step.entity = some entity) :
    ∃ statement result values, entry.answer = some (statement, result) ∧
      WriteStatement.insert dialect { entity with values := values } entry.columns
        = .ok statement ∧
      (Batch.resolveLinks entry.step.entity entity.links entry.before.batch
        entry.before.store).2.2.get? entry.step.entity = some { entity with values := values } := by
  obtain ⟨rendered, hrender, -⟩ := h
  obtain ⟨filled, values, hvalues, hstatement, -, -, hresolved⟩ := Batch.render_of_get
    entry.before.batch dialect entry.columns hentity
  have hresolved := congrArg Prod.snd (hresolved (by rw [hinsert]; exact nofun))
  dsimp only at hresolved
  rw [hresolved] at hvalues
  rw [hrender, hinsert, Batch.statementFor] at hstatement
  obtain ⟨statement, hstatement, hsome⟩ := Action.map_eq_ok_iff.1 hstatement.symm
  obtain ⟨⟨_, result⟩, hanswer, rfl⟩ := Option.map_eq_some_iff.1 hsome.symm
  exact ⟨_, result, values, hanswer, hstatement, hvalues⟩

/-- A new child whose insert comes later than that of its parent binds the key of the parent, as it
is after the parent's insert, to the column that the key is for. -/
theorem binds_of_sole_source
    (hplanned : Planned schema tracked state plan (entries.map Entry.write)) {last : Progress}
    (hledger : Ledger dialect ⟨.empty, tracked.store⟩ entries last) {earlier later : Entry}
    (hsublist : [earlier, later].Sublist entries) (hinsert : later.step.operation = .insert)
    {entity : Entity} (hentity : tracked.store.get? later.step.entity = some entity)
    (hself : ∀ link ∈ entity.links, link.parent ≠ later.step.entity) {primary foreign : String}
    (hsole : Batch.SoleSource entity.links earlier.step.entity primary foreign)
    (habsent : entity.present? foreign = none)
    (hcolumn : later.columns.isEmpty = true ∨ later.columns.contains foreign = true)
    {value : Value}
    (hvalue : earlier.after.store.present? earlier.step.entity primary = some value) :
    ∃ statement result, later.answer = some (statement, result) ∧
      statement.Binds dialect entity.table foreign value := by
  have hnodup := nodup_of_planned hplanned
  have hlater : later ∈ entries := hsublist.subset (by simp)
  have hbefore := (get_before_of_entry hplanned hledger hlater).trans hentity
  obtain ⟨statement, result, values, hanswer, hstatement, hresolved⟩ :=
    (hledger.valid_of_mem hlater).insert_answer hinsert hbefore
  refine ⟨statement, result, hanswer, ?_⟩
  -- Since its own insert the parent was not written, so the child finds the same key.
  have hkey : later.before.store.present? earlier.step.entity primary = some value := by
    rw [EntityStore.present?, hledger.get_between hnodup hsublist]
    exact hvalue
  have hfilled := Batch.present_resolve_links hbefore hself later.before.batch foreign
  rw [Batch.linked_key_for_of_sole hsole, hkey, EntityStore.present?, hresolved,
    EntityStore.present?, hbefore, Option.bind_some, Option.bind_some, habsent,
    Option.none_or] at hfilled
  exact WriteStatement.insert_binds hstatement
    (WriteStatement.mem_inserted_values.2 ⟨hfilled, hcolumn⟩)

/-- The inserts of two entities are calls of a submission, one before the other. -/
def IssuedInOrder (dialect : Dialect) (calls : List Exchange) (entries : List Entry)
    (parent child : EntityId) (earlier later : Entry) : Prop :=
  [earlier, later].Sublist entries ∧ earlier.step = ⟨.insert, parent⟩ ∧
    later.step = ⟨.insert, child⟩ ∧ ∃ first second, earlier.exchange? dialect = some first ∧
      later.exchange? dialect = some second ∧ [first, second].Sublist calls

/-- The inserts of new parents are issued before those of their children, along chains of links of
any length. The insert of a child binds a column that only one key of its parents is for, if the
column held nothing, to the value that this key has after the parent's insert. -/
structure ParentsFirst (dialect : Dialect) (tracked : Tracked) (calls : List Exchange)
    (entries : List Entry) : Prop where
  issued : ∀ parent child, Relation.TransGen (NewLink tracked) parent child →
    ∃ earlier later, IssuedInOrder dialect calls entries parent child earlier later
  bound : ∀ parent child, NewLink tracked parent child →
    ∃ earlier later, IssuedInOrder dialect calls entries parent child earlier later ∧
      ∀ entity primary foreign value, tracked.store.get? child = some entity →
        Batch.SoleSource entity.links parent primary foreign →
        entity.present? foreign = none →
        later.columns.isEmpty = true ∨ later.columns.contains foreign = true →
        earlier.after.store.present? parent primary = some value →
        ∃ statement result, later.answer = some (statement, result) ∧
          statement.Binds dialect entity.table foreign value

/-- What a column holds after the write of its entity is what it holds after the commit. -/
theorem Committed.present_eq {options : TransactionOptions} {calls : List Exchange} {count : Nat}
    {after : Tracked}
    (h : Committed schema dialect options tracked state calls count after plan entries)
    {entry : Entry} (hentry : entry ∈ entries) (column : String) :
    after.store.present? entry.step.entity column
      = entry.after.store.present? entry.step.entity column := by
  rw [EntityStore.present?, EntityStore.present?, h.settled entry hentry]
  cases entry.after.store.get? entry.step.entity with
  | none => rfl
  | some entity => cases entry.step.operation <;> rfl

section ParentsFirst

variable {options : TransactionOptions} {calls : List Exchange} {count : Nat} {after : Tracked}

/-- The insert of a new entity has a call. -/
theorem exchange_of_insert
    (hplanned : Planned schema tracked state plan (entries.map Entry.write)) {last : Progress}
    (hledger : Ledger dialect ⟨.empty, tracked.store⟩ entries last) {entry : Entry}
    (hentry : entry ∈ entries) (hinsert : entry.step.operation = .insert) :
    ∃ call, entry.exchange? dialect = some call := by
  have hanswer : entry.answer ≠ none := by
    intro hnone
    have hnothing := (answer_eq_none_iff_of_planned hplanned hledger hentry).1 hnone
    cases hinsert.symm.trans hnothing.1
  obtain ⟨answer, hanswer⟩ := Option.ne_none_iff_exists'.1 hanswer
  exact ⟨_, by rw [Entry.exchange?, hanswer, Option.map_some]⟩

/-- Along links among new entities a committed submission issues parents before children. -/
theorem Committed.issued
    (h : Committed schema dialect options tracked state calls count after plan entries)
    {parent child : EntityId} (hlinks : Relation.TransGen (NewLink tracked) parent child) :
    ∃ earlier later, IssuedInOrder dialect calls entries parent child earlier later := by
  obtain ⟨last, hledger⟩ := h.ledger
  obtain ⟨earlier, later, hsublist, hearlier, hlater⟩ :=
    entries_of_inserts h.planned (inserts_of_new_links h.planned hlinks)
  obtain ⟨first, hfirst⟩ := exchange_of_insert h.planned hledger
    (hsublist.subset (by simp)) (congrArg WritePlan.Step.operation hearlier)
  obtain ⟨second, hsecond⟩ := exchange_of_insert h.planned hledger
    (hsublist.subset (by simp)) (congrArg WritePlan.Step.operation hlater)
  refine ⟨earlier, later, hsublist, hearlier, hlater, first, second, hfirst, hsecond, ?_⟩
  have hcalls := hsublist.filterMap (Entry.exchange? dialect)
  rw [List.filterMap_cons_some hfirst, List.filterMap_cons_some hsecond, List.filterMap_nil]
    at hcalls
  rw [h.calls_eq]
  exact (hcalls.trans (List.sublist_cons_self _ _)).trans (List.sublist_append_left _ _)

/-- A committed submission puts parents first. -/
theorem Committed.parents_first
    (h : Committed schema dialect options tracked state calls count after plan entries) :
    ParentsFirst dialect tracked calls entries where
  issued := fun parent child hlinks => h.issued hlinks
  bound := by
    intro parent child hlink
    obtain ⟨last, hledger⟩ := h.ledger
    obtain ⟨earlier, later, hissued⟩ := h.issued (.single hlink)
    refine ⟨earlier, later, hissued, ?_⟩
    obtain ⟨hsublist, hearlier, hlater, -⟩ := hissued
    intro entity primary foreign value hentity hsole habsent hcolumn hvalue
    obtain ⟨-, hself, -, -⟩ := WritePlan.arranges_of_build
      (tracked.pending.nodup_dirty tracked.store) (Prod.ext h.planned.build rfl)
    obtain rfl : earlier.step.entity = parent := congrArg WritePlan.Step.entity hearlier
    obtain rfl : later.step.entity = child := congrArg WritePlan.Step.entity hlater
    refine binds_of_sole_source h.planned hledger hsublist
      (congrArg WritePlan.Step.operation hlater) hentity (fun link hmem hsame => ?_) hsole habsent
      hcolumn hvalue
    exact hself later.step.entity (mem_created_iff.2 hlink.2.1) ⟨entity, hentity, link, hmem, hsame⟩

end ParentsFirst

/-- A submission that commits, blocking or asynchronous, inserts new parents before their children
and hands their keys on: a column of a child that only one key is for is bound to that key. -/
theorem inserts_bind_parent_keys (schema : SchemaSource σ) (connection : Connection σ)
    (dialect : Dialect) (options : TransactionOptions) (tracked : Tracked) (state : σ) :
    let run := applyPending schema connection dialect options tracked state
    let calls := exchanges schema connection dialect options tracked state
    let asyncRun := applyPendingAsync schema connection dialect options tracked state
    let asyncCalls := asyncExchanges schema connection dialect options tracked state
    (∀ count, run.1.1 = .ok count → tracked.pending.dirty tracked.store ≠ [] →
      ∃ plan entries,
        Committed schema dialect options tracked state calls count run.1.2 plan entries ∧
          ParentsFirst dialect tracked calls entries) ∧
    ∀ count, asyncRun.1.1 = .ok count → tracked.pending.dirty tracked.store ≠ [] →
      ∃ plan entries,
        Committed schema dialect options tracked state asyncCalls count asyncRun.1.2 plan entries ∧
          ParentsFirst dialect tracked asyncCalls entries := by
  intro run calls asyncRun asyncCalls
  constructor
  · intro count hcount hdirty
    obtain ⟨plan, entries, hcommitted⟩ :=
      (submitted_exchanges schema connection dialect options tracked state).committed hdirty hcount
    exact ⟨plan, entries, hcommitted, hcommitted.parents_first⟩
  · intro count hcount hdirty
    obtain ⟨plan, entries, hcommitted⟩ :=
      (async_submitted_exchanges schema connection dialect options tracked state).committed hdirty
        hcount
    exact ⟨plan, entries, hcommitted, hcommitted.parents_first⟩

/-- The order is inserted after its customer, with the key that the database assigned to that. -/
theorem order_bound_to_assigned_key :
    let calls := exchanges WritePlan.unrelated (assigningSeven (.ok ())) .brackets default
      orderWithCustomer ()
    orderWithCustomer.store.present? ⟨1⟩ "Id" = none ∧
      ∃ entries earlier later statement result,
        IssuedInOrder .brackets calls entries ⟨1⟩ ⟨0⟩ earlier later ∧
        earlier.after.store.present? ⟨1⟩ "Id" = some (.int 7) ∧
        later.answer = some (statement, result) ∧
        statement.Binds .brackets (Table.named "dbo" "Orders") "CustomerId" (.int 7) := by
  intro calls
  obtain ⟨horder, -⟩ := inserts_bind_parent_keys WritePlan.unrelated (assigningSeven (.ok ()))
    .brackets default orderWithCustomer ()
  obtain ⟨plan, entries, hcommitted, hparents⟩ := horder 2 (by decide) (by decide)
  have hlink : NewLink orderWithCustomer ⟨1⟩ ⟨0⟩ :=
    ⟨⟨by decide, _, rfl, rfl⟩, ⟨by decide, _, rfl, rfl⟩, _, rfl, _, List.mem_singleton_self _, rfl⟩
  obtain ⟨earlier, later, hissued, hbound⟩ := hparents.bound ⟨1⟩ ⟨0⟩ hlink
  obtain ⟨hsublist, hearlier, hlater, -⟩ := id hissued
  have hassigned : earlier.after.store.present? ⟨1⟩ "Id" = some (.int 7) := by
    have hsame := hcommitted.present_eq (hsublist.subset List.mem_cons_self) "Id"
    rw [hearlier] at hsame
    exact hsame.symm.trans (by decide)
  have hcolumns : later.columns.contains "CustomerId" = true := by
    obtain ⟨asked, found, hfound, hmodel⟩ := model_of_mem hcommitted.planned.models
      (List.mem_map_of_mem (hsublist.subset (by simp : later ∈ [earlier, later])))
      (show orderWithCustomer.store.get? later.step.entity = some _ by rw [hlater]; rfl)
    cases hfound
    rw [show later.columns = _ from hmodel]
    decide
  obtain ⟨statement, result, hanswer, hbinds⟩ := hbound _ "Id" "CustomerId" (.int 7) rfl
    ⟨⟨_, List.mem_singleton_self _, rfl, by decide⟩, by decide⟩ rfl (.inr hcolumns) hassigned
  exact ⟨by decide, entries, earlier, later, statement, result, hissued, hassigned, hanswer, hbinds⟩

end Submission

end Orm
