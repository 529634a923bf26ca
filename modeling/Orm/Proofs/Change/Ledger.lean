import Orm.Proofs.Change.Fills
import Orm.Proofs.Change.Recording
import Orm.Proofs.Change.WriteStatement

/-!
# Ledgers

A `Ledger` lists the writes of a submission that went well, each with the statement that was
rendered for it, the result of the database, and the entities before and after. An entity changes
only at its own write: `Ledger.get_of_not_mem` is the frame of a ledger, `Ledger.get_before` and
`Ledger.get_after` say what becomes of an entity that has one write.
-/

namespace Orm.Submission

/-- A write that went well. It has no answer if there was nothing to write. -/
structure Entry where
  step : WritePlan.Step
  columns : ColumnMap
  answer : Option (WriteStatement × CommandResult)
  before : Progress
  after : Progress

namespace Entry

/-- The write that an entry is about. -/
def write (entry : Entry) : WritePlan.Step × ColumnMap := (entry.step, entry.columns)

/-- The execution of the statement of an entry. -/
def exchange? (dialect : Dialect) (entry : Entry) : Option Exchange :=
  entry.answer.map fun (statement, result) =>
    ⟨.execute (statement.command dialect), .ok (some result)⟩

/-- The statement of an entry is what its write renders to, and its result is taken in. -/
def Valid (dialect : Dialect) (entry : Entry) : Prop :=
  ∃ rendered : Progress,
    entry.before.batch.render entry.before.store dialect entry.step entry.columns
      = (.ok (entry.answer.map Prod.fst), rendered.batch, rendered.store) ∧
    rendered.batch.absorb rendered.store entry.step entry.columns entry.answer
      = (entry.after.batch, entry.after.store)

/-- An entry has nothing to write: it updates a row of which nothing but keys was edited or
filled. -/
def NothingToWrite (entry : Entry) : Prop :=
  entry.step.operation = .update ∧
    ∀ entity, entry.before.store.get? entry.step.entity = some entity → ∀ column,
      column ∈ entity.state.modifiedColumns ∨
        (entry.step.entity, column) ∈ entry.after.batch.filled →
      column ∈ entry.columns.primaryKeys

variable {dialect : Dialect} {entry : Entry}

/-- A write fills columns of its entity, and is noted. -/
theorem Valid.fills (h : entry.Valid dialect) :
    entry.after.batch.written = entry.before.batch.written ++ [entry.step] ∧
      ∃ filled, Batch.Fills entry.step.entity entry.before ⟨filled, entry.after.store⟩ ∧
        entry.after.batch.filled = filled.filled := by
  obtain ⟨rendered, hrender, habsorb⟩ := h
  have hrendered := Batch.render_fills entry.before.batch entry.before.store dialect entry.step
    entry.columns
  rw [hrender] at hrendered
  obtain ⟨hwritten, filled, habsorbed, hfilled⟩ := Batch.absorb_fills rendered.batch
    rendered.store entry.step entry.columns entry.answer
  rw [habsorb] at hwritten habsorbed hfilled
  exact ⟨hwritten.trans (congrArg (· ++ [entry.step]) hrendered.written_eq), filled,
    hrendered.trans habsorbed, hfilled⟩

/-- A write leaves the other entities as they are. -/
theorem Valid.get_of_ne (h : entry.Valid dialect) {id : EntityId} (hne : entry.step.entity ≠ id) :
    entry.after.store.get? id = entry.before.store.get? id := by
  obtain ⟨-, filled, hfills, -⟩ := h.fills
  exact hfills.get_of_ne hne

/-- A write notes only columns of its entity. -/
theorem Valid.mem_filled (h : entry.Valid dialect) {filled : EntityId × String}
    (hmem : filled ∈ entry.after.batch.filled) :
    filled.1 = entry.step.entity ∨ filled ∈ entry.before.batch.filled := by
  obtain ⟨-, batch, hfills, hfilled⟩ := h.fills
  obtain ⟨columns, hcolumns⟩ := hfills.filled_eq
  rw [hfilled, hcolumns, List.mem_append, List.mem_map] at hmem
  rcases hmem with hmem | ⟨column, -, rfl⟩
  · exact .inr hmem
  · exact .inl rfl

/-- A write has no answer if and only if there is nothing to write. -/
theorem Valid.answer_eq_none_iff (h : entry.Valid dialect) {entity : Entity}
    (hentity : entry.before.store.get? entry.step.entity = some entity)
    (hfresh : ∀ column, (entry.step.entity, column) ∉ entry.before.batch.filled) :
    entry.answer = none ↔ entry.NothingToWrite := by
  obtain ⟨rendered, hrender, habsorb⟩ := h
  obtain ⟨filled, values, -, hstatement, hfilled, -, -⟩ := Batch.render_of_get
    entry.before.batch dialect entry.columns hentity
  rw [hrender] at hstatement hfilled
  have hnone : entry.answer = none ↔ entry.step.operation = .update ∧ ∀ column,
      column ∈ entity.state.modifiedColumns ∨ column ∈ filled →
        column ∈ entry.columns.primaryKeys := by
    have hsame := Iff.of_eq (congrArg (· = Except.ok none) hstatement)
    refine Iff.trans ?_ (hsame.trans WriteStatement.statement_for_eq_none_iff)
    simp
  -- What the rendering filled is still noted after the result was taken in.
  have hafter : ∀ column, column ∈ filled →
      (entry.step.entity, column) ∈ entry.after.batch.filled := by
    intro column hcolumn
    obtain ⟨-, batch, hfills, habsorbed⟩ := Batch.absorb_fills rendered.batch rendered.store
      entry.step entry.columns entry.answer
    obtain ⟨more, hmore⟩ := hfills.filled_eq
    rw [habsorb, hmore, hfilled] at habsorbed
    rw [habsorbed]
    exact List.mem_append_left _ (List.mem_append_right _ (List.mem_map_of_mem hcolumn))
  constructor
  · intro hanswer
    obtain ⟨hupdate, hkeys⟩ := hnone.1 hanswer
    refine ⟨hupdate, fun other hother column hcolumn => hkeys column ?_⟩
    obtain rfl := Option.some.inj (hentity.symm.trans hother)
    refine hcolumn.imp_right fun hnoted => ?_
    rw [hanswer] at habsorb
    rw [← (Prod.mk.inj habsorb).1] at hnoted
    rcases List.mem_append.1 (hfilled ▸ hnoted) with hearlier | hnoted
    · exact absurd hearlier (hfresh column)
    · obtain ⟨other, hother, hsame⟩ := List.mem_map.1 hnoted
      exact (Prod.mk.inj hsame).2 ▸ hother
  · rintro ⟨hupdate, hkeys⟩
    exact hnone.2 ⟨hupdate, fun column hcolumn =>
      hkeys entity hentity column (hcolumn.imp_right (hafter column))⟩

/-- A write keeps account of what it fills. -/
theorem Valid.filled_from (h : entry.Valid dialect) {initial : EntityStore}
    (hinitial : Batch.FilledFrom initial entry.before) : Batch.FilledFrom initial entry.after := by
  obtain ⟨-, filled, hfills, hfilled⟩ := h.fills
  have hafter := hinitial.fills hfills
  exact ⟨hafter.missing, by rw [hfilled]; exact hafter.kept⟩

end Entry

/-- Writes that went well, one after the other. -/
inductive Ledger (dialect : Dialect) : Progress → List Entry → Progress → Prop
  | nil (progress : Progress) : Ledger dialect progress [] progress
  | cons {entry : Entry} {rest : List Entry} {last : Progress} (hentry : entry.Valid dialect)
      (hrest : Ledger dialect entry.after rest last) :
      Ledger dialect entry.before (entry :: rest) last

namespace Ledger

variable {dialect : Dialect} {first middle last : Progress} {front back entries : List Entry}

/-- The first entry of a ledger starts where the ledger does. -/
theorem cons_iff {entry : Entry} {rest : List Entry} :
    Ledger dialect first (entry :: rest) last ↔
      entry.before = first ∧ entry.Valid dialect ∧ Ledger dialect entry.after rest last := by
  constructor
  · intro h
    cases h with
    | cons hentry hrest => exact ⟨rfl, hentry, hrest⟩
  · rintro ⟨rfl, hentry, hrest⟩
    exact .cons hentry hrest

/-- A ledger can be cut anywhere. -/
theorem split (h : Ledger dialect first (front ++ back) last) :
    ∃ middle, Ledger dialect first front middle ∧ Ledger dialect middle back last := by
  induction front generalizing first with
  | nil => exact ⟨first, .nil first, h⟩
  | cons entry rest ih =>
      obtain ⟨rfl, hentry, hrest⟩ := cons_iff.1 h
      obtain ⟨middle, hfront, hback⟩ := ih hrest
      exact ⟨middle, .cons hentry hfront, hback⟩

/-- Every entry of a ledger is as it should be. -/
theorem valid_of_mem (h : Ledger dialect first entries last) {entry : Entry}
    (hentry : entry ∈ entries) : entry.Valid dialect := by
  induction h with
  | nil progress => exact absurd hentry List.not_mem_nil
  | cons hvalid _ ih =>
      rcases List.mem_cons.1 hentry with rfl | hentry
      · exact hvalid
      · exact ih hentry

/-- The books note exactly the writes of a ledger. -/
theorem written_eq (h : Ledger dialect first entries last) :
    last.batch.written = first.batch.written ++ entries.map Entry.step := by
  induction h with
  | nil progress => simp
  | cons hentry _ ih =>
      rw [ih, hentry.fills.1, List.append_assoc, List.singleton_append, List.map_cons]

/-- A ledger keeps account of what its writes fill. -/
theorem filled_from (h : Ledger dialect first entries last) {initial : EntityStore}
    (hinitial : Batch.FilledFrom initial first) : Batch.FilledFrom initial last := by
  induction h with
  | nil progress => exact hinitial
  | cons hentry _ ih => exact ih (hentry.filled_from hinitial)

/-- Entities without a write in a ledger stay as they are. -/
theorem get_of_not_mem (h : Ledger dialect first entries last) {id : EntityId}
    (hid : id ∉ entries.map fun entry => entry.step.entity) :
    last.store.get? id = first.store.get? id := by
  induction h with
  | nil progress => rfl
  | cons hentry _ ih =>
      obtain ⟨hne, hid⟩ := not_or.1 (mt List.mem_cons.2 hid)
      rw [ih hid, hentry.get_of_ne (Ne.symm hne)]

/-- A ledger notes only columns of entities that it has a write of. -/
theorem mem_filled (h : Ledger dialect first entries last) {filled : EntityId × String}
    (hmem : filled ∈ last.batch.filled) :
    (filled.1 ∈ entries.map fun entry => entry.step.entity) ∨ filled ∈ first.batch.filled := by
  induction h with
  | nil progress => exact .inr hmem
  | cons hentry _ ih =>
      rw [List.map_cons, List.mem_cons]
      rcases ih hmem with hlater | hafter
      · exact .inl (.inr hlater)
      · exact (hentry.mem_filled hafter).imp_left .inl

/-- Up to its write the entity of an entry stays as it is, if each entity has one write. -/
theorem get_before {entry : Entry} (h : Ledger dialect first (front ++ entry :: back) last)
    (hnodup : ((front ++ entry :: back).map fun entry => entry.step.entity).Nodup) :
    entry.before.store.get? entry.step.entity = first.store.get? entry.step.entity := by
  obtain ⟨middle, hfront, hback⟩ := h.split
  obtain ⟨rfl, -, -⟩ := cons_iff.1 hback
  refine hfront.get_of_not_mem fun hmem => ?_
  rw [List.map_append, List.map_cons] at hnodup
  exact (List.nodup_append.1 hnodup).2.2 _ hmem _ List.mem_cons_self rfl

/-- After its write the entity of an entry stays as it is, if each entity has one write. -/
theorem get_after {entry : Entry} (h : Ledger dialect first entries last)
    (hnodup : (entries.map fun entry => entry.step.entity).Nodup) (hentry : entry ∈ entries) :
    last.store.get? entry.step.entity = entry.after.store.get? entry.step.entity := by
  obtain ⟨front, back, rfl⟩ := List.append_of_mem hentry
  obtain ⟨middle, -, hrest⟩ := h.split
  obtain ⟨-, -, hback⟩ := cons_iff.1 hrest
  rw [List.map_append, List.map_cons] at hnodup
  exact hback.get_of_not_mem (List.nodup_cons.1 (List.nodup_append.1 hnodup).2.1).1

/-- Between its write and a later one an entity stays as it is, if each entity has one write. -/
theorem get_between (h : Ledger dialect first entries last)
    (hnodup : (entries.map fun entry => entry.step.entity).Nodup) {earlier later : Entry}
    (hsublist : [earlier, later].Sublist entries) :
    later.before.store.get? earlier.step.entity
      = earlier.after.store.get? earlier.step.entity := by
  -- Cut at both entries: no write in between is about the entity of the earlier one.
  obtain ⟨left, right, rfl, hearlier, hlater⟩ := List.cons_sublist_iff.1 hsublist
  obtain ⟨front, between, rfl⟩ := List.append_of_mem hearlier
  obtain ⟨more, back, rfl⟩ := List.append_of_mem (List.singleton_sublist.1 hlater)
  rw [List.append_assoc, List.cons_append, ← List.append_assoc between] at h hnodup
  obtain ⟨middle, -, hrest⟩ := h.split
  obtain ⟨-, -, hrest⟩ := cons_iff.1 hrest
  obtain ⟨reached, hbetween, hback⟩ := hrest.split
  obtain ⟨rfl, -, -⟩ := cons_iff.1 hback
  refine hbetween.get_of_not_mem fun hmem => ?_
  rw [List.map_append, List.map_cons, List.map_append] at hnodup
  exact (List.nodup_cons.1 (List.nodup_append.1 hnodup).2.1).1 (List.mem_append_left _ hmem)

end Ledger

end Orm.Submission
