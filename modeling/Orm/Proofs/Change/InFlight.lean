import Orm.Proofs.Change.Settlement
import Orm.Proofs.Entity.Edits

/-!
# Edits during a submission

An asynchronous submission waits at every call of the database, and meanwhile entities are edited.
`edit_in_flight` says what becomes of an edit by the time that the submission is committed: it stays
to be written if its entity was not to be written by the submission. Otherwise it is forgotten,
wherever the submission stood: the entity has the new value, but it counts as written.
-/

namespace Orm

/-- The entities of an owner after an edit of one of them, which the owner is told of. -/
def Tracked.edit (tracked : Tracked) (id : EntityId) (change : EntityEdit) : Tracked :=
  let edited := change.apply id tracked.store
  ⟨edited.store, edited.notices.foldl PendingSet.notice tracked.pending⟩

namespace Tracked

variable {tracked : Tracked} {id other : EntityId} {entity edited : Entity}

/-- An edit of an entity changes nothing of the other ones. -/
theorem edit_of_ne (tracked : Tracked) (hne : other ≠ id) (change : EntityEdit) :
    (tracked.edit id change).store.get? other = tracked.store.get? other ∧
      (other ∈ (tracked.edit id change).pending.ids ↔ other ∈ tracked.pending.ids) := by
  have hedits := change.edits_of id tracked.store
  refine ⟨hedits.others other hne, ?_⟩
  rw [edit]
  cases hentity : tracked.store.get? id with
  | none => rw [(hedits.missing hentity).2, List.foldl_nil]
  | some entity =>
      obtain ⟨after, -, hentityEdits⟩ := hedits.edits entity hentity
      exact hentityEdits.mem_pending_of_ne hne tracked.pending

/-- A column that is set waits to be written. -/
theorem edit_set {column : String} {value : Option Value}
    (hentity : tracked.store.get? id = some entity)
    (hwrite : entity.write column value = .ok edited) :
    (tracked.edit id (.set column value)).store.get? id = some edited ∧
      id ∈ (tracked.edit id (.set column value)).pending.ids := by
  simp only [edit, EntityEdit.apply, EntityStore.write, hentity, hwrite, List.foldl_cons,
    List.foldl_nil, PendingSet.notice]
  exact ⟨by rw [EntityStore.get_modify_self, hentity, Option.map_some],
    PendingSet.mem_mark.2 (.inl rfl)⟩

end Tracked

namespace Flight

open Submission Batch

/-! ## What a flight does to entities -/

/-- Whether a flight can still be committed. -/
def isUnderway (flight : Flight) : Bool :=
  match flight.phase with
  | .opening _ | .writing _ _ _ | .committing => true
  | .rollingBack _ | .landed _ => false

/-- A flight that can still be committed makes some writes: those in the books, the one whose
statement it waits for, and those that are left. -/
def Makes (flight : Flight) (steps : List WritePlan.Step) : Prop :=
  match flight.phase with
  | .opening _ => flight.batch.written ++ flight.remaining.map Prod.fst = steps
  | .writing step _ _ => flight.batch.written ++ step :: flight.remaining.map Prod.fst = steps
  | .committing => flight.batch.written = steps
  | .rollingBack _ | .landed _ => True

/-- From one store to another, values were filled in some entities where nothing was present. -/
structure FillsAmong (ids : List EntityId) (before after : EntityStore) : Prop where
  others : ∀ id ∉ ids, after.get? id = before.get? id
  kept : ∀ id entity, before.get? id = some entity → ∃ values,
    after.get? id = some { entity with values := values } ∧
      entity.PresentIn { entity with values := values }

namespace FillsAmong

variable {ids : List EntityId} {first second third : EntityStore}

/-- Nothing need be filled. -/
theorem refl (ids : List EntityId) (store : EntityStore) : FillsAmong ids store store where
  others := fun _ _ => rfl
  kept := fun _ entity hentity => ⟨entity.values, hentity, fun _ _ hvalue => hvalue⟩

/-- Filling goes on where it ended. -/
theorem trans (h : FillsAmong ids first second) (hnext : FillsAmong ids second third) :
    FillsAmong ids first third where
  others := fun id hid => (hnext.others id hid).trans (h.others id hid)
  kept := fun id entity hentity => by
    obtain ⟨values, hvalues, hpresent⟩ := h.kept id entity hentity
    obtain ⟨more, hmore, hlater⟩ := hnext.kept id _ hvalues
    exact ⟨more, hmore, fun column value hvalue =>
      hlater column value (hpresent column value hvalue)⟩

/-- Filling columns of one of the entities. -/
theorem of_fills {id : EntityId} {before after : Progress} (h : Fills id before after)
    (hid : id ∈ ids) : FillsAmong ids before.store after.store where
  others := fun other hother => h.get_of_ne fun hsame => hother (hsame ▸ hid)
  kept := fun other entity hentity => by
    by_cases hsame : id = other
    · subst hsame
      exact h.get_self hentity
    · exact ⟨entity.values, (h.get_of_ne hsame).trans hentity, fun _ _ hvalue => hvalue⟩

end FillsAmong

variable {flight : Flight} {answer : DatabaseAnswer} {tracked : Tracked}
  {steps : List WritePlan.Step}

/-- A flight that goes on makes the writes that are left, and fills only their entities until it
waits again. -/
theorem advance_makes (dialect : Dialect) {writes : List (WritePlan.Step × ColumnMap)}
    {batch : Batch} (hsteps : batch.written ++ writes.map Prod.fst = steps)
    (store : EntityStore) :
    (advance dialect writes batch store).1.Makes steps ∧
      FillsAmong (steps.map WritePlan.Step.entity) store
        (advance dialect writes batch store).2 := by
  induction writes generalizing batch store with
  | nil =>
      rw [List.map_nil, List.append_nil] at hsteps
      exact ⟨hsteps, .refl _ _⟩
  | cons next rest ih =>
      obtain ⟨step, columns⟩ := next
      have hstep : step.entity ∈ steps.map WritePlan.Step.entity :=
        List.mem_map_of_mem (by rw [← hsteps]; simp)
      have hfills := render_fills batch store dialect step columns
      have hwritten := hfills.written_eq
      have hrendered := FillsAmong.of_fills hfills hstep
      rw [advance]
      rcases hrender : batch.render store dialect step columns
        with ⟨error | _ | statement, rendered, filled⟩ <;>
        simp only [hrender] at hwritten hrendered
      · exact ⟨trivial, hrendered⟩
      · -- Nothing is to be written for this entity.
        have htaken : (rendered.absorb filled step columns none).1.written ++ rest.map Prod.fst
            = steps := by simpa [absorb, hwritten] using hsteps
        obtain ⟨hnext, hmore⟩ := ih htaken filled
        exact ⟨hnext, hrendered.trans hmore⟩
      · refine ⟨?_, hrendered⟩
        rw [← hwritten] at hsteps
        exact hsteps

/-- An answer leaves a flight with the same writes as long as it can be committed. Until then the
answers change nothing but what they fill in the entities of these writes. -/
theorem resume_makes (hmakes : flight.Makes steps) :
    (flight.resume answer tracked).1.Makes steps ∧
      ((flight.resume answer tracked).1.isUnderway = true → flight.isUnderway = true ∧
        FillsAmong (steps.map WritePlan.Step.entity) tracked.store
          (flight.resume answer tracked).2.store ∧
        (flight.resume answer tracked).2.pending = tracked.pending) := by
  obtain ⟨dialect, remaining, batch, phase⟩ := flight
  cases phase with
  | opening options =>
      cases answer with
      | error cause => exact ⟨trivial, nofun⟩
      | ok result =>
          obtain ⟨hnext, hfills⟩ := advance_makes dialect hmakes tracked.store
          exact ⟨hnext, fun _ => ⟨rfl, hfills, rfl⟩⟩
  | writing step columns statement =>
      cases answer with
      | error cause => exact ⟨trivial, nofun⟩
      | ok result =>
          have hstep : step.entity ∈ steps.map WritePlan.Step.entity :=
            List.mem_map_of_mem (by rw [← hmakes]; simp)
          obtain ⟨hwritten, filled, habsorbed, -⟩ := absorb_fills batch tracked.store step columns
            (result.map fun result => (statement, result))
          have hsteps : (batch.absorb tracked.store step columns
              (result.map fun result => (statement, result))).1.written ++ remaining.map Prod.fst
                = steps := by
            rw [hwritten, List.append_assoc, List.singleton_append]
            exact hmakes
          obtain ⟨hnext, hfills⟩ := advance_makes dialect hsteps _
          exact ⟨hnext, fun _ =>
            ⟨rfl, (FillsAmong.of_fills habsorbed hstep).trans hfills, rfl⟩⟩
  | committing => cases answer <;> exact ⟨trivial, nofun⟩
  | rollingBack error => exact ⟨trivial, nofun⟩
  | landed result => exact ⟨trivial, nofun⟩

/-! ## Runs -/

/-- What happens while a submission is in flight: entities are edited, and its calls are
answered. -/
inductive Event
  | edit (id : EntityId) (change : EntityEdit)
  | answer (answer : DatabaseAnswer)

/-- A flight and the entities after an event. -/
def Event.perform : Event → Flight × Tracked → Flight × Tracked
  | .edit id change, (flight, tracked) => (flight, tracked.edit id change)
  | .answer answer, (flight, tracked) => flight.resume answer tracked

/-- A flight and the entities after some events, one after the other. -/
def follow (events : List Event) (start : Flight × Tracked) : Flight × Tracked :=
  events.foldl (fun reached event => event.perform reached) start

variable {events : List Event} {start : Flight × Tracked}

/-- An event leaves a flight with the same writes. -/
theorem perform_makes (event : Event) (hmakes : start.1.Makes steps) :
    (event.perform start).1.Makes steps := by
  cases event with
  | edit id change => exact hmakes
  | answer answer => exact (resume_makes hmakes).1

/-- A flight makes the same writes all the time, and once it cannot be committed it never can. -/
theorem follow_makes (events : List Event) (hmakes : start.1.Makes steps) :
    (follow events start).1.Makes steps ∧
      ((follow events start).1.isUnderway = true → start.1.isUnderway = true) := by
  induction events generalizing start with
  | nil => exact ⟨hmakes, id⟩
  | cons event rest ih =>
      obtain ⟨hlast, hback⟩ := ih (perform_makes event hmakes)
      refine ⟨hlast, fun hunderway => ?_⟩
      cases event with
      | edit id change => exact hback hunderway
      | answer answer => exact ((resume_makes hmakes).2 (hback hunderway)).1

/-- As long as a submission can be committed, an entity that is not edited stays as it is, but for
values that are filled in if it is one of those that are written. -/
theorem follow_kept {id : EntityId} {entity : Entity} (hmakes : start.1.Makes steps)
    (hunderway : (follow events start).1.isUnderway = true)
    (hentity : start.2.store.get? id = some entity)
    (hedits : ∀ change, .edit id change ∉ events) :
    ∃ values, (follow events start).2.store.get? id = some { entity with values := values } ∧
      entity.PresentIn { entity with values := values } ∧
      (id ∉ steps.map WritePlan.Step.entity → values = entity.values) ∧
      (id ∈ (follow events start).2.pending.ids ↔ id ∈ start.2.pending.ids) := by
  induction events generalizing start entity with
  | nil => exact ⟨entity.values, hentity, fun _ _ hvalue => hvalue, fun _ => rfl, Iff.rfl⟩
  | cons event rest ih =>
      have hrest : ∀ change, .edit id change ∉ rest := fun change hmem =>
        hedits change (List.mem_cons_of_mem _ hmem)
      have hnext := perform_makes event hmakes
      cases event with
      | edit other change =>
          have hne : id ≠ other := by
            rintro rfl
            exact hedits change List.mem_cons_self
          obtain ⟨hget, hpending⟩ := start.2.edit_of_ne hne change
          obtain ⟨values, hvalues, hpresent, hsame, hwaits⟩ :=
            ih hnext hunderway (hget.trans hentity) hrest
          exact ⟨values, hvalues, hpresent, hsame, hwaits.trans hpending⟩
      | answer answer =>
          obtain ⟨-, hfills, hpending⟩ :=
            (resume_makes hmakes).2 ((follow_makes rest hnext).2 hunderway)
          obtain ⟨filled, hfilled, hkept⟩ := hfills.kept id entity hentity
          obtain ⟨values, hvalues, hpresent, hsame, hwaits⟩ := ih hnext hunderway hfilled hrest
          refine ⟨values, hvalues, fun column value hvalue =>
            hpresent column value (hkept column value hvalue), fun hid => ?_, ?_⟩
          · rw [hsame hid]
            have hother := hfilled.symm.trans ((hfills.others id hid).trans hentity)
            exact congrArg Entity.values (Option.some.inj hother)
          · rw [← hpending]
            exact hwaits

/-- The answer to a commit settles the writes of a flight. -/
theorem resume_of_committing {steps : List WritePlan.Step} (hmakes : flight.Makes steps)
    (hphase : flight.phase = .committing) (result : Option CommandResult) (tracked : Tracked) :
    flight.batch.written = steps ∧
      (flight.resume (.ok result) tracked).1.phase = .landed (.ok steps.length) ∧
      (flight.resume (.ok result) tracked).2 = flight.batch.finish tracked := by
  obtain ⟨dialect, remaining, batch, phase⟩ := flight
  cases hphase
  obtain rfl : batch.written = steps := hmakes
  exact ⟨rfl, rfl, rfl⟩

/-- The commit makes an entity that was written clean, whatever was edited of it. -/
theorem finish_forgets {batch : Batch} (hnodup : (batch.written.map WritePlan.Step.entity).Nodup)
    {tracked : Tracked} {id : EntityId} (hid : id ∈ batch.written.map WritePlan.Step.entity)
    {entity : Entity} (hentity : tracked.store.get? id = some entity) :
    ∃ after, (batch.finish tracked).store.get? id = some after ∧ entity.PresentIn after ∧
      after.state.isDirty = false ∧ after.state.modifiedColumns = [] ∧
        id ∉ (batch.finish tracked).pending.ids := by
  obtain ⟨step, hstep, rfl⟩ := List.mem_map.1 hid
  have hsettled := get_finish_of_mem hnodup hstep tracked
  rw [hentity, Option.map_some] at hsettled
  refine ⟨_, hsettled, (same_row_settled step.operation entity).2, ?_, ?_, ?_⟩
  · cases step.operation <;> rfl
  · cases step.operation <;> rfl
  · rw [pending_finish, List.mem_filter]
    simp [hid]

/-- The commit leaves an entity as it is that was not written. -/
theorem finish_of_not_written {batch : Batch} {id : EntityId}
    (hid : id ∉ batch.written.map WritePlan.Step.entity) (tracked : Tracked) :
    (batch.finish tracked).store.get? id = tracked.store.get? id ∧
      (id ∈ (batch.finish tracked).pending.ids ↔ id ∈ tracked.pending.ids) := by
  refine ⟨get_finish_of_not_mem hid tracked, ?_⟩
  rw [pending_finish, List.mem_filter]
  simp [hid]

/-- What becomes of a column that is set while a submission is in flight, if its entity is not
edited again until the commit. An entity that the submission does not write is as the edit left it,
and it waits to be written. One that it writes has the value, but wherever the submission stood, it
does not wait and no column counts as edited; an edit after its statement is never written. -/
theorem edit_in_flight {σ : Type} {schema : SchemaSource σ} {dialect : Dialect}
    {options : TransactionOptions} {tracked : Tracked} {state : σ}
    {writes : List (WritePlan.Step × ColumnMap)}
    (hprepare : (prepare schema tracked.store (tracked.pending.dirty tracked.store) state).1
      = .ok writes)
    {front back : List Event} {flight last : Flight} {early late : Tracked} {id : EntityId}
    {entity edited : Entity} {column : String} {value : Option Value}
    (hearly : follow front (takeOff dialect options writes, tracked) = (flight, early))
    (hentity : early.store.get? id = some entity)
    (hwrite : entity.write column value = .ok edited)
    (hlate : follow back (flight, early.edit id (.set column value)) = (last, late))
    (hedits : ∀ change, .edit id change ∉ back) (hphase : last.phase = .committing)
    (result : Option CommandResult) :
    let landed := last.resume (.ok result) late
    landed.1.phase = .landed (.ok writes.length) ∧
      ∃ after, landed.2.store.get? id = some after ∧ edited.PresentIn after ∧
        if id ∈ tracked.pending.dirty tracked.store then
          after.state.isDirty = false ∧ after.state.modifiedColumns = [] ∧
            id ∉ landed.2.pending.ids
        else after = edited ∧ after.state.isDirty = true ∧ id ∈ landed.2.pending.ids := by
  intro landed
  obtain ⟨plan, hplanned⟩ := planned_of_prepare hprepare
  have hstart : (takeOff dialect options writes, tracked).1.Makes plan.steps := hplanned.steps
  have hflight : (follow front (takeOff dialect options writes, tracked)).1.Makes plan.steps :=
    (follow_makes front hstart).1
  rw [hearly] at hflight
  have hmiddle : (flight, early.edit id (.set column value)).1.Makes plan.steps := hflight
  -- It can still be committed at the end, so since the edit it only filled what held nothing.
  have hlast := (follow_makes back hmiddle).1
  have hunderway : (follow back (flight, early.edit id (.set column value))).1.isUnderway
      = true := by
    rw [hlate, isUnderway, hphase]
  obtain ⟨hset, hmarked⟩ := Tracked.edit_set hentity hwrite
  obtain ⟨values, hvalues, hpresent, hsame, hwaits⟩ :=
    follow_kept hmiddle hunderway hset hedits
  rw [hlate] at hlast hvalues hwaits
  obtain ⟨hwritten, hlanded, hfinish⟩ := resume_of_committing hlast hphase result late
  have hmem : id ∈ plan.steps.map WritePlan.Step.entity ↔
      id ∈ tracked.pending.dirty tracked.store := hplanned.perm_dirty.mem_iff
  have hlength : plan.steps.length = writes.length := by
    rw [← hplanned.steps, List.length_map]
  refine ⟨hlength ▸ hlanded, ?_⟩
  rw [show landed.2 = last.batch.finish late from hfinish]
  by_cases hid : id ∈ tracked.pending.dirty tracked.store
  · obtain ⟨after, hafter, hkept, hforgotten⟩ := finish_forgets
      (by rw [hwritten]; exact hplanned.nodup_entities)
      (by rw [hwritten]; exact hmem.2 hid) hvalues
    exact ⟨after, hafter, fun asked held hheld => hkept asked held (hpresent asked held hheld),
      by rw [if_pos hid]; exact hforgotten⟩
  · have hother := mt hmem.1 hid
    obtain ⟨hafter, hpending⟩ := finish_of_not_written (hwritten ▸ hother) late
    rw [hvalues, hsame hother] at hafter
    have hdirty : edited.state.isDirty = true := by
      obtain ⟨haccepts, written, rfl, -⟩ := Entity.write_eq_ok hwrite
      exact EntityState.is_dirty_record_edit haccepts
    refine ⟨edited, hafter, fun _ _ hheld => hheld, ?_⟩
    rw [if_neg hid]
    exact ⟨rfl, hdirty, hpending.2 (hwaits.2 hmarked)⟩

/-- An order that was loaded and got the customer eight. -/
def movedOrder : Entity :=
  { Entity.materialized (Table.named "dbo" "Orders")
      (.ofColumns [(Column.plain "Id" .integer "int").primaryKey,
        Column.plain "CustomerId" .integer "int"]) none
      [("Id", .int 1), ("CustomerId", .int 8)] with
    state := .modified ["CustomerId"] }

/-- The order waits for its update. -/
def orderWaiting : Tracked := ⟨⟨#[movedOrder]⟩, PendingSet.empty.mark ⟨0⟩⟩

/-- The submission of the order once the transaction is open. -/
def updatingOrder : Flight × Tracked :=
  follow [.answer (.ok none)]
    (takeOff .brackets default [(⟨.update, ⟨0⟩⟩, movedOrder.columns)], orderWaiting)

/-- Then the order gets the customer nine, and after that its update is answered. -/
def updatedOrder : Flight × Tracked :=
  follow [.answer (.ok (some (.affected 1)))]
    (updatingOrder.1, updatingOrder.2.edit ⟨0⟩ (.set "CustomerId" (some (.int 9))))

/-- The update stores the customer eight. After the commit the order has the customer nine, but it
does not wait for another update. -/
theorem late_customer_forgotten :
    let landed := updatedOrder.1.resume (.ok none) updatedOrder.2
    updatingOrder.1.request = some (.execute (.statement
      "UPDATE [dbo].[Orders] SET [CustomerId] = @p0 WHERE [Id] = @p1"
      [.input "@p0" (.int 8), .input "@p1" (.int 1)])) ∧
    landed.1.phase = .landed (.ok 1) ∧
    ∃ after, landed.2.store.get? ⟨0⟩ = some after ∧
      after.present? "CustomerId" = some (.int 9) ∧ after.state.isDirty = false ∧
      ⟨0⟩ ∉ landed.2.pending.ids := by
  intro landed
  have hprepare : (prepare WritePlan.unrelated orderWaiting.store
      (orderWaiting.pending.dirty orderWaiting.store) ()).1
        = .ok [(⟨.update, ⟨0⟩⟩, movedOrder.columns)] := by decide +kernel
  have horder : updatingOrder.2.store.get? ⟨0⟩ = some movedOrder := by decide +kernel
  have hwrite : movedOrder.write "CustomerId" (some (.int 9))
      = .ok { movedOrder with values := .ofList [("Id", .int 1), ("CustomerId", .int 9)] } := by
    decide +kernel
  have hedits : ∀ change, Event.edit ⟨0⟩ change ∉
      [Event.answer (.ok (some (.affected 1)))] := by simp
  obtain ⟨hlanded, after, hafter, hpresent, hforgotten⟩ := edit_in_flight hprepare rfl horder
    hwrite rfl hedits rfl none
  rw [if_pos (by decide +kernel)] at hforgotten
  exact ⟨by decide +kernel, hlanded, after, hafter, hpresent _ _ (by decide +kernel),
    hforgotten.1, hforgotten.2.2⟩

end Flight

end Orm
