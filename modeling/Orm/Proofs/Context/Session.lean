import Orm.Proofs.Change.Flight
import Orm.Proofs.Context.Effects
import Orm.Proofs.Context.Reads
import Orm.Workspace.Basic

/-!
# Sessions of a context

A session is what a context does one action after the other: it creates and reads rows, edits and
clones entities, and submits changes, well or not. `ContextAction.perform_effect` places every
action under `Effect`, so what one effect preserves holds after any session.
-/

namespace Orm

variable {σ α : Type}

namespace Workspace

variable {workspace : Workspace σ} {id other : OwnerId}

/-! ## Owners at work -/

/-- The entities with the pending set of an owner, which is empty if the owner is not alive. -/
def trackedBy (workspace : Workspace σ) (id : OwnerId) : Tracked :=
  ⟨workspace.store, ((workspace.owner? id).map Owner.pending).getD .empty⟩

/-- An owner that is alive tracks its pending set. -/
theorem tracked_by_of_owner {owner : Owner σ} (howner : workspace.owner? id = some owner) :
    workspace.trackedBy id = ⟨workspace.store, owner.pending⟩ := by
  rw [trackedBy, howner]
  rfl

/-- The owners after one of them left its desk. -/
theorem owner_leave (desk : Desk σ) :
    (workspace.leave other desk).owner? id
      = if other = id then (workspace.owner? id).map fun owner =>
          { owner with
            pending := desk.tracked.pending
            cache := desk.around.cache
            events := desk.around.events
            watchers := desk.around.watchers }
        else workspace.owner? id := by
  have hindex : other.index = id.index ↔ other = id := by
    cases other
    cases id
    simp
  simp only [owner?, leave, Array.getElem?_modify, hindex]
  split
  · next hsame =>
    subst hsame
    cases workspace.owners[other.index]? with
    | none => rfl
    | some owner => cases halive : owner.isAlive <;> simp [Option.filter, halive]
  · rfl

/-- Who is alive stays so when an owner leaves its desk. -/
theorem is_some_owner_leave (desk : Desk σ) :
    ((workspace.leave other desk).owner? id).isSome = (workspace.owner? id).isSome := by
  rw [owner_leave]
  split <;> simp

/-- An owner that leaves its desk keeps what is on it. -/
theorem tracked_by_leave (halive : (workspace.owner? id).isSome = true) (desk : Desk σ) :
    (workspace.leave id desk).trackedBy id = desk.tracked := by
  obtain ⟨owner, howner⟩ := Option.isSome_iff_exists.1 halive
  rw [trackedBy, owner_leave, if_pos rfl, howner]
  rfl

/-- The pending set of an owner stays as it is when another one leaves its desk. -/
theorem tracked_by_leave_of_ne (hne : other ≠ id) (desk : Desk σ) :
    (workspace.leave other desk).trackedBy id
      = ⟨desk.tracked.store, (workspace.trackedBy id).pending⟩ := by
  rw [trackedBy, owner_leave, if_neg hne]
  rfl

/-- An owner that is alive acts on its entities. -/
theorem act_tracked {owner : Owner σ} (howner : workspace.owner? id = some owner)
    (action : Owner σ → StateM (Desk σ) α) :
    (act id action workspace).2.trackedBy id
        = (action owner (workspace.desk owner)).2.tracked ∧
      ((act id action workspace).2.owner? id).isSome = true ∧
      (act id action workspace).1 = some (action owner (workspace.desk owner)).1 := by
  have halive : (workspace.owner? id).isSome = true := by rw [howner]; rfl
  rw [act, howner]
  exact ⟨tracked_by_leave halive _, (is_some_owner_leave _).trans halive, rfl⟩

/-- The owner of an entity, if it is alive. -/
theorem owner_of_eq_some_iff {entity : EntityId} {owner : Owner σ} :
    workspace.ownerOf? entity = some (id, owner) ↔
      (∃ found, workspace.store.get? entity = some found ∧ found.owner = some id) ∧
        workspace.owner? id = some owner := by
  unfold ownerOf?
  cases workspace.store.get? entity with
  | none => simp
  | some found =>
      cases hfound : found.owner with
      | none => simp [hfound]
      | some known =>
          cases hknown : workspace.owner? known with
          | none =>
              simp only [Option.bind_eq_bind, Option.bind_some, hfound, hknown, Option.bind_none,
                Option.some.injEq, exists_eq_left', reduceCtorEq, false_iff, not_and]
              rintro rfl howner
              cases hknown.symm.trans howner
          | some alive =>
              simp only [Option.bind_eq_bind, Option.bind_some, hfound, hknown, Option.pure_def,
                Option.some.injEq, Prod.mk.injEq, exists_eq_left']
              constructor
              · rintro ⟨rfl, rfl⟩
                exact ⟨rfl, hknown⟩
              · rintro ⟨rfl, howner⟩
                exact ⟨rfl, Option.some.inj (hknown.symm.trans howner)⟩

/-- An edit of an entity whose owner is alive is made on the desk of the owner. -/
theorem edit_of_owner {owner : Owner σ} {entity : EntityId}
    (howner : workspace.ownerOf? entity = some (id, owner)) (change : EntityStore → Edited) :
    (edit entity change workspace).2
      = workspace.leave id (Desk.edit owner.kind.announces change (workspace.desk owner)).2 := by
  rw [edit, howner]
  rfl

/-- An edit of another entity changes nothing but the store. -/
theorem edit_of_none {entity : EntityId} (howner : workspace.ownerOf? entity = none)
    (change : EntityStore → Edited) :
    (edit entity change workspace).2
      = { workspace with store := (change workspace.store).store } := by
  rw [edit, howner]

/-- An entity whose owner is alive is added on the desk of the owner. -/
theorem add_tracked_of_owner {owner : Owner σ} {entity : Entity}
    (howner : workspace.owner? id = some owner) (hentity : entity.owner = some id) :
    (addTracked entity workspace).2
      = (act id (fun owner => Desk.addTracked owner.kind.announces entity) workspace).2 := by
  obtain ⟨-, -, hanswer⟩ :=
    act_tracked howner fun owner => Desk.addTracked owner.kind.announces entity
  simp only [addTracked, hentity, Action.bind_apply, hanswer]
  rfl

/-- A clone of an entity is added with its owner. -/
theorem clone_for_of_get {entity : EntityId} {source : Entity}
    (hsource : workspace.store.get? entity = some source) (owner : Option OwnerId)
    (mode : CloneMode) :
    (cloneFor owner mode entity workspace).2
      = (addTracked (source.cloned mode owner) workspace).2 := by
  simp only [cloneFor, Action.bind_apply, Action.get_apply, hsource]
  rfl

/-- Without an entity there is nothing to clone. -/
theorem clone_for_of_none {entity : EntityId} (hsource : workspace.store.get? entity = none)
    (owner : Option OwnerId) (mode : CloneMode) :
    (cloneFor owner mode entity workspace).2 = workspace := by
  simp only [cloneFor, Action.bind_apply, Action.get_apply, hsource]
  rfl

end Workspace

namespace Desk

/-- The pending set takes in all notices of an owner. -/
theorem tracked_receive_all (announces : Bool) (notices : List Notice) (desk : Desk σ) :
    (notices.foldl (receive announces) desk).tracked
      = ⟨desk.tracked.store, notices.foldl PendingSet.notice desk.tracked.pending⟩ := by
  induction notices generalizing desk with
  | nil => rfl
  | cons notice rest ih => exact ih (receive announces desk notice)

/-- An edit changes the store, and the pending set takes in its notices. -/
theorem tracked_edit (announces : Bool) (change : EntityStore → Edited) (desk : Desk σ) :
    (edit announces change desk).2.tracked
      = ⟨(change desk.tracked.store).store,
          (change desk.tracked.store).notices.foldl PendingSet.notice desk.tracked.pending⟩ :=
  tracked_receive_all announces _ _

/-- An entity that is added waits for its write from the beginning. -/
theorem tracked_add_tracked (announces : Bool) (entity : Entity) (desk : Desk σ) :
    (addTracked announces entity desk).2.tracked
      = ⟨(desk.tracked.store.add entity).2,
          desk.tracked.pending.mark (desk.tracked.store.add entity).1⟩ :=
  tracked_receive_all announces _ _

end Desk

/-- Without pending entities a submission of a context does nothing. Otherwise it opens a connection
and then, if it has one, submits the entities over it. -/
theorem Context.submit_by_cases (context : Context σ)
    (apply : SchemaSource (Surroundings σ) → Connection (Surroundings σ) → Dialect →
      TransactionOptions → Tracked →
      StateM (Surroundings σ) (Except PersistError Nat × Tracked))
    (desk : Desk σ) :
    desk.tracked.pending.isEmpty = true ∧ context.submitBy apply desk = (.ok 0, desk) ∨
      (∃ error around, context.connect desk.around = (.error error, around) ∧
        context.submitBy apply desk = (.error error.failure, { desk with around := around })) ∨
      ∃ around, context.connect desk.around = (.ok (), around) ∧
        let run := apply (Surroundings.schemaSource context.catalog) context.connection
          context.dialect context.transaction desk.tracked around
        context.submitBy apply desk
          = (run.1.1.mapError PersistError.failure, ⟨run.1.2, run.2⟩) := by
  unfold Context.submitBy
  by_cases hempty : desk.tracked.pending.isEmpty = true
  · exact .inl ⟨hempty, if_pos hempty⟩
  · rw [if_neg hempty]
    rcases hopen : context.connect desk.around with ⟨error | opened, around⟩
    · exact .inr (.inl ⟨error, around, rfl, rfl⟩)
    · exact .inr (.inr ⟨around, rfl, rfl⟩)

/-! ## Clones -/

namespace Entity

/-- The columns that a clone for an update copies: those that its source holds, but for the key. -/
def copiedColumns (source : Entity) : List String :=
  source.values.keys.filter fun column => !source.columns.isPrimaryKey column

/-- A clone for an update is modified in the columns that it copies. -/
theorem state_cloned_update (source : Entity) (owner : Option OwnerId) :
    (source.cloned .update owner).state = .modified source.copiedColumns := by
  have hcopied : (source.values.filter fun name value =>
      !source.columns.isPrimaryKey name && (CloneMode.update = .update || !value.isNull)).keys
        = source.copiedColumns := by
    simp only [NameMap.keys, NameMap.filter, copiedColumns, List.filter_map, decide_true,
      Bool.true_or, Bool.and_true]
    rfl
  exact congrArg EntityState.modified hcopied

/-- A clone waits for its write: as a new row, or for an update of the columns that it copies. -/
theorem state_cloned (source : Entity) (mode : CloneMode) (owner : Option OwnerId) :
    (source.cloned mode owner).state = .created ∨
      ∃ columns, (source.cloned mode owner).state = .modified columns ∧ columns.Nodup := by
  cases mode with
  | insert => exact .inl rfl
  | update => exact .inr ⟨_, source.state_cloned_update owner, (NameMap.nodup_keys _).filter _⟩

end Entity

/-! ## Actions -/

/-- What a context does with its entities. -/
inductive ContextAction
  | create (table : Table)
  | read (kind : ContextRead)
  | edit (id : EntityId) (change : EntityEdit)
  | clone (mode : CloneMode) (id : EntityId)
  | submit
  | submitAsync

namespace ContextAction

/-- Performs an action in a workspace. What it answers, an error included, is not needed. -/
def perform (context : Context σ) : ContextAction → StateM (Workspace σ) Unit
  | .create table => do
      let _ ← Workspace.act context.owner fun _ => context.createEntity table
  | .read kind => do
      let _ ← Workspace.act context.owner fun _ => kind.perform context
  | .edit id change => do
      let _ ← Workspace.edit id (change.apply id)
  | .clone mode id => do
      let _ ← Workspace.cloneFor (some context.owner) mode id
  | .submit => do
      let _ ← Workspace.act context.owner fun _ => context.submitUpdates
  | .submitAsync => do
      let _ ← Workspace.act context.owner fun _ => context.submitUpdatesAsync

/-- The columns whose tracked write succeeds in an action, with their entities. The columns that a
clone for an update copies count as written. -/
def written (workspace : Workspace σ) : ContextAction → List (EntityId × String)
  | .edit id change => (change.written id workspace.store).map (Prod.mk id)
  | .clone .update id =>
      match workspace.store.get? id with
      | none => []
      | some source => source.copiedColumns.map (Prod.mk ⟨workspace.store.entities.size⟩)
  | .create _ | .read _ | .clone .insert _ | .submit | .submitAsync => []

variable (context : Context σ)

/-! ## What an action does -/

/-- What only reads is a read as an effect. -/
theorem effect_of_only_reads {owner : OwnerId} {action : StateM (Desk σ) α}
    (hreads : Desk.OnlyReads owner action) (desk : Desk σ) :
    Effect owner desk.tracked [] (action desk).2.tracked := by
  obtain ⟨rows, hrows, htracked⟩ := hreads desk
  rw [htracked]
  exact .read rows hrows

/-- A new row is added, or nothing if its columns are not found. -/
theorem create_effect (table : Table) (desk : Desk σ) :
    Effect context.owner desk.tracked [] (context.createEntity table desk).2.tracked := by
  have htracked : (context.columns table desk).2.tracked = desk.tracked := rfl
  rw [Context.createEntity, Action.bind_apply, ← htracked]
  cases (context.columns table desk).1 with
  | error failure => exact .read [] (by simp)
  | ok columns =>
      exact .added { Entity.fresh table columns (some context.owner) with
        onConflict := context.defaultConflict } rfl (.inl rfl)

/-- A submission is one as an effect, in whichever of the two ways it is made. -/
theorem submit_by_effect
    {apply : SchemaSource (Surroundings σ) → Connection (Surroundings σ) → Dialect →
      TransactionOptions → Tracked →
      StateM (Surroundings σ) (Except PersistError Nat × Tracked)}
    (hsubmits : ∀ schema connection dialect options tracked around,
      Submits tracked (apply schema connection dialect options tracked around).1.2)
    (desk : Desk σ) :
    Effect context.owner desk.tracked [] (context.submitBy apply desk).2.tracked := by
  obtain ⟨-, hresult⟩ | ⟨error, around, -, hresult⟩ | ⟨around, -, hresult⟩ :=
    context.submit_by_cases apply desk
  · rw [hresult]
    exact .submitted (.refl _)
  · rw [hresult]
    exact .submitted (.refl _)
  · rw [hresult]
    exact .submitted (hsubmits ..)

variable {context} {workspace : Workspace σ}

/-- An edit is one of an entity of the context or of another entity. -/
theorem edit_effect (halive : (workspace.owner? context.owner).isSome = true) (id : EntityId)
    (change : EntityEdit) :
    Effect context.owner (workspace.trackedBy context.owner)
        (written workspace (.edit id change))
        ((Workspace.edit id (change.apply id) workspace).2.trackedBy context.owner) ∧
      ((Workspace.edit id (change.apply id) workspace).2.owner? context.owner).isSome = true := by
  have hedits := change.edits_of id workspace.store
  rw [written, ← change.written_apply]
  cases howner : workspace.ownerOf? id with
  | none =>
      rw [Workspace.edit_of_none howner]
      refine ⟨.editedElsewhere hedits fun entity hentity hown => ?_, halive⟩
      -- The owner is alive, so its entities have an owner that is told.
      obtain ⟨owner, hfound⟩ := Option.isSome_iff_exists.1 halive
      cases howner.symm.trans (Workspace.owner_of_eq_some_iff.2 ⟨⟨entity, hentity, hown⟩, hfound⟩)
  | some known =>
      obtain ⟨known, owner⟩ := known
      obtain ⟨⟨entity, hentity, hown⟩, hfound⟩ := Workspace.owner_of_eq_some_iff.1 howner
      rw [Workspace.edit_of_owner howner]
      refine ⟨?_, (Workspace.is_some_owner_leave _).trans halive⟩
      by_cases hsame : known = context.owner
      · subst hsame
        rw [Workspace.tracked_by_leave halive, Desk.tracked_edit,
          Workspace.tracked_by_of_owner hfound]
        exact .edited hedits ⟨entity, hentity, hown⟩
      · rw [Workspace.tracked_by_leave_of_ne hsame, Desk.tracked_edit]
        refine .editedElsewhere hedits fun other hother hours => hsame ?_
        obtain rfl := Option.some.inj (hentity.symm.trans hother)
        exact Option.some.inj (hown.symm.trans hours)

/-- A clone is added, if there is an entity to clone. -/
theorem clone_effect (halive : (workspace.owner? context.owner).isSome = true) (mode : CloneMode)
    (id : EntityId) :
    Effect context.owner (workspace.trackedBy context.owner)
        (written workspace (.clone mode id))
        ((Workspace.cloneFor (some context.owner) mode id workspace).2.trackedBy context.owner) ∧
      ((Workspace.cloneFor (some context.owner) mode id workspace).2.owner?
        context.owner).isSome = true := by
  obtain ⟨owner, howner⟩ := Option.isSome_iff_exists.1 halive
  cases hsource : workspace.store.get? id with
  | none =>
      have hwritten : written workspace (.clone mode id) = [] := by
        cases mode <;> simp only [written, hsource]
      rw [Workspace.clone_for_of_none hsource, hwritten]
      exact ⟨.read [] (by simp), halive⟩
  | some source =>
      have hwritten : written workspace (.clone mode id)
          = (source.cloned mode (some context.owner)).state.modifiedColumns.map
              (Prod.mk ⟨workspace.store.entities.size⟩) := by
        cases mode with
        | insert => rfl
        | update => simp only [written, hsource, source.state_cloned_update,
            EntityState.modifiedColumns]
      obtain ⟨htracked, hstill, -⟩ := Workspace.act_tracked howner fun owner =>
        Desk.addTracked owner.kind.announces (source.cloned mode (some context.owner))
      rw [Workspace.clone_for_of_get hsource, Workspace.add_tracked_of_owner howner rfl, htracked,
        Desk.tracked_add_tracked, Workspace.tracked_by_of_owner howner, hwritten]
      exact ⟨.added _ rfl (source.state_cloned mode _), hstill⟩

/-- What an owner that is alive does on its desk is an effect in the workspace. -/
theorem act_effect (halive : (workspace.owner? context.owner).isSome = true)
    {action : StateM (Desk σ) α}
    (heffect : ∀ desk, Effect context.owner desk.tracked [] (action desk).2.tracked) :
    Effect context.owner (workspace.trackedBy context.owner) []
        ((Workspace.act context.owner (fun _ => action) workspace).2.trackedBy context.owner) ∧
      ((Workspace.act context.owner (fun _ => action) workspace).2.owner?
        context.owner).isSome = true := by
  obtain ⟨owner, howner⟩ := Option.isSome_iff_exists.1 halive
  obtain ⟨htracked, hstill, -⟩ := Workspace.act_tracked howner fun _ => action
  rw [htracked, Workspace.tracked_by_of_owner howner]
  exact ⟨heffect (workspace.desk owner), hstill⟩

/-- Every action is an effect that records what it writes, and leaves its context alive. -/
theorem perform_effect (halive : (workspace.owner? context.owner).isSome = true)
    (action : ContextAction) :
    Effect context.owner (workspace.trackedBy context.owner) (action.written workspace)
        ((action.perform context workspace).2.trackedBy context.owner) ∧
      ((action.perform context workspace).2.owner? context.owner).isSome = true := by
  cases action with
  | create table => exact act_effect halive (create_effect context table)
  | read kind => exact act_effect halive (effect_of_only_reads (kind.only_reads context))
  | edit id change => exact edit_effect halive id change
  | clone mode id => exact clone_effect halive mode id
  | submit =>
      exact act_effect halive (submit_by_effect context fun schema connection dialect options
        tracked around => (Submission.submitted_exchanges schema connection dialect options
          tracked around).submits)
  | submitAsync =>
      exact act_effect halive (submit_by_effect context fun schema connection dialect options
        tracked around => (Submission.async_submitted_exchanges schema connection dialect options
          tracked around).submits)

end ContextAction

/-! ## Sessions -/

namespace Context

variable (context : Context σ)

/-- A session: actions one after the other. -/
def session (actions : List ContextAction) (workspace : Workspace σ) : Workspace σ :=
  actions.foldl (fun workspace action => (action.perform context workspace).2) workspace

/-- The columns whose tracked write succeeds in a session, with their entities. -/
def writtenIn : List ContextAction → Workspace σ → List (EntityId × String)
  | [], _ => []
  | action :: rest, workspace =>
      action.written workspace ++ writtenIn rest (action.perform context workspace).2

/-- The first action of a session comes before the other ones. -/
theorem session_cons (action : ContextAction) (rest : List ContextAction)
    (workspace : Workspace σ) :
    context.session (action :: rest) workspace
      = context.session rest (action.perform context workspace).2 := rfl

/-- A session goes on where it was left. -/
theorem session_append (actions more : List ContextAction) (workspace : Workspace σ) :
    context.session (actions ++ more) workspace
      = context.session more (context.session actions workspace) :=
  List.foldl_append

/-- The last action of a session comes after the other ones. -/
theorem session_concat (actions : List ContextAction) (action : ContextAction)
    (workspace : Workspace σ) :
    context.session (actions ++ [action]) workspace
      = (action.perform context (context.session actions workspace)).2 :=
  context.session_append actions [action] workspace

variable {context} {workspace : Workspace σ}

/-- A session leaves its context alive. -/
theorem is_alive_session (halive : (workspace.owner? context.owner).isSome = true)
    (actions : List ContextAction) :
    ((context.session actions workspace).owner? context.owner).isSome = true := by
  induction actions generalizing workspace with
  | nil => exact halive
  | cons action rest ih => exact ih (action.perform_effect halive).2

/-- A session keeps the pending set in step with the entities. -/
theorem in_step_session (halive : (workspace.owner? context.owner).isSome = true)
    (hstep : InStep context.owner (workspace.trackedBy context.owner))
    (actions : List ContextAction) :
    InStep context.owner ((context.session actions workspace).trackedBy context.owner) := by
  induction actions generalizing workspace with
  | nil => exact hstep
  | cons action rest ih =>
      obtain ⟨heffect, hstill⟩ := action.perform_effect halive
      exact ih hstill (heffect.in_step hstep)

/-- A session keeps every entity, with what is present in the columns that it does not write. -/
theorem kept_session (halive : (workspace.owner? context.owner).isSome = true)
    (actions : List ContextAction) {id : EntityId} {old : Entity}
    (hold : workspace.store.get? id = some old) :
    ∃ new, (context.session actions workspace).store.get? id = some new ∧
      Effect.Kept id (context.writtenIn actions workspace) old new := by
  induction actions generalizing workspace old with
  | nil => exact ⟨old, hold, .refl id old⟩
  | cons action rest ih =>
      obtain ⟨heffect, hstill⟩ := action.perform_effect halive
      obtain ⟨between, hbetween, hfirst⟩ := heffect.kept hold
      obtain ⟨new, hnew, hrest⟩ := ih hstill hbetween
      exact ⟨new, hnew, hfirst.trans hrest⟩

end Context

end Orm
