import Orm.Workspace.Owner

/-!
# Workspaces

A `Workspace` has several owners that share the entities, the files and the outside world. An
action of an owner is one on its `Desk`; `Workspace.edit` finds the owner who has to be told of an
edit by the entity that is edited.
-/

namespace Orm

/-- Owners that share entities, files and the outside world. -/
structure Workspace (σ : Type) where
  store : EntityStore
  owners : Array (Owner σ)
  journal : List JournalEntry
  files : FileStore
  outside : σ

namespace Workspace

variable {σ α : Type}

/-- The workspace without owners. -/
def start (files : FileStore) (outside : σ) : Workspace σ := ⟨.empty, #[], [], files, outside⟩

/-- Adds an owner. -/
def enter (owner : Owner σ) : StateM (Workspace σ) OwnerId := fun workspace =>
  (⟨workspace.owners.size⟩, { workspace with owners := workspace.owners.push owner })

/-- An owner that is alive. -/
def owner? (workspace : Workspace σ) (id : OwnerId) : Option (Owner σ) :=
  workspace.owners[id.index]?.filter Owner.isAlive

/-- The owner of an entity, if it has one that is alive. -/
def ownerOf? (workspace : Workspace σ) (id : EntityId) : Option (OwnerId × Owner σ) := do
  let owner ← (← workspace.store.get? id).owner
  return (owner, ← workspace.owner? owner)

/-- The desk of an owner. -/
def desk (workspace : Workspace σ) (owner : Owner σ) : Desk σ where
  tracked := ⟨workspace.store, owner.pending⟩
  around := ⟨owner.cache, owner.events, owner.watchers, workspace.journal, workspace.files,
    workspace.outside⟩

/-- The workspace after an owner left its desk. -/
def leave (workspace : Workspace σ) (id : OwnerId) (desk : Desk σ) : Workspace σ where
  store := desk.tracked.store
  owners := workspace.owners.modify id.index fun owner =>
    { owner with
      pending := desk.tracked.pending
      cache := desk.around.cache
      events := desk.around.events
      watchers := desk.around.watchers }
  journal := desk.around.journal
  files := desk.around.files
  outside := desk.around.outside

/-- Lets an owner that is alive act. -/
def act (id : OwnerId) (action : Owner σ → StateM (Desk σ) α) :
    StateM (Workspace σ) (Option α) := fun workspace =>
  match workspace.owner? id with
  | none => (none, workspace)
  | some owner =>
      let (answer, desk) := action owner (workspace.desk owner)
      (some answer, workspace.leave id desk)

/-- Ends the life of an owner. -/
def drop (id : OwnerId) : StateM (Workspace σ) Unit :=
  modify fun workspace =>
    { workspace with
      owners := workspace.owners.modify id.index fun owner => { owner with isAlive := false } }

/-- Changes an entity without telling anyone. -/
def alter (id : EntityId) (change : Entity → Entity) : StateM (Workspace σ) Unit :=
  modify fun workspace => { workspace with store := workspace.store.modify id change }

/-- Adds an entity without telling anyone. -/
def add (entity : Entity) : StateM (Workspace σ) EntityId := fun workspace =>
  let (id, store) := workspace.store.add entity
  (id, { workspace with store := store })

/-- Adds an entity of which its owner, if it has one that is alive, is told at once. -/
def addTracked (entity : Entity) : StateM (Workspace σ) EntityId := do
  let told ← match entity.owner with
    | none => pure none
    | some owner => act owner fun owner => Desk.addTracked owner.kind.announces entity
  match told with
  | some id => return id
  | none => add entity

/-- Edits an entity and tells its owner, if it has one that is alive. -/
def edit (id : EntityId) (change : EntityStore → Edited) :
    StateM (Workspace σ) (Except EntityError Unit) := fun workspace =>
  match workspace.ownerOf? id with
  | some (ownerId, owner) =>
      let (outcome, desk) := Desk.edit owner.kind.announces change (workspace.desk owner)
      (outcome, workspace.leave ownerId desk)
  | none =>
      let edited := change workspace.store
      (edited.outcome, { workspace with store := edited.store })

/-- Clones an entity for an owner, who is told of it. -/
def cloneFor (owner : Option OwnerId) (mode : CloneMode) (id : EntityId) :
    StateM (Workspace σ) (Option EntityId) := do
  match (← get).store.get? id with
  | none => return none
  | some entity => return some (← addTracked (entity.cloned mode owner))

/-- Clones an entity for its own owner. -/
def clone (mode : CloneMode) (id : EntityId) : StateM (Workspace σ) (Option EntityId) := do
  cloneFor (((← get).ownerOf? id).map Prod.fst) mode id

/-- The columns of a table as the owner of an entity knows them. -/
def columnsFor (id : EntityId) (table : Table) : StateM (Workspace σ) ColumnMap := do
  match (← get).ownerOf? id with
  | none => return .empty
  | some (ownerId, _) =>
      return (← act ownerId fun owner => owner.columns table).getD .empty

/-- The columns of a joined row that belong to an alias, as an entity. It is made once for each
alias. -/
def carve (id : EntityId) (aliasName : String) (table : Table) :
    StateM (Workspace σ) (Option EntityId) := do
  match (← get).store.get? id with
  | none => return none
  | some entity =>
      match entity.aliases.find? aliasName with
      | some known => return some known
      | none =>
          -- The catalog may be asked for the columns before there is a new entity.
          let part ← add (entity.carved aliasName table (← columnsFor id table))
          alter id fun entity => { entity with aliases := entity.aliases.insert aliasName part }
          return some part

end Workspace

end Orm
