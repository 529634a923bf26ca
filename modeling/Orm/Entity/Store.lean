import Orm.Entity.Basic

/-!
# The store of entities

All entities in the order of their creation. An edit of the store gives what the owners of the
edited entities are told: that an entity has to be written, that it has not, or that a column
changed.
-/

namespace Orm

/-- What the owner of an entity is told. -/
inductive Notice
  | track (id : EntityId)
  | forget (id : EntityId)
  | changed (id : EntityId) (column : String)
deriving DecidableEq, Repr

/-- All entities in the order of their creation. -/
structure EntityStore where
  entities : Array Entity
deriving DecidableEq, Inhabited

/-- The outcome of an edit: the store afterwards, what owners are told, and the error if the edit
could not be completed. -/
structure Edited where
  store : EntityStore
  notices : List Notice
  outcome : Except EntityError Unit

namespace EntityStore

/-- The store without entities. -/
def empty : EntityStore := ⟨#[]⟩

/-- The entity with an identity. -/
def get? (store : EntityStore) (id : EntityId) : Option Entity := store.entities[id.index]?

/-- The store with one more entity, which gets the next identity. -/
def add (store : EntityStore) (entity : Entity) : EntityId × EntityStore :=
  (⟨store.entities.size⟩, ⟨store.entities.push entity⟩)

/-- The store with some more entities. -/
def addAll (store : EntityStore) : List Entity → List EntityId × EntityStore
  | [] => ([], store)
  | entity :: rest =>
      let (id, store) := store.add entity
      let (ids, store) := addAll store rest
      (id :: ids, store)

/-- The store with one entity changed. -/
def modify (store : EntityStore) (id : EntityId) (change : Entity → Entity) : EntityStore :=
  ⟨store.entities.modify id.index change⟩

/-- The value of a column of an entity that is present and not null. -/
def present? (store : EntityStore) (id : EntityId) (column : String) : Option Value :=
  (store.get? id).bind fun entity => entity.present? column

/-- An edit of a column of an entity. -/
def write (store : EntityStore) (id : EntityId) (column : String) (value : Option Value) :
    Edited :=
  match store.get? id with
  | none => ⟨store, [], .ok ()⟩
  | some entity =>
      match entity.write column value with
      | .ok edited => ⟨store.modify id fun _ => edited, [.track id, .changed id column], .ok ()⟩
      | .error error => ⟨store, [], .error error⟩

/-- Marks an entity for deletion; one that was never written is discarded. -/
def delete (store : EntityStore) (id : EntityId) : Edited :=
  match (store.get? id).map Entity.state with
  | some .created =>
      ⟨store.modify id fun entity => { entity with state := .deleted }, [.forget id], .ok ()⟩
  | some .unchanged | some (.modified _) =>
      ⟨store.modify id fun entity => { entity with state := .deletePending }, [.track id], .ok ()⟩
  | some .deletePending | some .deleted | none => ⟨store, [], .ok ()⟩

/-- Copies the known keys of a parent into the columns of a child that refer to them, up to the
first that cannot be stored. -/
def copyKeys (child parent : EntityId) : List (String × String) → EntityStore → Edited
  | [], store => ⟨store, [], .ok ()⟩
  | (primary, foreign) :: rest, store =>
      match store.present? parent primary with
      | none => copyKeys child parent rest store
      | some value =>
          let first := store.write child foreign (some value)
          match first.outcome with
          | .error error => ⟨first.store, first.notices, .error error⟩
          | .ok () =>
              let others := copyKeys child parent rest first.store
              { others with notices := first.notices ++ others.notices }

/-- Makes a child refer to a parent: the known keys are copied, and the link is kept for those that
the database assigns. -/
def linkParent (store : EntityStore) (child : EntityId) (relationship : Relationship)
    (parent : EntityId) : Edited :=
  match store.get? child, store.get? parent with
  | some childEntity, some parentEntity =>
      if relationship.foreignTable ≠ childEntity.table ∨
          relationship.primaryTable ≠ parentEntity.table then
        ⟨store, [], .error
          (.relationshipMismatch relationship.name parentEntity.table childEntity.table)⟩
      else
        let copied := copyKeys child parent relationship.keyPairs store
        match copied.outcome with
        | .error _ => copied
        | .ok () =>
            { copied with
              store := copied.store.modify child fun entity =>
                { entity with links := entity.links ++ [⟨relationship, parent⟩] } }
  | _, _ => ⟨store, [], .ok ()⟩

end EntityStore

end Orm
