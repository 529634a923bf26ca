import Orm.Change.Batch
import Orm.Context.Surroundings
import Orm.Entity.Derived

/-!
# Entities and their owner

A `Desk` is an owner at work: the entities, those of them that wait for submission, and the
surroundings. Edits are made on the store, and the owner is then told what to do about them.
-/

namespace Orm

/-- An owner at work. -/
structure Desk (σ : Type) where
  tracked : Tracked
  around : Surroundings σ

namespace Desk

variable {σ α : Type}

/-- Acts in the surroundings. -/
def surroundings (action : StateM (Surroundings σ) α) : StateM (Desk σ) α := fun desk =>
  let (answer, around) := action desk.around
  (answer, { desk with around := around })

/-- Acts on the entities and the pending set. -/
def tracking (action : StateM Tracked α) : StateM (Desk σ) α := fun desk =>
  let (answer, tracked) := action desk.tracked
  (answer, { desk with tracked := tracked })

/-- Reads from the store of entities. -/
def reading (read : EntityStore → α) : StateM (Desk σ) α := fun desk =>
  (read desk.tracked.store, desk)

/-- The entries by which an owner that announces its notices records one. -/
def announcement : Notice → JournalEntry
  | .track id => .tracked id
  | .forget id => .forgotten id
  | .changed id column => .changed id column

/-- The entries by which the watchers of an owner record a notice. -/
def watched (watchers : Subscriptions Nat) : Notice → List JournalEntry
  | .changed id column => watchers.entries.map fun entry => .property entry.2 id column
  | .track _ | .forget _ => []

/-- Takes in a notice: the pending set is kept up to date and the watchers are told. -/
def receive (announces : Bool) (desk : Desk σ) (notice : Notice) : Desk σ :=
  { tracked := { desk.tracked with pending := desk.tracked.pending.notice notice }
    around := { desk.around with
      journal := desk.around.journal ++ (if announces then [announcement notice] else []) ++
        watched desk.around.watchers notice } }

/-- Takes in some notices in order. -/
def receiveAll (announces : Bool) (notices : List Notice) : StateM (Desk σ) Unit :=
  modify fun desk => notices.foldl (receive announces) desk

/-- Makes an edit of the store and takes in what it says. -/
def edit (announces : Bool) (change : EntityStore → Edited) :
    StateM (Desk σ) (Except EntityError Unit) := fun desk =>
  let edited := change desk.tracked.store
  let desk := { desk with tracked := { desk.tracked with store := edited.store } }
  (edited.outcome, edited.notices.foldl (receive announces) desk)

/-- Adds an entity to the store. -/
def add (entity : Entity) : StateM (Desk σ) EntityId := fun desk =>
  let (id, store) := desk.tracked.store.add entity
  (id, { desk with tracked := { desk.tracked with store := store } })

/-- Adds some entities to the store. -/
def addAll (entities : List Entity) : StateM (Desk σ) (List EntityId) := fun desk =>
  let (ids, store) := desk.tracked.store.addAll entities
  (ids, { desk with tracked := { desk.tracked with store := store } })

/-- Adds an entity that waits for submission from the beginning. -/
def addTracked (announces : Bool) (entity : Entity) : StateM (Desk σ) EntityId := do
  let id ← add entity
  receiveAll announces [.track id]
  return id

end Desk

end Orm
