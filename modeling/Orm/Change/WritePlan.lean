import Orm.Change.DependencyOrder
import Orm.Change.Error
import Orm.Change.Pending

/-!
# Write plans

A `WritePlan` sorts changed entities by what has to be done with them: inserts with parents before
their children, then updates, then deletes with children before their parents. A parent is known by
an explicit link or by the values of the keys.
-/

namespace Orm

/-- The metadata that a submission needs. A question may change the state of what answers it. -/
structure SchemaSource (σ : Type) where
  columns : Table → StateM σ (Except ProviderError ColumnMap)
  relationships : Table → StateM σ (Except ProviderError RelationshipSet)

/-- Changed entities in the order in which they are written. -/
structure WritePlan where
  inserts : List EntityId
  updates : List EntityId
  deletes : List EntityId
deriving DecidableEq, Repr

namespace WritePlan

/-- One write of a plan. -/
structure Step where
  operation : WriteOperation
  entity : EntityId
deriving DecidableEq, Repr

/-- All writes of a plan in order. -/
def steps (plan : WritePlan) : List Step :=
  plan.inserts.map (Step.mk .insert) ++ plan.updates.map (Step.mk .update) ++
    plan.deletes.map (Step.mk .delete)

/-- The number of writes. -/
def size (plan : WritePlan) : Nat :=
  plan.inserts.length + plan.updates.length + plan.deletes.length

/-- The entities in a state that a test accepts. -/
def inState (store : EntityStore) (test : EntityState → Bool) (ids : List EntityId) :
    List EntityId :=
  ids.filter fun id => (store.get? id).any fun entity => test entity.state

/-- Whether a new row has to be inserted. -/
def needsInsert : EntityState → Bool
  | .created => true
  | _ => false

/-- Whether a row has to be updated. -/
def needsUpdate : EntityState → Bool
  | .modified _ => true
  | _ => false

/-- Whether a row has to be deleted. -/
def needsDelete : EntityState → Bool
  | .deletePending => true
  | _ => false

/-- The last place of an entity among some nodes. -/
def lastPlace (nodes : List EntityId) (id : EntityId) : Option Nat :=
  (nodes.zipIdx.filter fun node => node.1 = id).getLast?.map Prod.snd

/-- For each node the nodes that it is linked to as a child, as pairs of a parent and a child. -/
def linkEdges (store : EntityStore) (nodes : List EntityId) : List (Nat × Nat) :=
  nodes.zipIdx.flatMap fun (id, child) =>
    ((store.get? id).map Entity.links).getD [] |>.filterMap fun link =>
      (lastPlace nodes link.parent).map fun parent => (parent, child)

/-- The values of some columns, if all are present and not null. -/
def keyValues (store : EntityStore) (id : EntityId) (columns : List String) :
    Option (List Value) :=
  columns.mapM (store.present? id)

/-- Whether the keys of a child refer to a node through a relationship. -/
def refersTo (store : EntityStore) (relationship : Relationship) (child parent : EntityId) :
    Bool :=
  (store.get? parent).any (fun entity => entity.table = relationship.primaryTable) &&
    match keyValues store child relationship.foreignKeys,
        keyValues store parent relationship.primaryKeys with
    | some foreign, some primary => Value.sameItems primary foreign
    | _, _ => false

/-- The nodes that a child refers to through some relationships, as pairs with the child. -/
def parentsOf (store : EntityStore) (nodes : List EntityId) (relationships : List Relationship)
    (id : EntityId) (child : Nat) : List (Nat × Nat) :=
  relationships.flatMap fun relationship =>
    nodes.zipIdx.filterMap fun (candidate, parent) =>
      if parent ≠ child ∧ refersTo store relationship id candidate then some (parent, child)
      else none

/-- For each of the nodes from a number on, the nodes that its keys refer to. -/
def keyEdgesFrom {σ : Type} (schema : SchemaSource σ) (store : EntityStore)
    (nodes : List EntityId) :
    Nat → List EntityId → StateM σ (Except PersistError (List (Nat × Nat)))
  | _, [] => return .ok []
  | child, id :: rest => do
      match store.get? id with
      | none => keyEdgesFrom schema store nodes (child + 1) rest
      | some entity =>
          match ← schema.relationships entity.table with
          | .error cause => return .error (.metadata cause)
          | .ok set =>
              let found := parentsOf store nodes set.parents id child
              return (← keyEdgesFrom schema store nodes (child + 1) rest).map (found ++ ·)

/-- Pairs of a node and another that its keys refer to, as a parent and a child. -/
def keyEdges {σ : Type} (schema : SchemaSource σ) (store : EntityStore) (nodes : List EntityId) :
    StateM σ (Except PersistError (List (Nat × Nat))) :=
  keyEdgesFrom schema store nodes 0 nodes

/-- Texts in ascending order, each once. -/
def sortedNames (names : List String) : List String :=
  (names.mergeSort fun left right => left ≤ right).eraseReps

/-- The nodes in an order that respects the pairs; nodes that wait for each other are an error that
names their tables. -/
def ordered (store : EntityStore) (nodes : List EntityId) (edges : List (Nat × Nat)) :
    Except PersistError (List EntityId) :=
  let order := DependencyOrder.run nodes.length edges
  if order.sequence.length < nodes.length then
    .error (.dependencyCycle (sortedNames (order.blocked.filterMap fun node =>
      nodes[node]?.bind fun id => (store.get? id).map fun entity => entity.table.fullName)))
  else .ok (order.sequence.filterMap fun node => nodes[node]?)

/-- The plan for some entities, which are given in the order of their creation. -/
def build {σ : Type} (schema : SchemaSource σ) (store : EntityStore) (ids : List EntityId) :
    StateM σ (Except PersistError WritePlan) := do
  let inserts := inState store needsInsert ids
  let deletes := inState store needsDelete ids
  match ← keyEdges schema store inserts with
  | .error error => return .error error
  | .ok insertEdges =>
      match ordered store inserts (linkEdges store inserts ++ insertEdges) with
      | .error error => return .error error
      | .ok inserts =>
          match ← keyEdges schema store deletes with
          | .error error => return .error error
          | .ok deleteEdges =>
              return (ordered store deletes (deleteEdges.map Prod.swap)).map fun deletes =>
                ⟨inserts, inState store needsUpdate ids, deletes⟩

end WritePlan

end Orm
