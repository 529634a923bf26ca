/-!
# Identity and life cycle of entities

An entity is known by its number, which is given in the order of creation. Its state says what has
to be written for it: nothing, an insert, an update of some columns, or a delete.
-/

namespace Orm

/-- The identity of an entity: its place in the order of creation. -/
structure EntityId where
  index : Nat
deriving DecidableEq, Repr, Inhabited

instance : LT EntityId := ⟨fun left right => left.index < right.index⟩

instance (left right : EntityId) : Decidable (left < right) :=
  inferInstanceAs (Decidable (left.index < right.index))

/-- The number of an entity; the first one has the number one. -/
def EntityId.number (id : EntityId) : Nat := id.index + 1

/-- The number of an entity in decimal. -/
def EntityId.label (id : EntityId) : String := toString id.number

/-- What has to be written for an entity. The columns of a modified one are in the order of their
first edit. -/
inductive EntityState
  | unchanged
  | created
  | modified (columns : List String)
  | deletePending
  | deleted
deriving DecidableEq, Repr, Inhabited

namespace EntityState

/-- Whether something has to be written. -/
def isDirty : EntityState → Bool
  | .created | .modified _ | .deletePending => true
  | .unchanged | .deleted => false

/-- Whether columns may be edited. -/
def acceptsEdits : EntityState → Bool
  | .deletePending | .deleted => false
  | .unchanged | .created | .modified _ => true

/-- The columns that were edited since the row was last written. -/
def modifiedColumns : EntityState → List String
  | .modified columns => columns
  | .unchanged | .created | .deletePending | .deleted => []

/-- The state after an edit of a column. -/
def recordEdit (column : String) : EntityState → EntityState
  | .unchanged => .modified [column]
  | .modified columns =>
      .modified (if column ∈ columns then columns else columns ++ [column])
  | .created => .created
  | .deletePending => .deletePending
  | .deleted => .deleted

/-- The name of a state. -/
def label : EntityState → String
  | .unchanged => "unchanged"
  | .created => "created"
  | .modified _ => "modified"
  | .deletePending => "pending delete"
  | .deleted => "deleted"

end EntityState

end Orm
