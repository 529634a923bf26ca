import Orm.Entity.Store
import Orm.Text.LowerCase
import Orm.Text.WordCharacter

/-!
# Entities from entities

A clone of an entity is a new row with its values but not its key. A carved entity holds those
columns of a joined row that belong to one alias: `stripAlias` recognises them by the ways in which
databases write a column with its alias. `Entity.mapOnto` assigns the columns of an entity to the
fields of a record by their names.
-/

namespace Orm

open Text

/-- What a clone is for. One for an insert leaves out nulls and is new; one for an update is
modified in all its columns. -/
inductive CloneMode
  | insert
  | update
deriving DecidableEq, Repr

/-- A clone of an entity for an owner. -/
def Entity.cloned (entity : Entity) (mode : CloneMode) (owner : Option OwnerId) : Entity :=
  let values := entity.values.filter fun name value =>
    !entity.columns.isPrimaryKey name && (mode = .update || !value.isNull)
  let state := match mode with
    | .insert => .created
    | .update => .modified values.keys
  { Entity.ofValues entity.table entity.columns owner values state with
    onConflict := entity.onConflict }

/-- What follows a word at the front of a text, the case of the letters A to Z not counting. -/
def afterFrontIgnoringCase? : List Char → List Char → Option (List Char)
  | [], text => some text
  | _ :: _, [] => none
  | c :: word, d :: text =>
      if c.toLower = d.toLower then afterFrontIgnoringCase? word text else none

/-- What stands between an opening and a closing mark, if a text has both. -/
def between? (opening closing : Char) : List Char → Option (List Char)
  | [] => none
  | c :: rest =>
      if c = opening ∧ rest.getLast? = some closing then some rest.dropLast else none

/-- A name without the marks of a quoted one. -/
def unquoted (name : List Char) : List Char :=
  ((between? '[' ']' name).or ((between? '`' '`' name).or (between? '"' '"' name))).getD name

/-- The ways in which an alias can stand before a column. -/
def aliasFronts (aliasName : List Char) : List (List Char) :=
  ['[' :: aliasName ++ [']', '.'], '`' :: aliasName ++ ['`', '.'], '"' :: aliasName ++ ['"', '.'],
    aliasName ++ ['.'], aliasName ++ ['_']]

/-- The name of a column without its alias, if it has that alias and a name of its own. -/
def stripAlias (column aliasName : String) : Option String :=
  match (aliasFronts aliasName.toList).findSome? fun front =>
      afterFrontIgnoringCase? front column.toList with
  | none => none
  | some rest =>
      let name := unquoted rest
      if name.isEmpty then none else some (String.ofList name)

/-- The columns of a joined row that belong to an alias, as a row of its table. -/
def Entity.carved (entity : Entity) (aliasName : String) (table : Table) (columns : ColumnMap) :
    Entity :=
  .materialized table columns entity.owner
    (entity.values.toList.filterMap fun entry =>
      (stripAlias entry.1 aliasName).map fun column => (column, entry.2))

/-- A name as it counts for a mapping: only letters and digits, without case. -/
def fieldKey (name : String) : List Char :=
  (name.toList.filter isAlphanumeric).flatMap lowerChar

/-- Assigns to each field the first column with the same name, passed through `transform`; fields
without a column are left out. -/
def Entity.mapOnto {β : Type} (entity : Entity) (assign : String → Value → Except CoercionError β)
    (transform : String → Value → Value) :
    List String → Except EntityError (List (String × β))
  | [] => .ok []
  | field :: rest =>
      match entity.values.toList.find? fun entry => fieldKey entry.1 == fieldKey field with
      | none => mapOnto entity assign transform rest
      | some (column, value) => do
          let assigned ← (assign field (transform column value)).mapError (.mapping column field)
          return (field, assigned) :: (← mapOnto entity assign transform rest)

end Orm
