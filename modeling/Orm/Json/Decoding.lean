import Orm.Data.NameMap
import Orm.Json.Basic

/-!
# Data from JSON documents

Readers of records, maps and alternatives. A record is an object with each of its fields at most
once, other members being ignored, or an array with the fields in order. An alternative is its
name alone or an object with that name as its only member.
-/

namespace Orm

namespace Json

/-- The content of a text. -/
def asText? : Json → Option String
  | .text content => some content
  | _ => none

/-- The truth value of a document. -/
def asBool? : Json → Option Bool
  | .bool flag => some flag
  | _ => none

/-- The integer of a document, if it lies between two bounds. -/
def asIntBetween? (low high : Int) : Json → Option Int
  | .int number => if low ≤ number ∧ number ≤ high then some number else none
  | _ => none

/-- The items of an array. -/
def asItems? : Json → Option (List Json)
  | .array items => some items
  | _ => none

/-- The items of an array, each read by `decode`. -/
def asList? {α : Type} (decode : Json → Option α) (document : Json) : Option (List α) := do
  (← document.asItems?).mapM decode

/-- The map of an object, each member read by `decode`; of two members with one name the later
counts. -/
def asMap? {α : Type} (decode : Json → Option α) : Json → Option (NameMap α)
  | .object members => do
      let entries ← members.mapM fun (name, document) => (decode document).map (name, ·)
      return NameMap.ofList entries
  | _ => none

/-- The fields of a record in the order of `names`, `none` for a missing one. -/
def asFields? (names : List String) : Json → Option (List (Option Json))
  | .object members =>
      if names.all fun name => (members.filter fun member => member.1 = name).length ≤ 1 then
        some (names.map fun name => NameMap.lookup name members)
      else none
  | .array items =>
      if items.length ≤ names.length then
        some (items.map some ++ List.replicate (names.length - items.length) none)
      else none
  | _ => none

/-- The name of an alternative and its content, if any. -/
def asAlternative? : Json → Option (String × Option Json)
  | .text name => some (name, none)
  | .object [(name, content)] => some (name, some content)
  | _ => none

/-- The name of an alternative without content. -/
def asBareAlternative? (document : Json) : Option String :=
  match document.asAlternative? with
  | some (name, none) | some (name, some .null) => some name
  | _ => none

/-- The object of a map, each value written by `encode`. -/
def ofMap {α : Type} (encode : α → Json) (map : NameMap α) : Json :=
  .object (map.toList.map fun entry => (entry.1, encode entry.2))

/-- The array of a list, each item written by `encode`. -/
def ofList {α : Type} (encode : α → Json) (items : List α) : Json :=
  .array (items.map encode)

end Json

end Orm
