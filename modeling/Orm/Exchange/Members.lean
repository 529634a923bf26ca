import Orm.Json.Decoding

/-!
# Members of exchanged documents

Other programs describe values, queries and schemas to the library by JSON documents, and get its
answers as such. The exchange form is apart from the form in which schemas are saved: it is short,
and a member that is null counts as left out.
-/

namespace Orm.Json

variable {α β : Type}

/-- A member of an object. -/
def member? (document : Json) (name : String) : Option Json :=
  match document with
  | .object members => NameMap.lookup name members
  | _ => none

/-- A member of an object that is not null. -/
def given? (document : Json) (name : String) : Option Json :=
  match document.member? name with
  | some .null => none
  | other => other

/-- A member that must be there. -/
def required? (document : Json) (name : String) (decode : Json → Option α) : Option α := do
  decode (← document.member? name)

/-- A member that may be left out. -/
def optional? (document : Json) (name : String) (decode : Json → Option α) :
    Option (Option α) :=
  match document.given? name with
  | none => some none
  | some item => (decode item).map some

/-- A member that may be left out, with what stands for it then. -/
def memberOr? (document : Json) (name : String) (missing : α) (decode : Json → Option α) :
    Option α :=
  match document.given? name with
  | none => some missing
  | some item => decode item

/-- A member that is a text. -/
def textMember? (document : Json) (name : String) : Option String :=
  document.required? name asText?

/-- A member that is a list and may be left out. -/
def listMember? (document : Json) (name : String) (decode : Json → Option α) :
    Option (List α) :=
  document.memberOr? name [] (asList? decode)

/-- An integer. -/
def asInt? : Json → Option Int
  | .int number => some number
  | _ => none

/-- A natural number. -/
def asNat? : Json → Option Nat
  | .int number => if 0 ≤ number then some number.toNat else none
  | _ => none

/-- A pair, written as an array of its parts. -/
def asPair? (first : Json → Option α) (second : Json → Option β) : Json → Option (α × β)
  | .array [a, b] => do return (← first a, ← second b)
  | _ => none

/-- The item that a text names. -/
def asNamed? (names : List (String × α)) (document : Json) : Option α := do
  names.lookup (← document.asText?)

/-- A natural number as a document. -/
def ofNat (number : Nat) : Json := .int number

/-- An item or null. -/
def ofOption (encode : α → Json) : Option α → Json
  | none => .null
  | some item => encode item

/-- An option whose presence shows even if the item is null. -/
def ofPresence (encode : α → Json) : Option α → Json
  | none => .text "none"
  | some item => .object [("some", encode item)]

/-- A pair of a name and an item for each entry. -/
def ofPairs (encode : α → Json) (entries : List (String × α)) : Json :=
  .array (entries.map fun entry => .array [.text entry.1, encode entry.2])

/-- A result or its error. -/
def ofResult {ε : Type} (error : ε → Json) (encode : α → Json) : Except ε α → Json
  | .error cause => error cause
  | .ok answer => encode answer

/-- The name of an item. -/
def ofNamed [DecidableEq α] (names : List (String × α)) (item : α) : Json :=
  .text (((names.find? fun entry => entry.2 = item).map Prod.fst).getD "")

end Orm.Json
