import Orm.Toml.Scalar
import Orm.Toml.Written

/-!
# Reading settings documents

`Toml.read` reads a text as a TOML document. First the whole text has to be a sequence of headers,
keys and values; then the document is built from them in order, and the first fault is the one
that is reported.
-/

namespace Orm

namespace Toml

/-- The greatest number of parts of a key. -/
abbrev greatestKey : Nat := 80

/-- What a part of a document gives, if it is well formed. -/
def wellFormed {α : Type} (part : Option α) : Except TomlError α :=
  match part with
  | none => .error .malformed
  | some content => .ok content

/-- The names of a key. -/
def pathOf (key : List Lexeme) : Except TomlError (List String) := do
  let path ← wellFormed (key.mapM Lexeme.keyPart?)
  if greatestKey < path.length then throw .longKey
  return path

mutual
/-- The value that is written. -/
def ofWritten : WrittenValue → Except TomlError Toml
  | .plain lexeme => wellFormed lexeme.value?
  | .array items => do return .array (← ofItems items)
  | .inline entries => do return .table .inline (← ofInline entries [])

/-- The items of an array. -/
def ofItems : List WrittenValue → Except TomlError (List Toml)
  | [] => .ok []
  | item :: rest => do
      let value ← ofWritten item
      return value :: (← ofItems rest)

/-- Some entries with those of a table between braces after them. -/
def ofInline : List (List Lexeme × WrittenValue) → Entries → Except TomlError Entries
  | [], entries => .ok entries
  | (key, value) :: rest, entries => do
      let path ← pathOf key
      let value ← ofWritten value
      ofInline rest (← wellFormed (addEntry value path entries))
end

/-- Adds a table for a header, by `add` under the last name of its key. -/
def addHeader (add : String → Entries → Option Entries) (path : List String) (entries : Entries) :
    Except TomlError Entries :=
  wellFormed (path.getLast?.bind fun key => within (add key) path.dropLast entries)

/-- The document of some lines, given the path of the table that entries now belong to. -/
def ofLines : List String → List WrittenLine → Entries → Except TomlError Entries
  | _, [], entries => .ok entries
  | _, .header key :: rest, entries => do
      let path ← pathOf key
      ofLines path rest (← addHeader addTable path entries)
  | _, .arrayHeader key :: rest, entries => do
      let path ← pathOf key
      ofLines path rest (← addHeader addArrayTable path entries)
  | current, .entry key value :: rest, entries => do
      let path ← pathOf key
      let value ← ofWritten value
      ofLines current rest (← wellFormed (within (addEntry value path) current entries))

/-- The document that a text holds; a byte-order mark in front is passed over. -/
def read (text : String) : Except TomlError Entries := do
  let chars := text.toList
  let body := if chars.head? = some (Char.ofNat 0xfeff) then chars.drop 1 else chars
  let lines ← wellFormed (WrittenLine.readAll? (body.length + 1) body)
  ofLines [] lines []

end Toml

end Orm
