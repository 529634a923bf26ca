/-!
# Settings documents

The data of a TOML document as far as settings need it: texts, truth values, integers, arrays and
tables. Numbers that are no integers, dates and times keep their written form, since no setting
takes one. A table remembers how it came to be, which decides whether it may still be extended.
-/

namespace Orm

/-- How a table came to be: by a header of its own, by the header of a table inside it, by a dotted
key, or between braces. -/
inductive TableOrigin
  | header
  | implied
  | dotted
  | inline
deriving DecidableEq, Repr

/-- The data of a settings document. -/
inductive Toml
  | text (content : String)
  | bool (flag : Bool)
  | int (number : Int)
  | numeral (written : String)
  | moment (written : String)
  | array (items : List Toml)
  | tableArray (items : List Toml)
  | table (origin : TableOrigin) (entries : List (String × Toml))
deriving Inhabited

/-- Why a text is no document: it breaks a rule of the format, or a key has too many parts. -/
inductive TomlError
  | malformed
  | longKey
deriving DecidableEq, Repr

/-- The text of a document error. -/
def TomlError.message : TomlError → String
  | .malformed => "TOML parse error"
  | .longKey => "recursion limit\n"

namespace Toml

/-- The entries of a table under their names. -/
abbrev Entries := List (String × Toml)

/-- The value under a key. -/
def get? (entries : Entries) (key : String) : Option Toml :=
  (entries.find? fun entry => entry.1 = key).map Prod.snd

/-- The entries with a value under a key, at the place of the old one or at the end. -/
def put (entries : Entries) (key : String) (value : Toml) : Entries :=
  if entries.any fun entry => entry.1 = key then
    entries.map fun entry => if entry.1 = key then (key, value) else entry
  else entries ++ [(key, value)]

/-- Changes the table at a path below some entries. The tables on the way are made if they are
missing; the way leads through the last table of an array of tables. -/
def within (change : Entries → Option Entries) : List String → Entries → Option Entries
  | [], entries => change entries
  | key :: path, entries => do
      let value ← match get? entries key with
        | none => (within change path []).map (.table .implied)
        | some (.table .inline _) => none
        | some (.table origin inner) => (within change path inner).map (.table origin)
        | some (.tableArray items) =>
            match items.reverse with
            | .table origin inner :: before =>
                (within change path inner).map fun inner =>
                  .tableArray (before.reverse ++ [.table origin inner])
            | _ => none
        | some _ => none
      return put entries key value

/-- Adds a value under a dotted key; the tables on the way belong to dotted keys or are implied. -/
def addEntry (value : Toml) : List String → Entries → Option Entries
  | [], _ => none
  | [key], entries => if (get? entries key).isSome then none else some (put entries key value)
  | key :: path, entries => do
      let table ← match get? entries key with
        | none => (addEntry value path []).map (.table .dotted)
        | some (.table .dotted inner) => (addEntry value path inner).map (.table .dotted)
        | some (.table .implied inner) => (addEntry value path inner).map (.table .implied)
        | some _ => none
      return put entries key table

/-- Adds the table of a header, which may have been implied by an earlier one. -/
def addTable (key : String) (entries : Entries) : Option Entries :=
  match get? entries key with
  | none => some (put entries key (.table .header []))
  | some (.table .implied inner) => some (put entries key (.table .header inner))
  | some _ => none

/-- Adds a table to an array of tables. -/
def addArrayTable (key : String) (entries : Entries) : Option Entries :=
  match get? entries key with
  | none => some (put entries key (.tableArray [.table .header []]))
  | some (.tableArray items) =>
      some (put entries key (.tableArray (items ++ [.table .header []])))
  | some _ => none

end Toml

end Orm
