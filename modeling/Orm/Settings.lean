import Orm.Database.Transaction
import Orm.Files
import Orm.Text.Blank
import Orm.Toml.Reading

/-!
# Settings of a context

`Settings.read` reads the settings of a context from a TOML text and checks that they fit
together. A name that is no setting is refused, and a setting that is missing has a default.
-/

namespace Orm

open Text

/-- The settings of a context; `timeout` is a number of seconds. -/
structure Settings where
  connectionString : String
  schemaCachePath : Option String
  useOfflineCache : Bool
  transaction : TransactionOptions
  defaultConflict : ConflictPolicy
deriving DecidableEq, Repr

/-- Why settings cannot be used. -/
inductive SettingsError
  | unreadable (path : String) (cause : FileError)
  | document (error : TomlError)
  | pathRequired
  | connectionRequired
deriving DecidableEq, Repr

/-- The text of a settings error. -/
def SettingsError.message : SettingsError → String
  | .unreadable path cause => s!"cannot read config at {path}: " ++ cause.message
  | .document error => "invalid config: " ++ error.message
  | .pathRequired => "invalid config: use_offline_cache requires schema_cache_path"
  | .connectionRequired =>
      "invalid config: connection_string is required unless use_offline_cache is set"

namespace Toml

/-- The fields of a record in the order of `names`: of a table all of whose keys are among them, or
of an array that lists the fields in order. -/
def fields? (names : List String) : Toml → Option (List (Option Toml))
  | .table _ entries =>
      if entries.all fun entry => entry.1 ∈ names then some (names.map (get? entries)) else none
  | .array items | .tableArray items =>
      some ((items.map some ++ List.replicate names.length none).take names.length)
  | _ => none

/-- The content of a text. -/
def asText? : Toml → Option String
  | .text content => some content
  | _ => none

/-- The truth value of a setting. -/
def asBool? : Toml → Option Bool
  | .bool flag => some flag
  | _ => none

/-- A natural number of 64 bits. -/
def asNat64? : Toml → Option Nat
  | .int number => if 0 ≤ number ∧ number < UInt64.size then some number.toNat else none
  | _ => none

/-- Whether a value is an empty table or array. -/
def isHollow : Toml → Bool
  | .table _ entries => entries.isEmpty
  | .array items | .tableArray items => items.isEmpty
  | _ => false

/-- The choice that a value names, alone or as the only key of a table of nothing. -/
def asChoice? {α : Type} (label : α → String) (choices : List α) : Toml → Option α
  | .text name => choices.find? fun choice => label choice = name
  | .table _ [(name, content)] =>
      if content.isHollow then choices.find? fun choice => label choice = name else none
  | _ => none

/-- A field with a default. -/
def field? {α : Type} (missing : α) (decode : Toml → Option α) : Option Toml → Option α
  | none => some missing
  | some value => decode value

end Toml

namespace Settings

/-- The options of a transaction in a settings document. -/
def transactionOf? (value : Toml) : Option TransactionOptions :=
  match value.fields? ["isolation", "timeout_secs"] with
  | some [isolation, timeout] => do
      let level := Toml.asChoice? IsolationLevel.label IsolationLevel.all
      return ⟨← Toml.field? .unspecified level isolation,
        ← Toml.field? none (fun value => value.asNat64?.map some) timeout⟩
  | _ => none

/-- The policy for conflicts in a settings document. -/
def conflictOf? (value : Toml) : Option ConflictPolicy :=
  match value.fields? ["default_conflict"] with
  | some [policy] =>
      Toml.field? .throw (Toml.asChoice? ConflictPolicy.label ConflictPolicy.all) policy
  | _ => none

/-- The settings of a document. -/
def ofToml? (document : Toml) : Option Settings :=
  match document.fields?
      ["connection_string", "schema_cache_path", "use_offline_cache", "transaction",
        "persistence"] with
  | some [connection, path, offline, transaction, persistence] => do
      return ⟨← Toml.field? "" Toml.asText? connection,
        ← Toml.field? none (fun value => value.asText?.map some) path,
        ← Toml.field? false Toml.asBool? offline,
        ← Toml.field? default transactionOf? transaction,
        ← Toml.field? .throw conflictOf? persistence⟩
  | _ => none

/-- Checks that settings fit together: an offline cache has a file, and without one there is a
database to connect to. -/
def validate (settings : Settings) : Except SettingsError Unit :=
  if settings.useOfflineCache ∧ settings.schemaCachePath.isNone then .error .pathRequired
  else if !settings.useOfflineCache ∧ (trim settings.connectionString).isEmpty then
    .error .connectionRequired
  else .ok ()

/-- The settings that a text holds. A document that no settings can be made of counts as malformed,
too. -/
def read (text : String) : Except SettingsError Settings := do
  let entries ← (Toml.read text).mapError .document
  let settings ← (Toml.wellFormed (ofToml? (.table .header entries))).mapError .document
  settings.validate
  return settings

/-- The settings in the file at a path. -/
def load (files : FileStore) (path : String) : Except SettingsError Settings :=
  match files.read path with
  | .error cause => .error (.unreadable path cause)
  | .ok text => read text

end Settings

end Orm
