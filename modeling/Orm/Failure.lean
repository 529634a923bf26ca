import Orm.Change.Error
import Orm.Context.GroupedRow
import Orm.Schema.CacheFile
import Orm.Settings

/-!
# Failures of a context

A `Failure` is an error of any part of the library with its classification: the part it comes from
and its kind. Each error of a part has one.
-/

namespace Orm

/-- The kinds of failures. -/
inductive FailureKind
  | invalidOperation
  | invariantViolation
  | notFound
  | internal
  | conflict
  | unsupported
deriving DecidableEq, Repr

/-- The name of a kind. -/
def FailureKind.label : FailureKind → String
  | .invalidOperation => "invalid_operation"
  | .invariantViolation => "invariant_violation"
  | .notFound => "not_found"
  | .internal => "internal"
  | .conflict => "conflict"
  | .unsupported => "unsupported"

/-- The parts that a failure can come from. -/
inductive FailureOrigin
  | query
  | entity
  | aggregate
  | persist
  | provider
  | cache
  | config
  | driver
deriving DecidableEq, Repr

/-- The name of a part. -/
def FailureOrigin.label : FailureOrigin → String
  | .query => "query"
  | .entity => "entity"
  | .aggregate => "aggregate"
  | .persist => "persist"
  | .provider => "provider"
  | .cache => "cache"
  | .config => "config"
  | .driver => "driver"

/-- A write that failed: the entity, its table and the operation. -/
structure WriteFailure where
  entity : EntityId
  table : Table
  operation : WriteOperation
deriving DecidableEq, Repr

/-- The text of a failed write. -/
def WriteFailure.message (failure : WriteFailure) : String :=
  failure.operation.label ++ " on " ++ failure.table.fullName ++ " (entity " ++
    failure.entity.label ++ ") failed"

/-- A classified error, with the write that it belongs to if there is one. -/
structure Failure where
  kind : FailureKind
  origin : FailureOrigin
  message : String
  write : Option WriteFailure
deriving DecidableEq, Repr

/-- A failure that belongs to no write. -/
def Failure.plain (kind : FailureKind) (origin : FailureOrigin) (message : String) : Failure :=
  ⟨kind, origin, message, none⟩

/-- The classification of a failure. -/
def Failure.label (failure : Failure) : String := failure.origin.label ++ ":" ++ failure.kind.label

/-- The failure that a query error is. -/
def QueryError.failure (error : QueryError) : Failure :=
  .plain .invariantViolation .query error.message

/-- The failure that a conversion error is. -/
def CoercionError.failure (error : CoercionError) : Failure :=
  .plain .unsupported .entity error.message

/-- The failure that an entity error is. -/
def EntityError.failure (error : EntityError) : Failure :=
  let kind := match error with
    | .invalidOperation _ _ _ => FailureKind.invalidOperation
    | .unknownColumn _ _ => .notFound
    | .relationshipMismatch _ _ _ => .invariantViolation
    | .coercion _ _ _ | .mapping _ _ _ => .unsupported
  .plain kind .entity error.message

/-- The failure that an aggregate error is. -/
def AggregateError.failure (error : AggregateError) : Failure :=
  let kind := match error with
    | .noMatchingColumn _ _ _ => FailureKind.notFound
    | .unsupportedRowShape _ | .coercion _ => .unsupported
  .plain kind .aggregate error.message

/-- The failure that a submission error is. -/
def PersistError.failure (error : PersistError) : Failure :=
  match error with
  | .statement entity table operation _ =>
      ⟨.internal, .persist, error.message, some ⟨entity, table, operation⟩⟩
  | .dependencyCycle _ => .plain .invariantViolation .persist error.message
  | .missingPrimaryKey _ _ _ => .plain .invalidOperation .persist error.message
  | .unsupportedConflictPolicy _ _ => .plain .unsupported .persist error.message
  | .conflict _ _ _ => .plain .conflict .persist error.message
  | .metadata _ | .transaction _ => .plain .internal .persist error.message

/-- The failure that a provider error is. -/
def ProviderError.failure (error : ProviderError) : Failure :=
  let kind := match error with
    | .offlineMetadata _ _ | .unknownTable _ => FailureKind.notFound
    | .argumentCount _ => .invalidOperation
    | .query _ => .invariantViolation
    | .driver _ | .unexpectedResult _ _ => .internal
  .plain kind .provider error.message

/-- The failure that the refusal of a database is. -/
def DriverError.failure (error : DriverError) : Failure :=
  .plain .internal .driver error.message

/-- The failure that a cache error is. -/
def CacheError.failure (error : CacheError) : Failure :=
  .plain .internal .cache error.message

/-- The failure that a settings error is. -/
def SettingsError.failure (error : SettingsError) : Failure :=
  .plain .invariantViolation .config error.message

end Orm
