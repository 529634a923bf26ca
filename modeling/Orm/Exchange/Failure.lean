import Orm.Exchange.Members
import Orm.Failure

/-!
# Exchanged failures

A failure is shown by its classification and its text. An error of a single part also has the name
of its cause.
-/

namespace Orm

/-- The members of a failure besides its classification. -/
def Failure.details (failure : Failure) : List (String × Json) :=
  [("message", .text failure.message)] ++
    (if failure.kind = .invalidOperation then [("invalid_operation", .bool true)] else []) ++
    failure.write.toList.map fun write =>
      ("write", .array [.ofNat write.entity.number,
        .array [.text write.table.schema, .text write.table.name], .text write.operation.label,
        .text write.message])

/-- The exchanged form of a failure. -/
def Failure.toExchange (failure : Failure) : Json :=
  .object (("error", .text failure.label) :: failure.details)

/-- The members of a failure with a named cause. -/
def Failure.members (failure : Failure) (cause : String) : List (String × Json) :=
  ("class", .text failure.label) :: ("error", .text cause) :: failure.details

/-- The name of a query error. -/
def QueryError.title : QueryError → String
  | .nestedBaseTable _ => "NestedBaseTable"
  | .duplicateDistinct => "DuplicateDistinct"
  | .duplicateSkip _ _ => "DuplicateSkip"
  | .incompatibleTake _ _ => "IncompatibleTake"
  | .duplicateCount => "DuplicateCount"
  | .duplicateSetOperation => "DuplicateSetOperation"
  | .setOperationWithTake => "SetOperationWithTake"
  | .setOperationWithCount => "SetOperationWithCount"
  | .unknownAlias _ => "UnknownAlias"
  | .aggregateArgumentRequired _ => "AggregateArgumentRequired"
  | .groupingWithoutKeys _ => "GroupingWithoutKeys"

/-- The name of a conversion error. -/
def CoercionError.title : CoercionError → String
  | .incompatible _ _ => "Incompatible"
  | .outOfRange _ _ => "OutOfRange"
  | .unreadable _ _ => "Parse"

/-- The name of an entity error. -/
def EntityError.title : EntityError → String
  | .invalidOperation _ _ _ => "InvalidOperation"
  | .unknownColumn _ _ => "UnknownColumn"
  | .coercion _ _ _ => "Coercion"
  | .relationshipMismatch _ _ _ => "RelationshipMismatch"
  | .mapping _ _ _ => "Mapping"

/-- The name of an aggregate error. -/
def AggregateError.title : AggregateError → String
  | .noMatchingColumn _ _ _ => "NoMatchingColumn"
  | .unsupportedRowShape _ => "UnsupportedRowShape"
  | .coercion _ => "Coercion"

/-- The name of a submission error. -/
def PersistError.title : PersistError → String
  | .statement _ _ _ _ => "Statement"
  | .dependencyCycle _ => "DependencyCycle"
  | .missingPrimaryKey _ _ _ => "MissingPrimaryKey"
  | .unsupportedConflictPolicy _ _ => "UnsupportedConflictPolicy"
  | .conflict _ _ _ => "Conflict"
  | .metadata _ => "Metadata"
  | .transaction _ => "Transaction"

/-- The name of a provider error. -/
def ProviderError.title : ProviderError → String
  | .offlineMetadata _ _ => "OfflineMetadata"
  | .unknownTable _ => "UnknownTable"
  | .argumentCount _ => "ArgumentCount"
  | .query _ => "Query"
  | .driver _ => "Driver"
  | .unexpectedResult _ _ => "UnexpectedResult"

/-- The exchanged form of a query error. -/
def QueryError.toExchange (error : QueryError) : Json :=
  .object (error.failure.members error.title)

/-- The exchanged form of a conversion error. -/
def CoercionError.toExchange (error : CoercionError) : Json :=
  .object (error.failure.members error.title)

/-- The members of the exchanged form of an entity error. -/
def EntityError.members (error : EntityError) : List (String × Json) :=
  error.failure.members error.title

/-- The exchanged form of an entity error. -/
def EntityError.toExchange (error : EntityError) : Json := .object error.members

/-- The exchanged form of an aggregate error. -/
def AggregateError.toExchange (error : AggregateError) : Json :=
  .object (error.failure.members error.title)

/-- The exchanged form of a submission error. -/
def PersistError.toExchange (error : PersistError) : Json :=
  .object (error.failure.members error.title)

/-- The exchanged form of a provider error. -/
def ProviderError.toExchange (error : ProviderError) : Json :=
  .object (error.failure.members error.title)

end Orm
