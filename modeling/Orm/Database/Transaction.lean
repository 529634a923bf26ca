/-!
# Transactions

How a transaction is opened and what an insert does with a row that exists already.
-/

namespace Orm

/-- What an insert does if its primary key exists already. -/
inductive ConflictPolicy
  | throw
  | update
  | doNothing
deriving DecidableEq, Repr, Inhabited

namespace ConflictPolicy

/-- All policies. -/
def all : List ConflictPolicy := [.throw, .update, .doNothing]

/-- The name of a policy. -/
def label : ConflictPolicy → String
  | .throw => "throw"
  | .update => "update"
  | .doNothing => "do_nothing"

end ConflictPolicy

/-- How far a transaction is kept apart from others. -/
inductive IsolationLevel
  | readUncommitted
  | readCommitted
  | repeatableRead
  | serializable
  | snapshot
  | unspecified
deriving DecidableEq, Repr, Inhabited

namespace IsolationLevel

/-- All levels. -/
def all : List IsolationLevel :=
  [.readUncommitted, .readCommitted, .repeatableRead, .serializable, .snapshot, .unspecified]

/-- The name of a level in a settings file. -/
def label : IsolationLevel → String
  | .readUncommitted => "read_uncommitted"
  | .readCommitted => "read_committed"
  | .repeatableRead => "repeatable_read"
  | .serializable => "serializable"
  | .snapshot => "snapshot"
  | .unspecified => "unspecified"

/-- The name of a level in diagnostics. -/
def title : IsolationLevel → String
  | .readUncommitted => "ReadUncommitted"
  | .readCommitted => "ReadCommitted"
  | .repeatableRead => "RepeatableRead"
  | .serializable => "Serializable"
  | .snapshot => "Snapshot"
  | .unspecified => "Unspecified"

end IsolationLevel

/-- How a transaction is opened; the timeout is a number of seconds. -/
structure TransactionOptions where
  isolation : IsolationLevel
  timeout : Option Nat
deriving DecidableEq, Repr

instance : Inhabited TransactionOptions := ⟨⟨.unspecified, none⟩⟩

/-- The kind of a write. -/
inductive WriteOperation
  | insert
  | update
  | delete
deriving DecidableEq, Repr, Inhabited

/-- The name of a kind of write. -/
def WriteOperation.label : WriteOperation → String
  | .insert => "insert"
  | .update => "update"
  | .delete => "delete"

end Orm
