import Orm.Audit.CommandEvent
import Orm.Audit.Digest
import Orm.Audit.Subscriptions
import Orm.Calendar.Moment
import Orm.Calendar.Pattern
import Orm.Change.Batch
import Orm.Change.DependencyOrder
import Orm.Change.Error
import Orm.Change.Flight
import Orm.Change.Pending
import Orm.Change.Submission
import Orm.Change.WritePlan
import Orm.Change.WriteStatement
import Orm.Context.Basic
import Orm.Context.Desk
import Orm.Context.GroupedRow
import Orm.Context.Queries
import Orm.Context.Surroundings
import Orm.Context.Writes
import Orm.Data.NameMap
import Orm.Database.Command
import Orm.Database.Connection
import Orm.Database.ProviderError
import Orm.Database.Transaction
import Orm.Entity.Basic
import Orm.Entity.Derived
import Orm.Entity.Diagnostics
import Orm.Entity.State
import Orm.Entity.Store
import Orm.Exchange.Command
import Orm.Exchange.Failure
import Orm.Exchange.Journal
import Orm.Exchange.Members
import Orm.Exchange.Query
import Orm.Exchange.Schema
import Orm.Exchange.Value
import Orm.Exchange.Workspace
import Orm.Failure
import Orm.Files
import Orm.Json.Basic
import Orm.Json.Decoding
import Orm.Json.Number
import Orm.Json.Reading
import Orm.Number.Binary64
import Orm.Number.Decimal
import Orm.Number.Reading
import Orm.Number.Rounding
import Orm.Number.Shortest
import Orm.Proofs.Action
import Orm.Proofs.Audit.RawText
import Orm.Proofs.Change.Arrangement
import Orm.Proofs.Change.BlockedTables
import Orm.Proofs.Change.BracketedNames
import Orm.Proofs.Change.Calls
import Orm.Proofs.Change.DeleteOrder
import Orm.Proofs.Change.Dependencies
import Orm.Proofs.Change.DependencyOrder
import Orm.Proofs.Change.Edits
import Orm.Proofs.Change.FailedLinks
import Orm.Proofs.Change.Fills
import Orm.Proofs.Change.Fitting
import Orm.Proofs.Change.Flight
import Orm.Proofs.Change.Gains
import Orm.Proofs.Change.InFlight
import Orm.Proofs.Change.Issued
import Orm.Proofs.Change.LeastOrder
import Orm.Proofs.Change.Ledger
import Orm.Proofs.Change.LinkOrder
import Orm.Proofs.Change.Linking
import Orm.Proofs.Change.Meaning
import Orm.Proofs.Change.Nulls
import Orm.Proofs.Change.ParentKeys
import Orm.Proofs.Change.Planned
import Orm.Proofs.Change.Recording
import Orm.Proofs.Change.Retry
import Orm.Proofs.Change.Rollback
import Orm.Proofs.Change.Settlement
import Orm.Proofs.Change.StatementForm
import Orm.Proofs.Change.Submission
import Orm.Proofs.Change.Transaction
import Orm.Proofs.Change.WriteNames
import Orm.Proofs.Change.WritePlan
import Orm.Proofs.Change.WriteStatement
import Orm.Proofs.Change.Written
import Orm.Proofs.Context.Abandonment
import Orm.Proofs.Context.Acceptance
import Orm.Proofs.Context.Announcement
import Orm.Proofs.Context.Asynchrony
import Orm.Proofs.Context.BoundValues
import Orm.Proofs.Context.CalledProcedures
import Orm.Proofs.Context.CarvedColumns
import Orm.Proofs.Context.CarvedRows
import Orm.Proofs.Context.Combination
import Orm.Proofs.Context.Compilation
import Orm.Proofs.Context.Conditions
import Orm.Proofs.Context.Counting
import Orm.Proofs.Context.DeletedRows
import Orm.Proofs.Context.Discovery
import Orm.Proofs.Context.Effects
import Orm.Proofs.Context.GroupedRow
import Orm.Proofs.Context.Groups
import Orm.Proofs.Context.LoadedKeys
import Orm.Proofs.Context.Lookups
import Orm.Proofs.Context.MergedProcedures
import Orm.Proofs.Context.Observation
import Orm.Proofs.Context.Omissions
import Orm.Proofs.Context.OutputNames
import Orm.Proofs.Context.Reads
import Orm.Proofs.Context.Refusals
import Orm.Proofs.Context.Repetition
import Orm.Proofs.Context.ResultTable
import Orm.Proofs.Context.SavedCache
import Orm.Proofs.Context.SelectedColumns
import Orm.Proofs.Context.Session
import Orm.Proofs.Context.SingleKeys
import Orm.Proofs.Context.Tracking
import Orm.Proofs.Data.NameMap
import Orm.Proofs.Entity.Edits
import Orm.Proofs.Entity.QualifiedNames
import Orm.Proofs.Entity.QuotedAliases
import Orm.Proofs.Entity.Store
import Orm.Proofs.Files
import Orm.Proofs.Query.Flattening
import Orm.Proofs.Query.Interleaving
import Orm.Proofs.Query.LastOperator
import Orm.Proofs.Query.Places
import Orm.Proofs.Schema.Cache
import Orm.Proofs.Schema.FullName
import Orm.Proofs.Schema.Merge
import Orm.Proofs.Schema.MergedFiles
import Orm.Proofs.Schema.Procedures
import Orm.Proofs.Sql.Body
import Orm.Proofs.Sql.ConditionNames
import Orm.Proofs.Sql.Grammar
import Orm.Proofs.Sql.Items
import Orm.Proofs.Sql.JoinOrder
import Orm.Proofs.Sql.Masking
import Orm.Proofs.Sql.Pieces
import Orm.Proofs.Sql.Precedence
import Orm.Proofs.Sql.ProcedureCall
import Orm.Proofs.Sql.Reading
import Orm.Proofs.Sql.RowWrite
import Orm.Proofs.Sql.SelectList
import Orm.Proofs.Sql.Spelling
import Orm.Proofs.Sql.Statement
import Orm.Proofs.Sql.StatementNames
import Orm.Proofs.Sql.Tokens
import Orm.Proofs.Text.Occurrence
import Orm.Proofs.Value.TextColumns
import Orm.Query.Expr
import Orm.Query.Flat
import Orm.Query.Operator
import Orm.Schema.Cache
import Orm.Schema.CacheFile
import Orm.Schema.Column
import Orm.Schema.Document
import Orm.Schema.Procedure
import Orm.Schema.Relationship
import Orm.Schema.Snapshot
import Orm.Schema.Table
import Orm.Scripted.Catalog
import Orm.Scripted.Database
import Orm.Settings
import Orm.Sql.Brackets
import Orm.Sql.Dialect
import Orm.Sql.DoubleQuotes
import Orm.Sql.GroupedLayout
import Orm.Sql.Lookup
import Orm.Sql.Select
import Orm.Text.Blank
import Orm.Text.CodeRanges
import Orm.Text.Escaped
import Orm.Text.LowerCase
import Orm.Text.Search
import Orm.Text.WordCharacter
import Orm.Toml.Basic
import Orm.Toml.Lexeme
import Orm.Toml.Reading
import Orm.Toml.Scalar
import Orm.Toml.Written
import Orm.Value.Affinity
import Orm.Value.Basic
import Orm.Value.Coercion
import Orm.Value.Document
import Orm.Value.Typed
import Orm.Workspace.Basic
import Orm.Workspace.Owner
