import Polystore.Access
import Polystore.Cache.CachedRow
import Polystore.Cache.Key
import Polystore.Cache.Merge
import Polystore.Cache.Store
import Polystore.Condition
import Polystore.Copies
import Polystore.Decimal.Binary64
import Polystore.Decimal.Notation
import Polystore.Decimal.Rounding
import Polystore.Decimal.Shortest
import Polystore.Decoding.IntegerText
import Polystore.Decoding.Issue
import Polystore.Decoding.Record
import Polystore.Decoding.Scalar
import Polystore.Entries
import Polystore.Fault
import Polystore.Json.Document
import Polystore.Json.Failure
import Polystore.Json.Token
import Polystore.Logging
import Polystore.Metadata.Catalog
import Polystore.Metadata.Document
import Polystore.Metadata.File
import Polystore.Metadata.Freshness
import Polystore.Metadata.Integrity
import Polystore.Metadata.Reader
import Polystore.Metadata.Record
import Polystore.Operator
import Polystore.Order
import Polystore.Planning.Plan
import Polystore.Planning.Planner
import Polystore.Planning.Record
import Polystore.Proofs.Access.Denials
import Polystore.Proofs.Access.Granting
import Polystore.Proofs.Access.Labels
import Polystore.Proofs.Access.OneTable
import Polystore.Proofs.Access.RowRules
import Polystore.Proofs.Cache.Completion
import Polystore.Proofs.Cache.KeyTexts
import Polystore.Proofs.Cache.Keys
import Polystore.Proofs.Cache.Mirroring
import Polystore.Proofs.Cache.Serving
import Polystore.Proofs.Cache.Union
import Polystore.Proofs.Cache.Usability
import Polystore.Proofs.Decimal.Digits
import Polystore.Proofs.Decimal.Nearest
import Polystore.Proofs.Decimal.Notation
import Polystore.Proofs.Decimal.Ratios
import Polystore.Proofs.Decimal.Shortest
import Polystore.Proofs.Entries.Exclusive
import Polystore.Proofs.Entries.Firsts
import Polystore.Proofs.Entries.Keyed
import Polystore.Proofs.Entries.Lookup
import Polystore.Proofs.Entries.Ordered
import Polystore.Proofs.Json.Canonical
import Polystore.Proofs.Json.Limits
import Polystore.Proofs.Json.Numbers
import Polystore.Proofs.Metadata.Copies
import Polystore.Proofs.Metadata.CopyGraph
import Polystore.Proofs.Metadata.Integrity
import Polystore.Proofs.Metadata.Loading
import Polystore.Proofs.Metadata.Lookups
import Polystore.Proofs.Metadata.Reordering
import Polystore.Proofs.Metadata.Violations
import Polystore.Proofs.Metadata.WellFormed
import Polystore.Proofs.Planning.Agreement
import Polystore.Proofs.Planning.Assignments
import Polystore.Proofs.Planning.CacheHits
import Polystore.Proofs.Planning.CacheReads
import Polystore.Proofs.Planning.Dialects
import Polystore.Proofs.Planning.Monotonicity
import Polystore.Proofs.Planning.Preference
import Polystore.Proofs.Planning.Reordering
import Polystore.Proofs.Planning.Routing
import Polystore.Proofs.Planning.Unreachable
import Polystore.Proofs.Schema.Conversion
import Polystore.Proofs.Schema.Laws
import Polystore.Proofs.Schema.Memory.Declarations
import Polystore.Proofs.Schema.Memory.MetaData
import Polystore.Proofs.Schema.Memory.Order
import Polystore.Proofs.Semantics.Agreement
import Polystore.Proofs.Semantics.Chains
import Polystore.Proofs.Semantics.Evaluation
import Polystore.Proofs.Semantics.Hiding
import Polystore.Proofs.Semantics.LeftJoins
import Polystore.Proofs.Semantics.Lookups
import Polystore.Proofs.Semantics.Noninterference
import Polystore.Proofs.Semantics.Visibility
import Polystore.Proofs.Service.CacheDegradation
import Polystore.Proofs.Service.CachedAccess
import Polystore.Proofs.Service.CachedLookups
import Polystore.Proofs.Service.Calls
import Polystore.Proofs.Service.Cancelling
import Polystore.Proofs.Service.Counting
import Polystore.Proofs.Service.Division
import Polystore.Proofs.Service.Execution
import Polystore.Proofs.Service.Refusals
import Polystore.Proofs.Service.Rendering
import Polystore.Proofs.Service.Reordering
import Polystore.Proofs.Service.Repetitions
import Polystore.Proofs.Service.RequestedNames
import Polystore.Proofs.Service.Stages
import Polystore.Proofs.Service.Targets
import Polystore.Proofs.Service.Writing
import Polystore.Proofs.Sql.BackQuotes
import Polystore.Proofs.Sql.Clauses
import Polystore.Proofs.Sql.Collecting
import Polystore.Proofs.Sql.Comparisons
import Polystore.Proofs.Sql.Conjuncts
import Polystore.Proofs.Sql.Counting
import Polystore.Proofs.Sql.Grouping
import Polystore.Proofs.Sql.Joining
import Polystore.Proofs.Sql.Lexing
import Polystore.Proofs.Sql.Paging
import Polystore.Proofs.Sql.Parameters
import Polystore.Proofs.Sql.Predicates
import Polystore.Proofs.Sql.Reasons
import Polystore.Proofs.Sql.Restrictions
import Polystore.Proofs.Sql.SelectList
import Polystore.Proofs.Sql.Shapes
import Polystore.Proofs.Sql.Spelling
import Polystore.Proofs.Statement.ColumnAccess
import Polystore.Proofs.Statement.CopyNames
import Polystore.Proofs.Statement.Labels
import Polystore.Proofs.Statement.Naming
import Polystore.Proofs.Statement.PhysicalKeys
import Polystore.Proofs.Statement.Placement
import Polystore.Proofs.Statement.Restoring
import Polystore.Proofs.Statement.Scoping
import Polystore.Proofs.Statement.Words
import Polystore.Proofs.Text.Quoted
import Polystore.Proofs.Text.Utf8
import Polystore.Proofs.Trace.Interruption
import Polystore.Proofs.Trace.Outcomes
import Polystore.Proofs.Trace.Recording
import Polystore.Proofs.Trace.Stretches
import Polystore.Proofs.Validation.Acceptance
import Polystore.Proofs.Validation.Reordering
import Polystore.Proofs.Value.Inspection
import Polystore.Proofs.Value.Sameness
import Polystore.Proofs.Value.Writing
import Polystore.Query.Basic
import Polystore.Query.ColumnRef
import Polystore.Query.Reader
import Polystore.Refusal
import Polystore.Runtime
import Polystore.Schema.Basic
import Polystore.Schema.Memory.Basic
import Polystore.Schema.Memory.Declaration
import Polystore.Schema.Memory.MetaData
import Polystore.Schema.Memory.Order
import Polystore.Schema.Memory.Types
import Polystore.Schema.Tables
import Polystore.Service.Course
import Polystore.Service.Query
import Polystore.Settings.Basic
import Polystore.Settings.EnvFile
import Polystore.Sql.Collecting
import Polystore.Sql.Dialect
import Polystore.Sql.Generation
import Polystore.Sql.Piece
import Polystore.Statement.Basic
import Polystore.Statement.Name
import Polystore.Statement.Reader
import Polystore.Statement.Record
import Polystore.Statement.Resolution
import Polystore.Template.Fault
import Polystore.Template.Filling
import Polystore.Template.Layout
import Polystore.Template.Numeral
import Polystore.Template.Pieces
import Polystore.Template.Referent
import Polystore.Text.Blank
import Polystore.Text.Capitals
import Polystore.Text.Case
import Polystore.Text.CaseMaps
import Polystore.Text.Digit
import Polystore.Text.Hex
import Polystore.Text.Letters
import Polystore.Text.Lines
import Polystore.Text.Printable
import Polystore.Text.Quoted
import Polystore.Text.Surrogate
import Polystore.Text.Utf8
import Polystore.Trace
import Polystore.Validation.Issue
import Polystore.Validation.Operators
import Polystore.Validation.Query
import Polystore.Value
import Polystore.Value.Equality
import Polystore.Value.Finite
import Polystore.Value.Text
import Polystore.Value.Whole
import Polystore.Vocabulary
