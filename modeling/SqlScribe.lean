import SqlScribe.Calendar.Format
import SqlScribe.Calendar.Moment
import SqlScribe.Calendar.Pattern
import SqlScribe.ColumnType
import SqlScribe.CommandLine
import SqlScribe.CommandLine.Arguments
import SqlScribe.CommandLine.Layout
import SqlScribe.Configuration
import SqlScribe.Connection
import SqlScribe.Database
import SqlScribe.Dialect
import SqlScribe.Dialect.Access
import SqlScribe.Dialect.Builtin
import SqlScribe.Dialect.DataView
import SqlScribe.Dialect.Db2
import SqlScribe.Dialect.Features
import SqlScribe.Dialect.Identifier
import SqlScribe.Dialect.Like
import SqlScribe.Dialect.Mssql
import SqlScribe.Dialect.Postgres
import SqlScribe.Dialect.Registry
import SqlScribe.Dialect.Sqlite
import SqlScribe.Document.Expr
import SqlScribe.Document.Reading
import SqlScribe.Document.Select
import SqlScribe.Document.Statement
import SqlScribe.Document.Value
import SqlScribe.Fault
import SqlScribe.Guid
import SqlScribe.Json
import SqlScribe.Json.Fault
import SqlScribe.Json.Passing
import SqlScribe.Json.Reader
import SqlScribe.Json.Scalar
import SqlScribe.Json.Source
import SqlScribe.Literal
import SqlScribe.Literal.Reader
import SqlScribe.Main
import SqlScribe.Number.Binary64
import SqlScribe.Number.Binary64.Text
import SqlScribe.Number.Decimal
import SqlScribe.Number.Decimal.Conversion
import SqlScribe.Number.Decimal.Text
import SqlScribe.Number.Integer
import SqlScribe.Proofs.Condition.Agreement
import SqlScribe.Proofs.Condition.Characters
import SqlScribe.Proofs.Condition.Emission
import SqlScribe.Proofs.Condition.Filters
import SqlScribe.Proofs.Condition.Meaning
import SqlScribe.Proofs.Condition.NullAsDefault
import SqlScribe.Proofs.Condition.Patterns
import SqlScribe.Proofs.Condition.Rendering
import SqlScribe.Proofs.Condition.Spelling
import SqlScribe.Proofs.Condition.Syntax
import SqlScribe.Proofs.Groups
import SqlScribe.Proofs.Lexing.Fragments
import SqlScribe.Proofs.Lexing.Stretches
import SqlScribe.Proofs.Literal.Forms
import SqlScribe.Proofs.Literal.Nulls
import SqlScribe.Proofs.Literal.Prepared
import SqlScribe.Proofs.Literal.RoundTrip
import SqlScribe.Proofs.Literal.Texts
import SqlScribe.Proofs.Number.Amount
import SqlScribe.Proofs.Number.Reading
import SqlScribe.Proofs.Statement.Descriptor
import SqlScribe.Proofs.Statement.Inlining
import SqlScribe.Proofs.Statement.Placeholders
import SqlScribe.Proofs.Statement.Rebinding
import SqlScribe.Proofs.Statement.Refilling
import SqlScribe.Proofs.Statement.Script
import SqlScribe.Proofs.Statement.Spans
import SqlScribe.Proofs.Statement.Templates
import SqlScribe.Proofs.Text.Digits
import SqlScribe.Proofs.Value.Identifiers
import SqlScribe.Proofs.Value.Preparation
import SqlScribe.Proofs.Value.Sameness
import SqlScribe.Proofs.Writer.Calls
import SqlScribe.Proofs.Writer.IdealTable
import SqlScribe.Proofs.Writer.Opening
import SqlScribe.Proofs.Writer.Pending
import SqlScribe.Proofs.Writer.Retry
import SqlScribe.Proofs.Writer.Rows
import SqlScribe.Proofs.Writer.Staged
import SqlScribe.Proofs.Writer.Upsert
import SqlScribe.Query.Builder
import SqlScribe.Query.ColumnPath
import SqlScribe.Query.Constant
import SqlScribe.Query.Expr
import SqlScribe.Query.Operator
import SqlScribe.Query.Projection
import SqlScribe.Query.Select
import SqlScribe.Schema
import SqlScribe.Statement
import SqlScribe.Statement.Delete
import SqlScribe.Statement.Expr
import SqlScribe.Statement.Filter
import SqlScribe.Statement.Insert
import SqlScribe.Statement.Update
import SqlScribe.Table
import SqlScribe.Table.Condition
import SqlScribe.Table.Evaluation
import SqlScribe.Table.Query
import SqlScribe.Text.Blank
import SqlScribe.Text.CaseMapping
import SqlScribe.Text.CaseTable
import SqlScribe.Text.Letters
import SqlScribe.Text.Numeral
import SqlScribe.Text.Pieces
import SqlScribe.Text.Printable
import SqlScribe.Text.Quoted
import SqlScribe.Toml
import SqlScribe.Toml.Reader
import SqlScribe.Value
import SqlScribe.Value.Conversion
import SqlScribe.Value.Order
import SqlScribe.Value.Text
import SqlScribe.Writer.Executor
import SqlScribe.Writer.Mode
import SqlScribe.Writer.Session
import SqlScribe.Writer.Staging
import SqlScribe.Proofs.Writer.Appending
import SqlScribe.Proofs.Lexing.Dialects
import SqlScribe.Proofs.Lexing.Expressions
import SqlScribe.Proofs.Lexing.Steps
import SqlScribe.Proofs.Lexing.Structure
import SqlScribe.Proofs.Calendar.Patterns
import SqlScribe.Proofs.Document.Expressions
import SqlScribe.Proofs.Document.Queries
import SqlScribe.Proofs.Json.Numbers
import SqlScribe.Proofs.Json.Strings
import SqlScribe.Proofs.Calendar.Formats
import SqlScribe.Proofs.Document.RoundTrip
import SqlScribe.Proofs.Literal.Temporal
import SqlScribe.Proofs.Value.Ordering
import SqlScribe.Proofs.Writer.Distinct
import SqlScribe.Proofs.Writer.Matching
import SqlScribe.Proofs.Lexing.Names
import SqlScribe.Proofs.Statement.KeyTests
import SqlScribe.Proofs.Writer.Naming
import SqlScribe.Proofs.Condition.Support
import SqlScribe.Proofs.Value.Sending
import SqlScribe.Proofs.Table.Results
import SqlScribe.Proofs.Value.Mixture
import SqlScribe.Proofs.Condition.Combining
import SqlScribe.Proofs.Condition.ShortForms
import SqlScribe.Proofs.Condition.TextBounds
import SqlScribe.Proofs.Table.Filling
import SqlScribe.Proofs.Table.Hints
import SqlScribe.Proofs.Table.Dependence
import SqlScribe.Proofs.Newcomers
import SqlScribe.Proofs.Query.Grouping
import SqlScribe.Proofs.Document.Invariants
import SqlScribe.Proofs.Document.Constants
import SqlScribe.Proofs.Value.Returning
import SqlScribe.Proofs.Writer.Prepared
import SqlScribe.Proofs.Lexing.Identifiers
import SqlScribe.Proofs.Writer.Balance
import SqlScribe.Proofs.Writer.Recovery
import SqlScribe.Proofs.Writer.Batches
import SqlScribe.Proofs.Condition.Lists
import SqlScribe.Proofs.Query.Caps
import SqlScribe.Proofs.Statement.RowCaps
import SqlScribe.Proofs.Value.Preorder
import SqlScribe.Proofs.Writer.Latest
import SqlScribe.Proofs.Table.Overflow
import SqlScribe.Proofs.Statement.ParameterLimit
import SqlScribe.Proofs.Query.Classes
import SqlScribe.Proofs.Dialect.Resolution
