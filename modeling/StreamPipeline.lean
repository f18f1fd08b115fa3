import StreamPipeline.Command.Check
import StreamPipeline.Command.Options
import StreamPipeline.Command.Printout
import StreamPipeline.Command.Run
import StreamPipeline.Compile.Build
import StreamPipeline.Compile.Plan
import StreamPipeline.Compile.Run
import StreamPipeline.Compile.Sinks
import StreamPipeline.Compile.Views
import StreamPipeline.Decimal.Layout
import StreamPipeline.Decimal.Reader
import StreamPipeline.Decimal.Shortest
import StreamPipeline.Dialogue.Basic
import StreamPipeline.Dialogue.Call
import StreamPipeline.Draft.Basic
import StreamPipeline.Draft.Checked
import StreamPipeline.Draft.Document
import StreamPipeline.Draft.Location
import StreamPipeline.Draft.Placeholder
import StreamPipeline.Draft.Reader
import StreamPipeline.Draft.Validation
import StreamPipeline.Gateway.Client
import StreamPipeline.Gateway.Jobs
import StreamPipeline.Gateway.Message
import StreamPipeline.Gateway.Operation
import StreamPipeline.Gateway.Turns
import StreamPipeline.Http.Exchange
import StreamPipeline.Http.Status
import StreamPipeline.Http.Url
import StreamPipeline.Http.Wire
import StreamPipeline.Json.Diagnostic
import StreamPipeline.Json.Printer
import StreamPipeline.Json.Reader
import StreamPipeline.Json.Record
import StreamPipeline.Json.Tagged
import StreamPipeline.Json.Value
import StreamPipeline.Main
import StreamPipeline.Pipeline.Basic
import StreamPipeline.Pipeline.Codec
import StreamPipeline.Pipeline.Dependencies
import StreamPipeline.Pipeline.Error
import StreamPipeline.Pipeline.Prepared
import StreamPipeline.Pipeline.Problem
import StreamPipeline.Pipeline.Settings
import StreamPipeline.Postgres.Administration
import StreamPipeline.Postgres.Message
import StreamPipeline.Postgres.Wire
import StreamPipeline.Schema.Codec
import StreamPipeline.Schema.Column
import StreamPipeline.Schema.LogicalType
import StreamPipeline.Schema.Mapping
import StreamPipeline.Schema.TypeParser
import StreamPipeline.Schema.TypeToken
import StreamPipeline.Sql.Destination
import StreamPipeline.Sql.Interval
import StreamPipeline.Sql.Quote
import StreamPipeline.Sql.Redact
import StreamPipeline.Sql.Relations
import StreamPipeline.Sql.Token
import StreamPipeline.Statement.Session
import StreamPipeline.Statement.SinkTable
import StreamPipeline.Statement.SourceView
import StreamPipeline.Statement.TransformView
import StreamPipeline.Template.Basic
import StreamPipeline.Template.Helper
import StreamPipeline.Template.Order
import StreamPipeline.Template.Output
import StreamPipeline.Template.Reader
import StreamPipeline.Template.Render
import StreamPipeline.Template.Scope
import StreamPipeline.Template.Tag
import StreamPipeline.Text.Basic
import StreamPipeline.Text.Blank
import StreamPipeline.Text.Lowercase
import StreamPipeline.Text.Quoted
import StreamPipeline.Text.Ranges
import StreamPipeline.Text.WordChar
import StreamPipeline.Yaml.Cursor
import StreamPipeline.Yaml.Decode
import StreamPipeline.Yaml.Node
import StreamPipeline.Yaml.NodeReader
import StreamPipeline.Yaml.PlainScalar
import StreamPipeline.Yaml.Property
import StreamPipeline.Yaml.ScalarText
import StreamPipeline.Yaml.Token
import StreamPipeline.Yaml.TokenReader
import StreamPipeline.Proofs.Results
import StreamPipeline.Proofs.Draft.Entities
import StreamPipeline.Proofs.Compile.InStep
import StreamPipeline.Proofs.Compile.Runs
import StreamPipeline.Proofs.Pipeline.Order
import StreamPipeline.Proofs.Compile.Sequence
import StreamPipeline.Proofs.Compile.Along
import StreamPipeline.Proofs.Compile.Phases
import StreamPipeline.Proofs.Schema.TokenText
import StreamPipeline.Proofs.Schema.Lexemes
import StreamPipeline.Proofs.Schema.Steps
import StreamPipeline.Proofs.Schema.Lengths
import StreamPipeline.Proofs.Schema.Spelling
import StreamPipeline.Proofs.Schema.SpellingRead
import StreamPipeline.Proofs.Schema.ColumnText
import StreamPipeline.Proofs.Schema.Verbatim
import StreamPipeline.Proofs.Schema.Printed
import StreamPipeline.Proofs.Compile.Columns
import StreamPipeline.Proofs.Sql.Masking
import StreamPipeline.Proofs.Sql.Written
import StreamPipeline.Proofs.Sql.Query
import StreamPipeline.Proofs.Sql.ReadingSteps
import StreamPipeline.Proofs.Sql.QueryRelations
import StreamPipeline.Proofs.Sql.TablePosition
import StreamPipeline.Proofs.Compile.Secrets
import StreamPipeline.Proofs.Pipeline.References
import StreamPipeline.Proofs.Pipeline.TopologicalOrder
import StreamPipeline.Proofs.Draft.Names
import StreamPipeline.Proofs.Statement.Objects
import StreamPipeline.Proofs.Pipeline.Preparation
import StreamPipeline.Proofs.Schema.Unsupported
import StreamPipeline.Proofs.Compile.Layouts
import StreamPipeline.Proofs.Compile.Objects
import StreamPipeline.Proofs.Compile.Unsupported
import StreamPipeline.Proofs.Sql.Mentions
import StreamPipeline.Proofs.Sql.MentionedRelations
import StreamPipeline.Proofs.Pipeline.Readers
import StreamPipeline.Proofs.Compile.Acceptance
import StreamPipeline.Proofs.Compile.Calls
import StreamPipeline.Proofs.Compile.Outline
import StreamPipeline.Proofs.Compile.Log
import StreamPipeline.Proofs.Compile.DryRun
import StreamPipeline.Proofs.Compile.Report
import StreamPipeline.Proofs.Compile.Refusals
import StreamPipeline.Proofs.Compile.Invariants
import StreamPipeline.Proofs.Compile.ColumnLists
import StreamPipeline.Proofs.Draft.Rules
import StreamPipeline.Proofs.Draft.BrokenRules
import StreamPipeline.Proofs.Draft.Reading
import StreamPipeline.Proofs.Draft.Verdict
import StreamPipeline.Proofs.Draft.RequiredFields
import StreamPipeline.Proofs.Schema.GrammarDerived
import StreamPipeline.Proofs.Draft.Placeholders
import StreamPipeline.Proofs.Draft.WrittenScalars
import StreamPipeline.Proofs.Pipeline.FirstOffence
import StreamPipeline.Proofs.Pipeline.ReportedDependencies
import StreamPipeline.Proofs.Schema.Nesting
import StreamPipeline.Proofs.Schema.Brackets
import StreamPipeline.Proofs.Postgres.Statements
import StreamPipeline.Proofs.Dialogue.SideBySide
import StreamPipeline.Proofs.Postgres.Server
import StreamPipeline.Proofs.Postgres.Provisioning
import StreamPipeline.Proofs.Sql.Skipped
import StreamPipeline.Proofs.Schema.Leftmost
import StreamPipeline.Proofs.Statement.QuotedNames
import StreamPipeline.Proofs.Statement.OptionClauses
import StreamPipeline.Proofs.Gateway.Fetching
import StreamPipeline.Proofs.Gateway.Polling
import StreamPipeline.Proofs.Gateway.Status
import StreamPipeline.Proofs.Gateway.Paging
import StreamPipeline.Proofs.Postgres.QualifiedNames
import StreamPipeline.Proofs.Statement.LoginOptions
import StreamPipeline.Proofs.Text.Trimming
import StreamPipeline.Proofs.Sql.IntervalUnits
import StreamPipeline.Proofs.Draft.Kinds
import StreamPipeline.Proofs.Draft.PrimaryKeys
import StreamPipeline.Proofs.Statement.WindowCalls
import StreamPipeline.Proofs.Gateway.Descriptions
import StreamPipeline.Proofs.Sql.MaskedTwice
import StreamPipeline.Proofs.Compile.Registry
import StreamPipeline.Proofs.Schema.PositionedTypes
import StreamPipeline.Proofs.Compile.Handles
import StreamPipeline.Proofs.Gateway.Turns
import StreamPipeline.Proofs.Command.Closing
