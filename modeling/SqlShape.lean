import SqlShape.Bindings
import SqlShape.Builder
import SqlShape.Cacheability
import SqlShape.Cli.Arguments
import SqlShape.Cli.Help
import SqlShape.Cli.Output
import SqlShape.Cli.Parameters
import SqlShape.Cli.Run
import SqlShape.Cli.Table
import SqlShape.Command.Expression
import SqlShape.Command.Statement
import SqlShape.Compiler
import SqlShape.Config
import SqlShape.Config.Json
import SqlShape.Config.Toml
import SqlShape.Dialect.Basic
import SqlShape.Dialect.Functions
import SqlShape.Dialect.Lexeme
import SqlShape.Dialect.Literal
import SqlShape.Double.Basic
import SqlShape.Double.Shortest
import SqlShape.Double.Text
import SqlShape.Error
import SqlShape.Expr.Basic
import SqlShape.Expr.Select
import SqlShape.Json.Basic
import SqlShape.Json.Reader
import SqlShape.Json.Token
import SqlShape.Json.Writer
import SqlShape.LogicalType
import SqlShape.Lowering
import SqlShape.Main
import SqlShape.Method.Bytes
import SqlShape.Method.Equality
import SqlShape.Method.Membership
import SqlShape.Method.Numbers
import SqlShape.Method.Rule
import SqlShape.Method.Standard
import SqlShape.Method.Strings
import SqlShape.Operator
import SqlShape.Placeholder
import SqlShape.Plan
import SqlShape.PlanCache
import SqlShape.Query.Expr
import SqlShape.Query.Json
import SqlShape.Query.Method
import SqlShape.Query.Shape
import SqlShape.Specialization
import SqlShape.Specialization.Nullness
import SqlShape.Specialization.Pass
import SqlShape.Specialization.Reading
import SqlShape.Text.Blank
import SqlShape.Text.Case
import SqlShape.Text.CaseContext
import SqlShape.Text.CaseTable
import SqlShape.Text.Cluster
import SqlShape.Text.Columns
import SqlShape.Text.Emoji
import SqlShape.Text.Ligature
import SqlShape.Text.Quoted
import SqlShape.Text.Range
import SqlShape.Text.Visible
import SqlShape.Text.Width
import SqlShape.Toml.Lexical
import SqlShape.Toml.Reader
import SqlShape.Toml.Scalar
import SqlShape.Toml.Table
import SqlShape.TypeMapping
import SqlShape.Value.Basic
import SqlShape.Value.Text
import SqlShape.Proofs.Bookkeeping
import SqlShape.Proofs.CachedPlans
import SqlShape.Proofs.CachedRefusals
import SqlShape.Proofs.Clauses
import SqlShape.Proofs.Complement
import SqlShape.Proofs.Completion
import SqlShape.Proofs.Conversion
import SqlShape.Proofs.Declared
import SqlShape.Proofs.Delivery
import SqlShape.Proofs.Documents
import SqlShape.Proofs.Evaluation
import SqlShape.Proofs.Exactness
import SqlShape.Proofs.Extremes
import SqlShape.Proofs.Grammar
import SqlShape.Proofs.HexBytes
import SqlShape.Proofs.Legibility
import SqlShape.Proofs.Lowered
import SqlShape.Proofs.Misreading
import SqlShape.Proofs.MissingParameters
import SqlShape.Proofs.Native
import SqlShape.Proofs.Nodes
import SqlShape.Proofs.NormalForm
import SqlShape.Proofs.NullAnswers
import SqlShape.Proofs.Nullness
import SqlShape.Proofs.Numerals
import SqlShape.Proofs.Outcome
import SqlShape.Proofs.Parameters
import SqlShape.Proofs.Pass
import SqlShape.Proofs.Patterns
import SqlShape.Proofs.Payloads
import SqlShape.Proofs.Phrasing
import SqlShape.Proofs.Placeholders
import SqlShape.Proofs.PlainParameters
import SqlShape.Proofs.PlainValues
import SqlShape.Proofs.PlanCount
import SqlShape.Proofs.Refusals
import SqlShape.Proofs.RelationalReading
import SqlShape.Proofs.Reuse
import SqlShape.Proofs.Rounding
import SqlShape.Proofs.Scanner
import SqlShape.Proofs.SearchedRows
import SqlShape.Proofs.Searches
import SqlShape.Proofs.Sentence
import SqlShape.Proofs.Slots
import SqlShape.Proofs.Spelling
import SqlShape.Proofs.Statement
import SqlShape.Proofs.Structural
import SqlShape.Proofs.Supply
import SqlShape.Proofs.Tokens
import SqlShape.Proofs.TrialOrder
import SqlShape.Proofs.TwoValuedReading
import SqlShape.Proofs.TypePreservation
import SqlShape.Proofs.Typing
import SqlShape.Proofs.Unambiguity
import SqlShape.Proofs.Uses
import SqlShape.Proofs.Widening
import SqlShape.Proofs.Writing
import SqlShape.Proofs.ByteSearch
