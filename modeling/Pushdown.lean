import Pushdown.Capability.Basic
import Pushdown.Capability.Set
import Pushdown.Configuration
import Pushdown.Enumeration
import Pushdown.Event
import Pushdown.Failure.Basic
import Pushdown.Failure.Code
import Pushdown.Function.Aggregate
import Pushdown.Function.Scalar
import Pushdown.Generation.Dialect
import Pushdown.Generation.Error
import Pushdown.Generation.Expression
import Pushdown.Generation.Leaf
import Pushdown.Generation.Rule
import Pushdown.Generation.Statement
import Pushdown.Json.Buffer
import Pushdown.Json.Decode
import Pushdown.Json.Fault
import Pushdown.Json.Number
import Pushdown.Json.Reader
import Pushdown.Json.Skip
import Pushdown.Json.Value
import Pushdown.LogLevel
import Pushdown.Metadata.Mapping
import Pushdown.Metadata.Remote
import Pushdown.Metadata.Snapshot
import Pushdown.Metadata.Type
import Pushdown.Number.Binary64
import Pushdown.Number.Decimal
import Pushdown.Number.Digits
import Pushdown.Number.Layout
import Pushdown.Number.Power
import Pushdown.Number.Shortest
import Pushdown.Postgres.Adapter
import Pushdown.Postgres.Capabilities
import Pushdown.Postgres.Dialect
import Pushdown.Postgres.Discovery
import Pushdown.Postgres.Folding
import Pushdown.Postgres.Projection
import Pushdown.Postgres.Rules
import Pushdown.Postgres.TableFilter
import Pushdown.Proofs.Generation.Aggregation
import Pushdown.Proofs.Generation.Agreement
import Pushdown.Proofs.Generation.Comments
import Pushdown.Proofs.Generation.Escaping
import Pushdown.Proofs.Generation.Intervals
import Pushdown.Proofs.Generation.JoinTree
import Pushdown.Proofs.Generation.Moments
import Pushdown.Proofs.Generation.Operands
import Pushdown.Proofs.Generation.Readability
import Pushdown.Proofs.Generation.Reading
import Pushdown.Proofs.Generation.Structure
import Pushdown.Proofs.Generation.Tokens
import Pushdown.Proofs.Generation.WellFormed
import Pushdown.Proofs.Json.Number
import Pushdown.Proofs.Json.Reading
import Pushdown.Proofs.Json.Value
import Pushdown.Proofs.Metadata.Snapshot
import Pushdown.Proofs.Number.Numeral
import Pushdown.Proofs.Outcome
import Pushdown.Proofs.Postgres.Catalogue
import Pushdown.Proofs.Postgres.Columns
import Pushdown.Proofs.Postgres.Discovery
import Pushdown.Proofs.Postgres.Folding
import Pushdown.Proofs.Postgres.Masking
import Pushdown.Proofs.Postgres.Opaque
import Pushdown.Proofs.Postgres.Qualification
import Pushdown.Proofs.Postgres.Scalar
import Pushdown.Proofs.Postgres.Validation
import Pushdown.Proofs.Postgres.Wildcard
import Pushdown.Proofs.Query.Erase
import Pushdown.Proofs.Query.Frame
import Pushdown.Proofs.Query.Payload
import Pushdown.Proofs.Query.Phrase
import Pushdown.Proofs.Query.Slots
import Pushdown.Proofs.Sql.Comment
import Pushdown.Proofs.Sql.Constant
import Pushdown.Proofs.Sql.Grouping
import Pushdown.Proofs.Sql.Parser
import Pushdown.Proofs.Sql.Phrase
import Pushdown.Proofs.Sql.Precedence
import Pushdown.Proofs.Sql.Reading
import Pushdown.Proofs.Sql.Site
import Pushdown.Proofs.Sql.Spelling
import Pushdown.Proofs.Sql.Token
import Pushdown.Proofs.Sql.Unambiguous
import Pushdown.Proofs.Text.Case
import Pushdown.Proofs.Text.RoundTrip
import Pushdown.Properties
import Pushdown.PropertyFile.Line
import Pushdown.PropertyFile.Quoted
import Pushdown.PropertyFile.Setting
import Pushdown.PropertyFile.Source
import Pushdown.PropertyFile.Toml
import Pushdown.PropertyFile.Toml.Moment
import Pushdown.PropertyFile.Toml.Value
import Pushdown.PropertyFile.Yaml
import Pushdown.PropertyFile.Yaml.Flow
import Pushdown.PropertyFile.Yaml.Scalar
import Pushdown.Query.Node
import Pushdown.Sql.Expr
import Pushdown.Sql.Lexeme
import Pushdown.Suggestion
import Pushdown.Text.Ascii
import Pushdown.Text.Blank
import Pushdown.Text.Case
import Pushdown.Text.CaseData
import Pushdown.Text.CodeRange
import Pushdown.Text.Cut
import Pushdown.Text.Display
import Pushdown.Text.DisplayData
import Pushdown.Text.LetterData
import Pushdown.Text.Quote
import Pushdown.Proofs.Suggestion
import Pushdown.Proofs.Failure
import Pushdown.Proofs.Generation.Log
import Pushdown.Proofs.Number.Rounding
import Pushdown.Proofs.Number.Shortest
import Pushdown.Proofs.Number.DecimalText
import Pushdown.Proofs.Generation.Doubles
import Pushdown.Proofs.Metadata.Mapping
import Pushdown.Proofs.Text.Upper
import Pushdown.Proofs.Postgres.Refolding
import Pushdown.Proofs.Properties
import Pushdown.Proofs.Text.Pieces
import Pushdown.Proofs.Text.Quote
import Pushdown.Proofs.Failure.Code
import Pushdown.Proofs.Generation.Alike
import Pushdown.Proofs.Enumeration
import Pushdown.Proofs.Generation.Registration
import Pushdown.Proofs.Json.Spelling
import Pushdown.Proofs.Capability
