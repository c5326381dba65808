import TableStore.Binary.Number
import TableStore.Binary.Rounding
import TableStore.Calendar.Date
import TableStore.Calendar.Reading
import TableStore.Calendar.Time
import TableStore.Configuration.Basic
import TableStore.Configuration.Reading
import TableStore.Constraint
import TableStore.Criterion.Basic
import TableStore.Criterion.Comparison
import TableStore.Decimal.Digits
import TableStore.Decimal.Notation
import TableStore.Decimal.Shortest
import TableStore.Duration
import TableStore.Environment
import TableStore.Error.Basic
import TableStore.Error.Cause
import TableStore.Field
import TableStore.Hex
import TableStore.Interchange.Configuration
import TableStore.Interchange.Form
import TableStore.Interchange.Names
import TableStore.Interchange.Report
import TableStore.Interchange.Value
import TableStore.Json.Number
import TableStore.Json.Reader
import TableStore.Json.Shape
import TableStore.Json.Value
import TableStore.Logging.Filter
import TableStore.Logging.SetUp
import TableStore.Operation.Row
import TableStore.Operation.Rows
import TableStore.Proofs.Binary.Exact
import TableStore.Proofs.Binary.Order
import TableStore.Proofs.Binary.Rounding
import TableStore.Proofs.Calendar.Iso
import TableStore.Proofs.Calendar.Written
import TableStore.Proofs.Constraint
import TableStore.Proofs.Constraint.Bounds
import TableStore.Proofs.Criterion.Beginning
import TableStore.Proofs.Criterion.Condition
import TableStore.Proofs.Criterion.Constants
import TableStore.Proofs.Criterion.Match
import TableStore.Proofs.Criterion.Meaning
import TableStore.Proofs.Criterion.WellFormed
import TableStore.Proofs.Decimal.Digits
import TableStore.Proofs.Decimal.Length
import TableStore.Proofs.Decimal.Midpoint
import TableStore.Proofs.Decimal.Nearest
import TableStore.Proofs.Decimal.Notation
import TableStore.Proofs.Decimal.Shortest
import TableStore.Proofs.Decimal.Single
import TableStore.Proofs.Field
import TableStore.Proofs.Field.Acceptance
import TableStore.Proofs.Hex
import TableStore.Proofs.Interchange.Constraint
import TableStore.Proofs.Interchange.Value
import TableStore.Proofs.Json.Binary
import TableStore.Proofs.Json.Number
import TableStore.Proofs.Json.Numeral
import TableStore.Proofs.Json.Scaling
import TableStore.Proofs.Json.Shape
import TableStore.Proofs.Json.Single
import TableStore.Proofs.Json.Text
import TableStore.Proofs.Operation.Alike
import TableStore.Proofs.Operation.Basic
import TableStore.Proofs.Operation.Changes
import TableStore.Proofs.Operation.Confinement
import TableStore.Proofs.Operation.Contact
import TableStore.Proofs.Operation.Copies
import TableStore.Proofs.Operation.Interruption
import TableStore.Proofs.Operation.Reading
import TableStore.Proofs.Operation.Row
import TableStore.Proofs.Record
import TableStore.Proofs.Record.Legal
import TableStore.Proofs.Registry.History
import TableStore.Proofs.Routing.Collision
import TableStore.Proofs.Routing.Counterpart
import TableStore.Proofs.Routing.Truncation
import TableStore.Proofs.School.Terms
import TableStore.Proofs.Selection.Assembly
import TableStore.Proofs.Selection.Meaning
import TableStore.Proofs.Selection.Restriction
import TableStore.Proofs.Server.Catalog
import TableStore.Proofs.Server.Exchange
import TableStore.Proofs.Server.Identifier
import TableStore.Proofs.Server.Interruption
import TableStore.Proofs.Server.Safety
import TableStore.Proofs.Server.Sending
import TableStore.Proofs.Server.Session
import TableStore.Proofs.Sql.Condition
import TableStore.Proofs.Sql.Definition
import TableStore.Proofs.Sql.Delimiting
import TableStore.Proofs.Sql.Lexer
import TableStore.Proofs.Sql.Literal
import TableStore.Proofs.Sql.Meaning
import TableStore.Proofs.Sql.Names
import TableStore.Proofs.Sql.Pattern
import TableStore.Proofs.Sql.Reader
import TableStore.Proofs.Sql.Spelling
import TableStore.Proofs.Sql.Statement
import TableStore.Proofs.Sql.Truth
import TableStore.Proofs.Statement.Characters
import TableStore.Proofs.Statement.Place
import TableStore.Proofs.Table.Basic
import TableStore.Proofs.Table.Equality
import TableStore.Proofs.Table.Legal
import TableStore.Proofs.Table.Lookup
import TableStore.Proofs.Updates
import TableStore.Proofs.Updates.Order
import TableStore.Proofs.Url.Parameter
import TableStore.Proofs.Url.Password
import TableStore.Proofs.Url.Reading
import TableStore.Proofs.Url.Redaction
import TableStore.Proofs.Validation.Accounting
import TableStore.Proofs.Validation.Check
import TableStore.Proofs.Validation.Convergence
import TableStore.Proofs.Validation.Frame
import TableStore.Proofs.Validation.Replies
import TableStore.Proofs.Validation.Settling
import TableStore.Proofs.Validation.Sparing
import TableStore.Proofs.Validation.Verdict
import TableStore.Proofs.Value.Literal
import TableStore.Proofs.Value.Order
import TableStore.Proofs.Value.Storage
import TableStore.Record
import TableStore.Registry
import TableStore.School.Queries
import TableStore.School.Reference
import TableStore.School.Terms
import TableStore.Selection
import TableStore.Server.Answer
import TableStore.Server.Connection
import TableStore.Server.Dialogue
import TableStore.Server.Session
import TableStore.Sql.ColumnType
import TableStore.Sql.Condition
import TableStore.Sql.Literal
import TableStore.Sql.Quoting
import TableStore.Sql.Statement
import TableStore.Statement.Rows
import TableStore.Statement.Structure
import TableStore.Table.Basic
import TableStore.Table.Name
import TableStore.Text.Character
import TableStore.Text.Listing
import TableStore.Text.Utf8
import TableStore.Unicode.Composition
import TableStore.Unicode.Direction
import TableStore.Unicode.DomainMapping
import TableStore.Unicode.Joining
import TableStore.Unicode.Table
import TableStore.Updates
import TableStore.Url.Basic
import TableStore.Url.Domain
import TableStore.Url.Host
import TableStore.Url.Ipv4
import TableStore.Url.Ipv6
import TableStore.Url.Percent
import TableStore.Url.Punycode
import TableStore.Url.Reading
import TableStore.Validation.Live
import TableStore.Validation.Report
import TableStore.Validation.Table
import TableStore.Value.Basic
import TableStore.Value.Storage
import TableStore.Value.Type
