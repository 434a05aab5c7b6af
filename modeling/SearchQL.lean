import SearchQL.Column.Definition
import SearchQL.Column.Kind
import SearchQL.Column.Method
import SearchQL.Column.Type
import SearchQL.Connection.Backoff
import SearchQL.Connection.Config
import SearchQL.Connection.Link
import SearchQL.Connection.Metrics
import SearchQL.Connection.Operation
import SearchQL.Connection.Plan
import SearchQL.Entity.Basic
import SearchQL.Entity.Cast
import SearchQL.Error
import SearchQL.Feature
import SearchQL.Match.Escape
import SearchQL.Match.Relaxed
import SearchQL.Match.Term
import SearchQL.MultiValue
import SearchQL.Number.Binary64
import SearchQL.Number.Decimal
import SearchQL.Number.Word
import SearchQL.Param
import SearchQL.Placeholder
import SearchQL.Proofs.Filter.Meaning
import SearchQL.Query.Call
import SearchQL.Query.Clause
import SearchQL.Query.Filter
import SearchQL.Query.Statement
import SearchQL.Schema.ChangeSet
import SearchQL.Schema.Listing
import SearchQL.Schema.Script
import SearchQL.Statement
import SearchQL.Text.Blank
import SearchQL.Text.CaseTable
import SearchQL.Text.Lowercase
import SearchQL.Value.Basic
import SearchQL.Value.NumberText
import SearchQL.Value.Reader
import SearchQL.Value.Token
import SearchQL.Value.Writer
import SearchQL.Proofs.Placeholder.Literal
import SearchQL.Proofs.Placeholder.Region
import SearchQL.Proofs.Placeholder.Filling
import SearchQL.Proofs.Placeholder.Structure
import SearchQL.Proofs.Query.Rendered
import SearchQL.Proofs.Query.Verbatim
import SearchQL.Proofs.Query.Alignment
import SearchQL.Proofs.Query.Interpolation
import SearchQL.Proofs.Match.Confined
import SearchQL.Proofs.Match.Grouping
import SearchQL.Proofs.Match.Recovery
import SearchQL.Proofs.Schema.History
import SearchQL.Proofs.Schema.Refusal
import SearchQL.Proofs.Schema.MethodName
import SearchQL.Proofs.Connection.Dispatch
import SearchQL.Proofs.Connection.Independence
import SearchQL.Proofs.Query.CallOrder
import SearchQL.Proofs.Query.Conversion
import SearchQL.Proofs.Query.RowWrite
import SearchQL.Proofs.Connection.Accounting
import SearchQL.Proofs.MultiValue.RoundTrip
import SearchQL.Proofs.Query.RepeatedColumn
import SearchQL.Proofs.Match.InnerDash
import SearchQL.Proofs.Match.Exclusion
import SearchQL.Proofs.Match.Phrase
import SearchQL.Proofs.Number.Rounding
import SearchQL.Proofs.Value.Spelling
import SearchQL.Proofs.Entity.Key
import SearchQL.Proofs.MultiValue.Spelled
import SearchQL.Proofs.Number.Magnitude
import SearchQL.Proofs.Number.Shortest
import SearchQL.Proofs.Placeholder.IntegerLiteral
import SearchQL.Proofs.Schema.ColumnLookup
import SearchQL.Proofs.MultiValue.Arguments
import SearchQL.Proofs.MultiValue.Grammar
import SearchQL.Proofs.Connection.Attempts
import SearchQL.Proofs.Connection.WaitBound
import SearchQL.Proofs.Query.Page
import SearchQL.Proofs.Entity.RowDecoding
import SearchQL.Proofs.Match.Unescaped
import SearchQL.Proofs.Value.Document
import SearchQL.Proofs.Entity.AttributeReading
import SearchQL.Proofs.Query.OptionOrder
import SearchQL.Proofs.Connection.CountReading
import SearchQL.Proofs.Match.Collapsing
