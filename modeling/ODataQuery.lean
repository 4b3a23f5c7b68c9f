import ODataQuery.Text.Runs
import ODataQuery.Text.Blank
import ODataQuery.Text.Alphanumeric
import ODataQuery.Text.CaseTables
import ODataQuery.Text.Case
import ODataQuery.Number.Binary64
import ODataQuery.Number.Decimal
import ODataQuery.Number.Text
import ODataQuery.Guid
import ODataQuery.Time.Calendar
import ODataQuery.Time.Instant
import ODataQuery.Time.Format
import ODataQuery.Time.Reader
import ODataQuery.Json.Basic
import ODataQuery.Json.Number
import ODataQuery.Json.Reader
import ODataQuery.Json.Printer
import ODataQuery.Json.Shape
import ODataQuery.Text.Template
import ODataQuery.Filter.Operator
import ODataQuery.Filter.Error
import ODataQuery.Filter.Literal
import ODataQuery.Filter.Payload
import ODataQuery.Filter.Basic
import ODataQuery.Filter.Collection
import ODataQuery.Path
import ODataQuery.Clause.Fragment
import ODataQuery.Clause.Basic
import ODataQuery.Sort
import ODataQuery.Filter.Stored
import ODataQuery.Expression.Token
import ODataQuery.Expression.Word
import ODataQuery.Expression.Clause
import ODataQuery.Expression.Conjunction
import ODataQuery.Expression.Basic
import ODataQuery.Entity.Basic
import ODataQuery.Entity.Descriptor
import ODataQuery.Entity.Column
import ODataQuery.Entity.Stored
import ODataQuery.Url.Percent
import ODataQuery.Query.Form
import ODataQuery.Query.Options
import ODataQuery.Url.Host
import ODataQuery.Url.Basic
import ODataQuery.Query.Address
import ODataQuery.Localizer
import ODataQuery.Query.Error
import ODataQuery.Envelope
import ODataQuery.Time.Stored
import ODataQuery.Settings.Addresses
import ODataQuery.Settings.Basic
import ODataQuery.Toml.Basic
import ODataQuery.Toml.Quoted
import ODataQuery.Toml.Scalar
import ODataQuery.Toml.Table
import ODataQuery.Toml.Reader
import ODataQuery.Config.Basic
import ODataQuery.Config.Stored
import ODataQuery.Console.Table
import ODataQuery.Console.Plan
import ODataQuery.Query.Exchange
import ODataQuery.Console.CommandLine
import ODataQuery.Console.Help
import ODataQuery.Console.Program
import ODataQuery.Main
import ODataQuery.Listing.Debouncer
import ODataQuery.Listing.Notice
import ODataQuery.Listing.Basic
import ODataQuery.Listing.Live
import ODataQuery.Listing.Session
import ODataQuery.Proofs.Expression.Scanning
import ODataQuery.Proofs.Clause.Condition
import ODataQuery.Proofs.Clause.Reading
import ODataQuery.Proofs.Filter.Literal
import ODataQuery.Proofs.Clause.Written
import ODataQuery.Proofs.Filter.Made
import ODataQuery.Proofs.Clause.Grouping
import ODataQuery.Proofs.Clause.Structure
import ODataQuery.Proofs.Clause.Arrangement
import ODataQuery.Proofs.Expression.Clause
import ODataQuery.Proofs.Expression.Splitting
import ODataQuery.Proofs.Filter.Values
import ODataQuery.Proofs.Expression.Conjunction
import ODataQuery.Proofs.Expression.Meaning
import ODataQuery.Proofs.Expression.Aliases
import ODataQuery.Proofs.Expression.Grammar
import ODataQuery.Proofs.Expression.Folding
import ODataQuery.Proofs.Expression.Acceptance
import ODataQuery.Proofs.Expression.Omission
import ODataQuery.Proofs.Number.Rounding
import ODataQuery.Proofs.Number.Shortest
import ODataQuery.Proofs.Listing.Run
import ODataQuery.Proofs.Expression.Numeral
import ODataQuery.Proofs.Listing.Publication
import ODataQuery.Proofs.Listing.Waking
import ODataQuery.Proofs.Listing.Turn
import ODataQuery.Proofs.Listing.Pending
import ODataQuery.Proofs.Listing.Outstanding
import ODataQuery.Proofs.Listing.History
import ODataQuery.Proofs.Listing.Debouncing
import ODataQuery.Proofs.Time.Calendar
import ODataQuery.Proofs.Time.Reading
import ODataQuery.Proofs.Time.Written
import ODataQuery.Proofs.Filter.Stored
import ODataQuery.Proofs.Filter.Operators
import ODataQuery.Proofs.Entity.Paths
import ODataQuery.Proofs.Text.Parts
import ODataQuery.Proofs.Query.Form
import ODataQuery.Proofs.Url.Authority
import ODataQuery.Proofs.Url.Segments
import ODataQuery.Proofs.Url.Roots
import ODataQuery.Proofs.Query.Address
import ODataQuery.Proofs.Query.Stages
import ODataQuery.Proofs.Expression.Rendered
import ODataQuery.Proofs.Envelope.Decoding
import ODataQuery.Proofs.Envelope.Order
import ODataQuery.Proofs.Time.Moving
import ODataQuery.Proofs.Clause.Idle
import ODataQuery.Proofs.Expression.Repetition
import ODataQuery.Proofs.Time.Accepted
import ODataQuery.Proofs.Filter.Collection
import ODataQuery.Proofs.Expression.Places
import ODataQuery.Proofs.Listing.Identities
import ODataQuery.Proofs.Expression.Offsets
import ODataQuery.Proofs.Sort
import ODataQuery.Proofs.Time.Months
import ODataQuery.Proofs.Clause.Window
import ODataQuery.Proofs.Entity.Choices
import ODataQuery.Proofs.Listing.Cancelling
import ODataQuery.Proofs.Listing.Urgency
import ODataQuery.Proofs.Settings.Addresses
import ODataQuery.Proofs.Toml.Quoted
import ODataQuery.Proofs.Toml.Written
import ODataQuery.Proofs.Toml.Integers
import ODataQuery.Proofs.Config.Stored
import ODataQuery.Proofs.Config.Addresses
import ODataQuery.Proofs.Console.Table
import ODataQuery.Proofs.Console.Lines
import ODataQuery.Proofs.Expression.Number
import ODataQuery.Proofs.Text.Template
import ODataQuery.Proofs.Time.Milliseconds
import ODataQuery.Proofs.Json.Printer
