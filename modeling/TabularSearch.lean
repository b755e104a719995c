import TabularSearch.Aggregation.Basic
import TabularSearch.Aggregation.Plan
import TabularSearch.Backend.Basic
import TabularSearch.Backend.Execution
import TabularSearch.Binary64.Basic
import TabularSearch.Binary64.Decimal
import TabularSearch.Binary64.Literal
import TabularSearch.Binary64.Shortest
import TabularSearch.Cli.Arguments
import TabularSearch.Cli.Help
import TabularSearch.Cli.Run
import TabularSearch.Cli.Table
import TabularSearch.Config.Basic
import TabularSearch.Config.Decode
import TabularSearch.Config.Environment
import TabularSearch.Entries
import TabularSearch.Filter.Basic
import TabularSearch.Filter.Compile
import TabularSearch.Filter.Pattern
import TabularSearch.Json.Decode
import TabularSearch.Json.Document
import TabularSearch.Json.Printer
import TabularSearch.Json.Reader
import TabularSearch.Json.Value
import TabularSearch.Log.Filter
import TabularSearch.Log.Level
import TabularSearch.Main
import TabularSearch.Query.Basic
import TabularSearch.Query.Builder
import TabularSearch.Query.Invalid
import TabularSearch.Query.Validity
import TabularSearch.Query.Written
import TabularSearch.Request.Basic
import TabularSearch.Request.Window
import TabularSearch.Response.Basic
import TabularSearch.Response.Flatten
import TabularSearch.Rows.Csv
import TabularSearch.Rows.Export
import TabularSearch.Rows.Finish
import TabularSearch.Rows.Row
import TabularSearch.Service.Answer
import TabularSearch.Service.Call
import TabularSearch.Service.Failure
import TabularSearch.Service.MediaType
import TabularSearch.Service.Message
import TabularSearch.Service.Origin
import TabularSearch.Service.Startup
import TabularSearch.Text.Ascii
import TabularSearch.Text.Blank
import TabularSearch.Text.Quoted
import TabularSearch.Time.Calendar
import TabularSearch.Time.Instant
import TabularSearch.Time.Rfc3339
import TabularSearch.Toml.Document
import TabularSearch.Toml.Number
import TabularSearch.Toml.Reader
import TabularSearch.Toml.Text
import TabularSearch.Toml.Value
import TabularSearch.Url.Address
import TabularSearch.Url.Basic
import TabularSearch.Url.Encode
import TabularSearch.Url.Name
import TabularSearch.Url.Punycode
import TabularSearch.Url.Reader
import TabularSearch.Url.Search
import TabularSearch.Proofs.Filter.Verdict
import TabularSearch.Proofs.Filter.Meaning
import TabularSearch.Proofs.Query.Acceptance
import TabularSearch.Proofs.Aggregation.Needs
import TabularSearch.Proofs.Request.Planned
import TabularSearch.Proofs.Response.Cells
import TabularSearch.Proofs.Response.Totals
import TabularSearch.Proofs.Response.Walk
import TabularSearch.Proofs.Aggregation.Scopes
import TabularSearch.Proofs.Response.Paths
import TabularSearch.Proofs.Response.Reads
import TabularSearch.Proofs.Response.Planned
import TabularSearch.Proofs.Backend.Served
import TabularSearch.Proofs.Backend.RoundTrip
import TabularSearch.Proofs.Backend.Pages
import TabularSearch.Proofs.Backend.OwnKey
import TabularSearch.Proofs.Text.Decimal
import TabularSearch.Proofs.Time.Calendar
import TabularSearch.Proofs.Response.TimeKeys
import TabularSearch.Proofs.Response.Combinations
import TabularSearch.Proofs.Request.WellFormed
import TabularSearch.Backend.Recorder
import TabularSearch.Proofs.Backend.Recorded
import TabularSearch.Proofs.Backend.Arrival
import TabularSearch.Proofs.Binary64.Whole
import TabularSearch.Proofs.Backend.DateOrder
import TabularSearch.Proofs.Aggregation.Sent
import TabularSearch.Proofs.Filter.Sent
import TabularSearch.Proofs.Rows.Finished
import TabularSearch.Proofs.Request.Sent
import TabularSearch.Proofs.Query.Written
import TabularSearch.Proofs.Url.Target
import TabularSearch.Proofs.Binary64.Nearest
import TabularSearch.Proofs.Filter.Ranges
import TabularSearch.Proofs.Rows.Integers
import TabularSearch.Proofs.Filter.Expression
import TabularSearch.Proofs.Rows.ReadBack
import TabularSearch.Proofs.Rows.Lines
import TabularSearch.Proofs.Json.Records
import TabularSearch.Proofs.Response.Hits
import TabularSearch.Proofs.Backend.Plain
import TabularSearch.Proofs.Backend.Windows
import TabularSearch.Proofs.Service.Outcomes
import TabularSearch.Proofs.Response.Components
import TabularSearch.Proofs.Filter.Dates
import TabularSearch.Proofs.Rows.Insertions
