import FlightQuery.Text.Blank
import FlightQuery.Number.Layout
import FlightQuery.Number.Reader
import FlightQuery.Json.Printer
import FlightQuery.Json.Document
import FlightQuery.Json.Decoder
import FlightQuery.Text.Alphanumeric
import FlightQuery.Text.LowerCase
import FlightQuery.Error
import FlightQuery.Expression
import FlightQuery.Literal.Reader
import FlightQuery.Filter.Build
import FlightQuery.FieldTree.Document
import FlightQuery.Query
import FlightQuery.Table
import FlightQuery.Database
import FlightQuery.Installation
import FlightQuery.Settings.File
import FlightQuery.Cache.Key
import FlightQuery.Cache
import FlightQuery.Url.Punycode
import FlightQuery.Url.Percent
import FlightQuery.Url.Reader
import FlightQuery.FieldTree.Discovery
import FlightQuery.Session.Lookup
import FlightQuery.CommandLine.Command
import FlightQuery.CommandLine.Run
import FlightQuery.Main
import FlightQuery.Proofs.Text.Blank
import FlightQuery.Proofs.Expression.Place
import FlightQuery.Proofs.Expression.Division
import FlightQuery.Proofs.Expression.Splitting
import FlightQuery.Proofs.Expression.Word
import FlightQuery.Proofs.Expression.Written
import FlightQuery.Proofs.Condition.Resolve
import FlightQuery.Proofs.Condition.Lookup
import FlightQuery.Proofs.Dictionary
import FlightQuery.Proofs.FieldTree.Lookup
import FlightQuery.Proofs.Filter.Dispatch
import FlightQuery.Proofs.Filter.WellFormed
import FlightQuery.Proofs.Expression.Quoted
import FlightQuery.Proofs.Query.Columns
import FlightQuery.Proofs.Query.Removal
import FlightQuery.Proofs.Query.Ledger
import FlightQuery.Proofs.Query.Construction
import FlightQuery.Proofs.Query.Failure
import FlightQuery.Proofs.Query.Clauses
import FlightQuery.Proofs.Json.Numeral
import FlightQuery.Proofs.Json.Quoted
import FlightQuery.Proofs.Json.Spacing
import FlightQuery.Proofs.Json.Decoding
import FlightQuery.Proofs.QuerySet.RoundTrip
import FlightQuery.Proofs.FieldTree.RoundTrip
import FlightQuery.Proofs.Session.Sending
import FlightQuery.Proofs.Session.Login
import FlightQuery.Proofs.Discovery.Fetching
import FlightQuery.Proofs.Discovery.Labels
import FlightQuery.Proofs.Discovery.Path
import FlightQuery.Proofs.Discovery.Preservation
import FlightQuery.Proofs.Session.Calls
import FlightQuery.Proofs.Session.Databases
import FlightQuery.Proofs.Cache.Run
import FlightQuery.Proofs.Settings.RoundTrip
import FlightQuery.Proofs.CommandLine.Config
import FlightQuery.Proofs.Literal.Parsing
import FlightQuery.Proofs.Literal.Writing
import FlightQuery.Proofs.Table
import FlightQuery.Proofs.Filter.Labels
import FlightQuery.Proofs.CommandLine.Schema
import FlightQuery.Proofs.Installation
import FlightQuery.Proofs.Time.Reading
import FlightQuery.Proofs.Session.Rejection
import FlightQuery.Proofs.Session.Address
import FlightQuery.Proofs.Session.Lifetime
import FlightQuery.Proofs.Settings.Root
import FlightQuery.Proofs.Cache.Key
