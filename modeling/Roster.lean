import Roster.Api.Client
import Roster.Api.Endpoint
import Roster.Api.Error
import Roster.Command.Arguments
import Roster.Command.Count
import Roster.Command.Help
import Roster.Command.Options
import Roster.Command.Report
import Roster.Command.Run
import Roster.Command.UsageError
import Roster.Command.Word
import Roster.Decimal.Layout
import Roster.Decimal.Shortest
import Roster.Fleet.Cluster
import Roster.Fleet.Instance
import Roster.Fleet.Lookup
import Roster.Fleet.Page
import Roster.Fleet.Row
import Roster.Fleet.Search
import Roster.Fleet.Table
import Roster.Fleet.Terminal
import Roster.Http.Network
import Roster.Http.Proxy
import Roster.Http.Request
import Roster.Http.Status
import Roster.Http.Uri
import Roster.Json.Fault
import Roster.Json.Printer
import Roster.Json.Reader.Basic
import Roster.Json.Reader.Number
import Roster.Json.Reader.Skip
import Roster.Json.Reader.Text
import Roster.Json.Reader.Value
import Roster.Json.Record
import Roster.Json.Value
import Roster.Listing.Basic
import Roster.Listing.Format
import Roster.Listing.Plan
import Roster.Main
import Roster.Proofs.Api.Calls
import Roster.Proofs.Command.Tokens
import Roster.Proofs.Fleet.Index
import Roster.Proofs.Fleet.Lookup
import Roster.Proofs.Fleet.Page
import Roster.Proofs.Http.Exchange
import Roster.Proofs.Json.Layout
import Roster.Proofs.Json.Number
import Roster.Proofs.Json.Readable
import Roster.Proofs.Json.RoundTrip
import Roster.Proofs.Json.Text
import Roster.Proofs.Listing.Course
import Roster.Proofs.Listing.Dump
import Roster.Proofs.Listing.Effects
import Roster.Proofs.Listing.Rows
import Roster.Proofs.Outcome
import Roster.Proofs.Settings.Tokens
import Roster.Proofs.Text.Separator
import Roster.Proofs.Text.Utf8
import Roster.Settings.Config
import Roster.Settings.Connection
import Roster.Settings.Contexts
import Roster.Settings.Environment
import Roster.Settings.File
import Roster.Text.Blank
import Roster.Text.CodeTable
import Roster.Text.Normal
import Roster.Text.Normal.Table
import Roster.Text.Quoted
import Roster.Text.Quoted.Hidden
import Roster.Text.Ranges
import Roster.Text.Split
import Roster.Text.Utf8
import Roster.Text.Width
import Roster.Text.Width.Table
import Roster.Toml.Basic
import Roster.Toml.Document
import Roster.Toml.Number
import Roster.Toml.Parser
import Roster.Toml.Shape
import Roster.Toml.Text
import Roster.Url.Basic
import Roster.Url.Domain
import Roster.Url.Domain.Classes
import Roster.Url.Domain.Punycode
import Roster.Url.Domain.Table
import Roster.Url.Form
import Roster.Url.Host
import Roster.Url.Parser
import Roster.Url.Path
import Roster.Url.Percent
import Roster.Url.Reference
import Roster.Yaml.Printer
import Roster.Yaml.Resolved
import Roster.Yaml.Scalar
import Roster.Proofs.Fleet.Search
import Roster.Proofs.Fleet.Table
import Roster.Proofs.Listing.Output
import Roster.Proofs.Command.Course
import Roster.Proofs.Command.Output
import Roster.Proofs.Api.Address
import Roster.Proofs.Command.Refusals
import Roster.Proofs.Http.Twin
import Roster.Proofs.Listing.Handlers
import Roster.Proofs.Api.Twin
import Roster.Proofs.Command.Secrecy
import Roster.Proofs.Text.Order
import Roster.Proofs.Listing.Resolve
import Roster.Proofs.Text.Split
import Roster.Proofs.Fleet.Clauses
import Roster.Proofs.Text.Ascii
import Roster.Proofs.Url.Percent
import Roster.Proofs.Url.Form
import Roster.Proofs.Url.Path
import Roster.Proofs.Api.Parameters
import Roster.Proofs.Url.Tail
import Roster.Proofs.Url.Authority
import Roster.Proofs.Url.Front
import Roster.Proofs.Url.Parser
import Roster.Proofs.Api.Path
import Roster.Proofs.Fleet.Columns
import Roster.Proofs.Listing.Selection
import Roster.Proofs.Json.Spelling
import Roster.Proofs.Json.Record
import Roster.Proofs.Fleet.View
import Roster.Proofs.Text.Normal
import Roster.Proofs.Url.Domain
import Roster.Proofs.Url.Written
import Roster.Proofs.Url.Reread
import Roster.Proofs.Http.Uri
import Roster.Proofs.Api.Wire
import Roster.Proofs.Command.Count
import Roster.Proofs.Command.Arguments
import Roster.Proofs.Command.Parameters
import Roster.Proofs.Command.Single
import Roster.Proofs.Settings.Connecting
import Roster.Proofs.Yaml.Resolved
import Roster.Proofs.Yaml.Scalar
import Roster.Proofs.Yaml.Place
import Roster.Proofs.Listing.Document
import Roster.Proofs.Listing.Apart
import Roster.Proofs.Text.Blank
import Roster.Proofs.Toml.Names
import Roster.Proofs.Settings.Config
import Roster.Proofs.Json.SkipText
import Roster.Proofs.Json.SkipNumber
import Roster.Proofs.Json.Passing
import Roster.Proofs.Api.Reason
import Roster.Proofs.Api.Failure
