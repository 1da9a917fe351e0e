import Docket.CodeSet
import Docket.CommandLine.Basic
import Docket.CommandLine.Reader
import Docket.CommandLine.Switch
import Docket.Config
import Docket.Config.Lookup
import Docket.Environment
import Docket.Event
import Docket.Files.Path
import Docket.Files.Tree
import Docket.Help.Color
import Docket.Help.Examples
import Docket.Help.Texts
import Docket.Json.Basic
import Docket.Json.Fields
import Docket.Json.Reader
import Docket.Json.Writer
import Docket.Listing.Link
import Docket.Listing.Load
import Docket.Listing.Report
import Docket.Listing.Show
import Docket.Main
import Docket.Output
import Docket.Pattern
import Docket.Pattern.Atom
import Docket.Pattern.Class
import Docket.Pattern.Escape
import Docket.Pattern.Fault
import Docket.Pattern.Footprint
import Docket.Pattern.Reader
import Docket.Pattern.Regex
import Docket.Problem
import Docket.Program
import Docket.Proofs.Config.Defaults
import Docket.Proofs.Config.Layers
import Docket.Proofs.Config.Loading
import Docket.Proofs.Help.Segments
import Docket.Proofs.Help.Visible
import Docket.Proofs.Json.Reading
import Docket.Proofs.Json.RoundTrip
import Docket.Proofs.Listing.Delivery
import Docket.Proofs.Listing.FixedPoint
import Docket.Proofs.Listing.Frame
import Docket.Proofs.Listing.Lines
import Docket.Proofs.Listing.Linking
import Docket.Proofs.Listing.Order
import Docket.Proofs.Listing.Request
import Docket.Proofs.Listing.Showing
import Docket.Proofs.Listing.Stages
import Docket.Proofs.Query.Algebra
import Docket.Proofs.Query.Building
import Docket.Proofs.Query.Catalogue
import Docket.Proofs.Query.ClosedSince
import Docket.Proofs.Query.Failing
import Docket.Proofs.Query.Grammar
import Docket.Proofs.Query.Juxtaposition
import Docket.Proofs.Query.Moving
import Docket.Proofs.Query.Names
import Docket.Proofs.Query.Openings
import Docket.Proofs.Query.Padding
import Docket.Proofs.Query.Parsing
import Docket.Proofs.Query.Position
import Docket.Proofs.Query.Printing
import Docket.Proofs.Query.Progress
import Docket.Proofs.Query.Reading
import Docket.Proofs.Query.Signature
import Docket.Proofs.Query.Token
import Docket.Proofs.Record.Restating
import Docket.Proofs.Record.RoundTrip
import Docket.Proofs.Shell.Agreement
import Docket.Proofs.Shell.Line
import Docket.Proofs.Shell.Session
import Docket.Proofs.Shell.State
import Docket.Proofs.Text.Longest
import Docket.Proofs.Text.Offset
import Docket.Proofs.Text.Padded
import Docket.Proofs.Time.Calendar
import Docket.Proofs.Time.Notation
import Docket.Query.Catalogue
import Docket.Query.Cursor
import Docket.Query.Filter
import Docket.Query.Matching
import Docket.Query.Move
import Docket.Query.Parser
import Docket.Query.Wording
import Docket.Record
import Docket.Record.Codec
import Docket.Run
import Docket.Shell
import Docket.Text.Blank
import Docket.Text.Decimal
import Docket.Text.Found
import Docket.Text.Hex
import Docket.Text.Pieces
import Docket.Text.Width
import Docket.Time.Calendar
import Docket.Time.Instant
import Docket.Time.Timestamp
import Docket.Toml.Basic
import Docket.Toml.Literal
import Docket.Toml.Reader
import Docket.Toml.Scalar
import Docket.Unicode.Age
import Docket.Unicode.CaseOrbit
import Docket.Unicode.Category
import Docket.Unicode.Lookup
import Docket.Unicode.Property
import Docket.Unicode.Script
import Docket.Unicode.ScriptExtension
import Docket.Unicode.Segment
import Docket.Unicode.Trait
import Docket.World
