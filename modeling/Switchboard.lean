import Switchboard.Client.Basic
import Switchboard.Handler.Script
import Switchboard.Schema.Parsers
import Switchboard.Server.Assembly
import Switchboard.Proofs.Text.Split
import Switchboard.Proofs.Text.Utf8
import Switchboard.Proofs.Text.Blank
import Switchboard.Proofs.Text.LowerCase
import Switchboard.Proofs.Url.Percent
import Switchboard.Proofs.Url.Form
import Switchboard.Proofs.Client.Substitution
import Switchboard.Proofs.Url.Segments
import Switchboard.Proofs.Client.Prepare
import Switchboard.Proofs.Client.Filling
import Switchboard.Proofs.Client.PathShape
import Switchboard.Proofs.Route.Capture
import Switchboard.Proofs.Client.Reach
import Switchboard.Proofs.Client.OpenTokens
import Switchboard.Proofs.Entries
import Switchboard.Proofs.Handler.Gather
import Switchboard.Proofs.Client.Arguments
import Switchboard.Proofs.Client.Tokens
import Switchboard.Proofs.Client.Placement
import Switchboard.Proofs.Client.Parity
import Switchboard.Proofs.Schema.Conformance
import Switchboard.Proofs.Schema.Strip
import Switchboard.Proofs.Server.Insulation
import Switchboard.Proofs.Handler.Precedence
import Switchboard.Proofs.Handler.HeaderViews
import Switchboard.Proofs.Number.Rounding
import Switchboard.Proofs.Number.Nearest
import Switchboard.Proofs.Number.Whole
import Switchboard.Proofs.Number.Digits
import Switchboard.Proofs.Number.Shortest
import Switchboard.Proofs.Number.Numeral
import Switchboard.Proofs.Number.Plain
import Switchboard.Proofs.Schema.PlainText
import Switchboard.Proofs.Schema.Integers
import Switchboard.Proofs.Client.Defaults
import Switchboard.Proofs.Except
import Switchboard.Proofs.Route.Coverage
import Switchboard.Proofs.Server.Binding
import Switchboard.Proofs.Server.Selection
import Switchboard.Proofs.Handler.Steps
import Switchboard.Proofs.Server.Outcome
import Switchboard.Proofs.Json.Decoding
import Switchboard.Proofs.Schema.RoundTrip
import Switchboard.Proofs.Route.RoundTrip
import Switchboard.Proofs.Server.Isolation
import Switchboard.Proofs.Server.Normalization
import Switchboard.Proofs.Server.HeadRequest
import Switchboard.Proofs.Client.Naming
import Switchboard.Proofs.Url.Target
import Switchboard.Proofs.Client.Delivery
import Switchboard.Proofs.Server.Registration
import Switchboard.Proofs.Schema.Memberwise
import Switchboard.Proofs.Schema.Idempotence
import Switchboard.Proofs.Calendar.Date
import Switchboard.Proofs.Calendar.Succession
import Switchboard.Proofs.Calendar.Reading
import Switchboard.Proofs.Calendar.Instant
import Switchboard.Proofs.Schema.Dates
import Switchboard.Proofs.Sequence
import Switchboard.Proofs.Handler.Resolution
import Switchboard.Proofs.Route.Language
import Switchboard.Proofs.Json.Names
import Switchboard.Proofs.Json.Tokens
import Switchboard.Proofs.Json.ReadBack
import Switchboard.Proofs.Route.Reading
import Switchboard.Proofs.Server.Boot
import Switchboard.Proofs.Schema.Simulation
import Switchboard.Proofs.Schema.Failing
import Switchboard.Proofs.Schema.Registry
import Switchboard.Proofs.Server.SentHeaders
import Switchboard.Proofs.Number.Intervals
import Switchboard.Proofs.Number.Grammar
import Switchboard.Proofs.Number.Longest
import Switchboard.Proofs.Text.Positions
import Switchboard.Proofs.Number.Positions
import Switchboard.Proofs.Number.Places
import Switchboard.Proofs.Number.Runs
import Switchboard.Proofs.Number.Scanned
import Switchboard.Proofs.Client.SentNumbers
