import Gatehouse.Assertion.Refusal
import Gatehouse.Assertion.Signing
import Gatehouse.Assertion.Verifier
import Gatehouse.Bytes
import Gatehouse.Chain.Basic
import Gatehouse.Chain.Catalog
import Gatehouse.Chain.Foundry
import Gatehouse.Chain.Stage
import Gatehouse.CommandLine
import Gatehouse.Crypto.Hmac
import Gatehouse.Crypto.Sha256
import Gatehouse.Decimal.Binary64
import Gatehouse.Decimal.Shortest
import Gatehouse.Fault
import Gatehouse.Http.Body
import Gatehouse.Http.Cookie
import Gatehouse.Http.Headers
import Gatehouse.Http.Native
import Gatehouse.Http.PathParams
import Gatehouse.Http.Request
import Gatehouse.Http.Response
import Gatehouse.Http.Status
import Gatehouse.Http.Token
import Gatehouse.Http.Uri
import Gatehouse.Json.Reader
import Gatehouse.Json.Value
import Gatehouse.Main
import Gatehouse.Net.SocketAddr
import Gatehouse.Proofs.Assertion.Admission
import Gatehouse.Proofs.Assertion.Conditions
import Gatehouse.Proofs.Assertion.Domain
import Gatehouse.Proofs.Assertion.Keys
import Gatehouse.Proofs.Assertion.Payload
import Gatehouse.Proofs.Assertion.RoundTrip
import Gatehouse.Proofs.Chain.Assembly
import Gatehouse.Proofs.Chain.Cancellation
import Gatehouse.Proofs.Chain.Casting
import Gatehouse.Proofs.Chain.Comparison
import Gatehouse.Proofs.Chain.Flattening
import Gatehouse.Proofs.Chain.Journaling
import Gatehouse.Proofs.Chain.Nesting
import Gatehouse.Proofs.Chain.Registration
import Gatehouse.Proofs.Chain.Trail
import Gatehouse.Proofs.Handles
import Gatehouse.Proofs.Http.Cookies
import Gatehouse.Proofs.Http.Maps
import Gatehouse.Proofs.Http.Queries
import Gatehouse.Proofs.Http.SameBut
import Gatehouse.Proofs.Http.Values
import Gatehouse.Proofs.Json.Quoted
import Gatehouse.Proofs.Octets
import Gatehouse.Proofs.Run.Appends
import Gatehouse.Proofs.Run.Course
import Gatehouse.Proofs.Run.Halt
import Gatehouse.Proofs.Run.Signals
import Gatehouse.Proofs.Run.Timing
import Gatehouse.Proofs.Run.Views
import Gatehouse.Proofs.Run.Waits
import Gatehouse.Proofs.Server.AccessLog
import Gatehouse.Proofs.Server.Accounting
import Gatehouse.Proofs.Server.Concealment
import Gatehouse.Proofs.Server.Conversion
import Gatehouse.Proofs.Server.Deadline
import Gatehouse.Proofs.Server.Dressing
import Gatehouse.Proofs.Server.Failures
import Gatehouse.Proofs.Server.Framing
import Gatehouse.Proofs.Server.Identity
import Gatehouse.Proofs.Server.Installation
import Gatehouse.Proofs.Server.Keeping
import Gatehouse.Proofs.Server.Layers
import Gatehouse.Proofs.Server.Listener
import Gatehouse.Proofs.Server.Migration
import Gatehouse.Proofs.Server.Rejection
import Gatehouse.Proofs.Server.Reporting
import Gatehouse.Proofs.Server.Routing
import Gatehouse.Proofs.Server.Serving
import Gatehouse.Proofs.Server.Slots
import Gatehouse.Proofs.Server.Writing
import Gatehouse.Proofs.Service.Accounts
import Gatehouse.Proofs.Service.Whoami
import Gatehouse.Proofs.Service.Wiring
import Gatehouse.Proofs.Settings.Loaded
import Gatehouse.Proofs.Settings.Overrides
import Gatehouse.Proofs.Settings.Slots
import Gatehouse.Proofs.Stage.Appending
import Gatehouse.Proofs.Stage.BuiltIn
import Gatehouse.Proofs.Stage.Gate
import Gatehouse.Proofs.Stage.Proper
import Gatehouse.Proofs.Store.Groups
import Gatehouse.Proofs.Text.Fields
import Gatehouse.Proofs.Text.Folding
import Gatehouse.Proofs.Time.Calendar
import Gatehouse.Proofs.Time.Rfc3339
import Gatehouse.Proofs.Time.Span
import Gatehouse.Proofs.Time.Window
import Gatehouse.Report.Event
import Gatehouse.Report.Message
import Gatehouse.Report.Refusal
import Gatehouse.Report.Service
import Gatehouse.Report.Settings
import Gatehouse.Run.Event
import Gatehouse.Run.Schedule
import Gatehouse.Run.Signal
import Gatehouse.Run.Task
import Gatehouse.Run.World
import Gatehouse.Server.Bridge
import Gatehouse.Server.Builder
import Gatehouse.Server.Dispatch
import Gatehouse.Server.Exchange
import Gatehouse.Server.Installation
import Gatehouse.Server.Layers
import Gatehouse.Server.Limits
import Gatehouse.Server.Listener
import Gatehouse.Server.Routes
import Gatehouse.Server.Slots
import Gatehouse.Service.Api
import Gatehouse.Settings.Basic
import Gatehouse.Settings.Dotenv
import Gatehouse.Settings.Layers
import Gatehouse.Settings.Overrides
import Gatehouse.Settings.Reading
import Gatehouse.Settings.Validity
import Gatehouse.Stage.Gate
import Gatehouse.Stage.Identify
import Gatehouse.Stage.Journal
import Gatehouse.Stage.Script
import Gatehouse.Store.Basic
import Gatehouse.Store.Table
import Gatehouse.Telemetry.Filter
import Gatehouse.Telemetry.Log
import Gatehouse.Telemetry.Metric
import Gatehouse.Telemetry.Pattern.Basic
import Gatehouse.Telemetry.Pattern.Reader
import Gatehouse.Telemetry.Start
import Gatehouse.Text.Ascii
import Gatehouse.Text.CaseMap
import Gatehouse.Text.CaseTable
import Gatehouse.Text.PrintTable
import Gatehouse.Text.Quoted
import Gatehouse.Text.WordTable
import Gatehouse.Tier
import Gatehouse.Time.Calendar
import Gatehouse.Time.Instant
import Gatehouse.Time.Rfc3339
import Gatehouse.Toml.Reader
import Gatehouse.Toml.Scalar
import Gatehouse.Toml.Tree
import Gatehouse.Uuid
