import ServiceHost.Audit
import ServiceHost.Authz
import ServiceHost.CommandLine
import ServiceHost.Config.Load
import ServiceHost.Config.Reading
import ServiceHost.Config.Schema
import ServiceHost.Config.Validation
import ServiceHost.Context
import ServiceHost.Decimal.Binary64
import ServiceHost.Decimal.Reading
import ServiceHost.Decimal.Shortest
import ServiceHost.Document
import ServiceHost.Document.Json
import ServiceHost.Document.Toml
import ServiceHost.Document.Toml.Scalar
import ServiceHost.Document.Toml.Tables
import ServiceHost.Effect
import ServiceHost.Files
import ServiceHost.Host.Basic
import ServiceHost.Host.Clock
import ServiceHost.Host.Start
import ServiceHost.Host.Stop
import ServiceHost.Http.ApiError
import ServiceHost.Http.Message
import ServiceHost.Http.Pipeline
import ServiceHost.Http.ProfileLog
import ServiceHost.Http.Profiler
import ServiceHost.Http.Readiness
import ServiceHost.Http.Table
import ServiceHost.Http.Uri
import ServiceHost.Identity
import ServiceHost.Log.Event
import ServiceHost.Log.Filter
import ServiceHost.Log.Line
import ServiceHost.Main
import ServiceHost.Metrics
import ServiceHost.Net.Bind
import ServiceHost.Net.Ip
import ServiceHost.Net.Listener
import ServiceHost.Power
import ServiceHost.Publisher
import ServiceHost.Registry
import ServiceHost.Schedule.Line
import ServiceHost.Schedule.Scheduler
import ServiceHost.Service
import ServiceHost.Session
import ServiceHost.Signal
import ServiceHost.Status
import ServiceHost.Text.Blank
import ServiceHost.Text.Cut
import ServiceHost.Text.Duration
import ServiceHost.Text.Numeral
import ServiceHost.Text.Octets
import ServiceHost.Text.Quoted
import ServiceHost.Text.Unprintable
import ServiceHost.Tls.Base64
import ServiceHost.Tls.Certificate
import ServiceHost.Tls.Der
import ServiceHost.Tls.Ed25519
import ServiceHost.Tls.Keypair
import ServiceHost.Tls.Name
import ServiceHost.Tls.Pem
import ServiceHost.Tls.PrivateKey
import ServiceHost.Tls.Reloader
import ServiceHost.Tls.Serving
import ServiceHost.Tls.Time
import ServiceHost.Proofs.Http.Authorization
import ServiceHost.Proofs.Http.Guests
import ServiceHost.Proofs.Http.Trace
import ServiceHost.Proofs.Http.Context
import ServiceHost.Proofs.Http.Accounting
import ServiceHost.Proofs.Http.Transparency
import ServiceHost.Proofs.Http.Availability
import ServiceHost.Proofs.Http.Dispatch
import ServiceHost.Proofs.Http.Writer
import ServiceHost.Proofs.Host.Marks
import ServiceHost.Proofs.Host.Stages
import ServiceHost.Proofs.Host.Start
import ServiceHost.Proofs.Host.Retry
import ServiceHost.Proofs.Host.Silence
import ServiceHost.Proofs.Host.Stop
import ServiceHost.Proofs.Host.Life
import ServiceHost.Proofs.Host.Order
import ServiceHost.Proofs.Host.Closing
import ServiceHost.Proofs.Registry
import ServiceHost.Proofs.Host.Replacement
import ServiceHost.Proofs.Tls.Calls
import ServiceHost.Proofs.Tls.Rotation
import ServiceHost.Proofs.Authz.Precedence
import ServiceHost.Proofs.Schedule.Tasks
import ServiceHost.Proofs.Schedule.Rhythm
import ServiceHost.Proofs.Host.Security
import ServiceHost.Proofs.Log.Sinks
import ServiceHost.Proofs.Host.Telling
import ServiceHost.Proofs.Host.Logging
import ServiceHost.Proofs.Host.Publications
import ServiceHost.Proofs.Host.Beginning
import ServiceHost.Proofs.Host.Upkeep
import ServiceHost.Proofs.Host.Background
import ServiceHost.Proofs.Host.Barrier
import ServiceHost.Proofs.Sorting
import ServiceHost.Proofs.Authz.Reading
import ServiceHost.Proofs.Authz.Decision
import ServiceHost.Proofs.Authz.Acceptance
import ServiceHost.Proofs.Host.Pollers
import ServiceHost.Proofs.Host.Scene
import ServiceHost.Proofs.Host.Latecomers
import ServiceHost.Proofs.Schedule.Timing
import ServiceHost.Proofs.Schedule.Loops
import ServiceHost.Proofs.Schedule.Punctuality
import ServiceHost.Proofs.Text.Blank
import ServiceHost.Proofs.Http.Hops
import ServiceHost.Proofs.Http.Probe
import ServiceHost.Proofs.Text.Numeral
import ServiceHost.Proofs.Net.Literals
import ServiceHost.Proofs.Net.Resolution
import ServiceHost.Proofs.Net.Advertising
import ServiceHost.Proofs.Tls.Visibility
import ServiceHost.Proofs.Tls.Expiry
import ServiceHost.Proofs.Text.Cut
import ServiceHost.Proofs.Tls.Countdown
import ServiceHost.Proofs.Authz.Grammar
import ServiceHost.Proofs.Host.Grace
import ServiceHost.Proofs.Config.Fields
import ServiceHost.Proofs.Config.Overlay
import ServiceHost.Proofs.Signal
import ServiceHost.Proofs.Text.Uptime
