import HttpTelemetry.AppError
import HttpTelemetry.Auth.Credential
import HttpTelemetry.Auth.Gate
import HttpTelemetry.Auth.KeyTable
import HttpTelemetry.Calendar.Date
import HttpTelemetry.Calendar.Instant
import HttpTelemetry.Calendar.Rfc3339
import HttpTelemetry.Capture.Basic
import HttpTelemetry.Capture.Body
import HttpTelemetry.Config.Basic
import HttpTelemetry.Config.DotEnv.File
import HttpTelemetry.Config.DotEnv.Lines
import HttpTelemetry.Config.DotEnv.Value
import HttpTelemetry.Config.Environment
import HttpTelemetry.Config.Reader
import HttpTelemetry.Decimal.Binary
import HttpTelemetry.Decimal.Fixed
import HttpTelemetry.Decimal.Numeral
import HttpTelemetry.Decimal.Shortest
import HttpTelemetry.Demo.Router
import HttpTelemetry.Demo.Run
import HttpTelemetry.Demo.Threads
import HttpTelemetry.Files.Path
import HttpTelemetry.Files.Tree
import HttpTelemetry.Http.Body
import HttpTelemetry.Http.Header
import HttpTelemetry.Http.Method
import HttpTelemetry.Http.Request
import HttpTelemetry.Http.Status
import HttpTelemetry.Http.Target
import HttpTelemetry.Json.Basic
import HttpTelemetry.Json.Printer
import HttpTelemetry.Json.Reader
import HttpTelemetry.LastEntry
import HttpTelemetry.Log.Console
import HttpTelemetry.Log.Event
import HttpTelemetry.Log.Filter
import HttpTelemetry.Log.Filter.Pattern
import HttpTelemetry.Log.Filter.Pattern.Expression
import HttpTelemetry.Log.Filter.Pattern.Reader
import HttpTelemetry.Log.Filter.Rule
import HttpTelemetry.Main
import HttpTelemetry.Net.Host
import HttpTelemetry.Net.HostName
import HttpTelemetry.Net.IpAddress
import HttpTelemetry.Net.SocketAddress
import HttpTelemetry.OsError
import HttpTelemetry.Proofs.Auth.Credential
import HttpTelemetry.Proofs.Auth.Gate
import HttpTelemetry.Proofs.Auth.KeyTable
import HttpTelemetry.Proofs.Auth.Secrecy
import HttpTelemetry.Proofs.Calendar.Date
import HttpTelemetry.Proofs.Calendar.Rfc3339
import HttpTelemetry.Proofs.Capture.Basic
import HttpTelemetry.Proofs.Capture.Body
import HttpTelemetry.Proofs.Config.Acceptance
import HttpTelemetry.Proofs.Config.DotEnv
import HttpTelemetry.Proofs.Config.Keys
import HttpTelemetry.Proofs.Config.Reader
import HttpTelemetry.Proofs.Decimal.Digits
import HttpTelemetry.Proofs.Demo.Access
import HttpTelemetry.Proofs.Demo.Router
import HttpTelemetry.Proofs.Demo.StartUp
import HttpTelemetry.Proofs.Http.Query
import HttpTelemetry.Proofs.Http.Request
import HttpTelemetry.Proofs.Http.Target
import HttpTelemetry.Proofs.Json.Fields
import HttpTelemetry.Proofs.Net.Host
import HttpTelemetry.Proofs.Record.ClientAddress
import HttpTelemetry.Proofs.Record.Target
import HttpTelemetry.Proofs.Reporting.Account
import HttpTelemetry.Proofs.Reporting.Bare
import HttpTelemetry.Proofs.Reporting.Exchange
import HttpTelemetry.Proofs.Reporting.Isolation
import HttpTelemetry.Proofs.Reporting.Transparency
import HttpTelemetry.Proofs.Reporting.Turns
import HttpTelemetry.Proofs.Sink.Completion
import HttpTelemetry.Proofs.Sink.Healthd
import HttpTelemetry.Proofs.Sink.LineWriter
import HttpTelemetry.Proofs.Sink.Metrics
import HttpTelemetry.Proofs.Sink.Outlets
import HttpTelemetry.Proofs.Sink.Query
import HttpTelemetry.Proofs.Sink.Statsd
import HttpTelemetry.Proofs.Sink.Structured
import HttpTelemetry.Proofs.Text.Figures
import HttpTelemetry.Record.Basic
import HttpTelemetry.Record.ClientAddress
import HttpTelemetry.Record.Target
import HttpTelemetry.Reporting.Account
import HttpTelemetry.Reporting.Bare
import HttpTelemetry.Reporting.Call
import HttpTelemetry.Reporting.Exchange
import HttpTelemetry.Reporting.Layer
import HttpTelemetry.Reporting.Scripted
import HttpTelemetry.Sink.Basic
import HttpTelemetry.Sink.Healthd
import HttpTelemetry.Sink.LineWriter
import HttpTelemetry.Sink.Metrics
import HttpTelemetry.Sink.Outlets
import HttpTelemetry.Sink.Statsd
import HttpTelemetry.Sink.Structured
import HttpTelemetry.Text.Alphanumeric
import HttpTelemetry.Text.Blank
import HttpTelemetry.Text.Bytes
import HttpTelemetry.Text.Hex
import HttpTelemetry.Text.Pieces
