import HttpTelemetry.Config.DotEnv.File
import HttpTelemetry.Config.Reader
import HttpTelemetry.Demo.Router
import HttpTelemetry.Demo.Threads
import HttpTelemetry.Log.Console
import HttpTelemetry.Log.Filter
import HttpTelemetry.Sink.Outlets

/-!
# Runs of the demo

The demo from its start to its end: settings, sinks, metrics, routes, and the address to listen on,
in this order. Whatever fails is logged and ends the run, except for the metrics, without which it
goes on. A run that comes to listen ends by a signal. A run whose threads cannot be started, or whose
log cannot be set up, ends before that and shows nothing.
-/

set_option autoImplicit false

namespace HttpTelemetry.Demo

open Log Config

inductive StopSignal where
  | interrupt
  | terminate
  deriving DecidableEq, Repr

inductive Ending where
  | stopped
  | unavailable
  | misconfigured
  | brokenOff
  | aborted
  deriving DecidableEq, Repr

namespace Ending

/-- The conventional codes for these endings. A run that is aborted leaves none. -/
def exitCode : Ending → Option UInt8
  | .stopped => some 0
  | .unavailable => some 69
  | .misconfigured => some 78
  | .brokenOff => some 101
  | .aborted => none

def ofThreadError : ThreadError → Ending
  | .outOfMemory => .aborted
  | .invalidCount | .excessiveCount | .excessiveStack => .brokenOff

end Ending

/-! ### What is logged -/

def runTarget : String := "request_telemetry"

def said (level : Level) (message : String) : Event where
  level := level
  target := runTarget
  message := message

def starting : Event :=
  said .info ("Starting request telemetry demo v" ++ serviceVersion)

def logFormatTitle : LogFormat → String
  | .text => "Text"
  | .json => "Json"

def settingsLoaded (s : Settings) : Event :=
  { said .info "Configuration loaded" with
    values :=
      [("host", .shown s.host), ("port", .shown (toString s.port.toNat)),
        ("log_format", .shown (logFormatTitle s.logFormat)), ("auth", .bool s.authEnabled)] }

def sinksConfigured (count : Nat) : Event :=
  { said .info "Request logging configured" with values := [("sinks", .nat count)] }

def listening (address : Net.SocketAddress) : List Event :=
  [said .info ("Server listening on http://" ++ address.text),
    said .info "API endpoints:",
    said .info "  GET  /health  - Health check",
    said .info "  GET  /whoami  - Authenticated client"]

def signalReceived (signal : StopSignal) : Event where
  level := .warn
  target := "request_telemetry::utils"
  message :=
    match signal with
    | .interrupt => "Received Ctrl+C, draining in-flight requests..."
    | .terminate => "Received SIGTERM, draining in-flight requests..."

/-- What the server tells about its own work, at the most detailed level. -/
def detailed (message : String) : Event where
  level := .trace
  target := "axum::serve"
  message := message

/-- What is logged from the signal on, when no request is being served. -/
def shutdown (signal : StopSignal) : List Event :=
  [signalReceived signal,
    detailed "received graceful shutdown signal. Telling tasks to shutdown",
    detailed "signal received, not accepting new connections",
    detailed "waiting for 0 task(s) to finish",
    said .info "Server shutdown complete"]

/-! ### Steps -/

abbrev Step := ExceptT Ending Logged

def Step.fail {α : Type} (ending : Ending) (message : String) : Step α := do
  emit (said .error message)
  throw ending

def loadSettings (settings : Except SettingError Settings) : Step Settings :=
  match settings with
  | .ok s => do
    emit (settingsLoaded s)
    return s
  | .error e => Step.fail .misconfigured ("Configuration error: " ++ e.toAppError.message)

def setUpSinks (host : Net.Host) (s : Settings) : Step (Fanout Outlets) := do
  match ← (Sinks.ofSettings host s).run with
  | .ok sinks => return sinks
  | .error e => Step.fail .misconfigured ("Failed to set up log sinks: " ++ e.message)

/-- Sets up the metrics endpoint if it is wanted; the answer is its address if it is there. -/
def setUpMetrics (host : Net.Host) (s : Settings) : Step (Option Net.SocketAddress) :=
  match s.metricsAddress with
  | none => return none
  | some address => do
    let (present, events) := Metrics.trySetUp host false address
    events.forM fun e => emit e
    return if present then some address else none

def listen (host : Net.Host) (s : Settings) : Step Net.SocketAddress :=
  match Net.SocketAddress.parse? s.serverAddress with
  | none =>
    Step.fail .misconfigured "Invalid server address: invalid socket address syntax"
  | some address =>
    match host.listen address with
    | none => return address
    | some cause =>
      Step.fail .unavailable ("Failed to bind to " ++ address.text ++ ": " ++ cause.message)

/-- Everything up to serving. The metrics endpoint takes its port. -/
def start (host : Net.Host) (settings : Except SettingError Settings) : Step Unit := do
  emit starting
  let s ← loadSettings settings
  let sinks ← setUpSinks host s
  let metrics ← setUpMetrics host s
  let sinks := if metrics.isSome then sinks ++ [Metrics.sink] else sinks
  emit (sinksConfigured sinks.length)
  emit (setupEvent s)
  let address ← listen (metrics.elim host fun address => host.occupy address.port) s
  (listening address).forM fun e => emit e

/-! ### Whole runs -/

/-- What a run shows: its ending, the format of its log, the log up to where the run waits for the
signal or fails, and the log from the signal on. -/
structure Run where
  ending : Ending
  format : LogFormat
  before : List Event
  after : List Event

def filterVariable : String := "RUST_LOG"

/-- The filter of the log; if none is given, or a malformed one, events up to `info` are shown. A
rule in which a character is broken ends the run. -/
def logFilter (env : Environment) : Option Filter :=
  match (env.text? filterVariable).map Filter.parse with
  | none | some (.error .malformed) => some (Filter.upTo .info)
  | some (.ok filter) => some filter
  | some (.error .brokenCharacter) => none

namespace Run

def silent (ending : Ending) : Run := ⟨ending, .text, [], []⟩

/-- A run in an environment that is complete, with a log that is filtered. The log is text as long
as no settings say otherwise. -/
def filtered (host : Net.Host) (env : Environment) (filter : Filter) (signal : StopSignal) : Run :=
  let settings := Settings.ofEnvironment env
  let (result, events) := (start host settings).run.run
  let shown (es : List Event) : List Event := es.filter filter.shows
  let format :=
    match settings with
    | .ok s => s.logFormat
    | .error _ => .text
  match result with
  | .ok _ => ⟨.stopped, format, shown events, shown (shutdown signal)⟩
  | .error ending => ⟨ending, format, shown events, []⟩

def of (host : Net.Host) (env : Environment) (file : Option Bytes) (signal : StopSignal) : Run :=
  match Threads.start env with
  | .error e => silent (Ending.ofThreadError e)
  | .ok _ =>
    match DotEnv.load env file with
    | none => silent .brokenOff
    | some env =>
      match logFilter env with
      | none => silent .brokenOff
      | some filter => filtered host env filter signal

def line (r : Run) (e : Event) : String :=
  match r.format with
  | .text => Console.line e
  | .json => (Console.object e).render

end Run

end HttpTelemetry.Demo
