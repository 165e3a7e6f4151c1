import HttpTelemetry.AppError
import HttpTelemetry.Log.Event
import HttpTelemetry.Net.Host
import HttpTelemetry.Sink.Basic

/-!
# Metrics

Requests are counted and timed by path, method and status in a recorder, which an endpoint serves.
A process has at most one recorder; until there is one, nothing is recorded.
-/

set_option autoImplicit false

namespace HttpTelemetry.Metrics

def requestsTotal : String := "http_requests_total"

def requestSeconds : String := "http_request_duration_seconds"

abbrev Labels := List (String × String)

inductive Call where
  | describeCounter (name text : String)
  | describeHistogram (name text : String)
  | increment (name : String) (labels : Labels) (amount : Nat)
  | observe (name : String) (labels : Labels) (value : Float)

/-- The labels of a record. The path stands without its query. -/
def recordLabels (r : RequestRecord) : Labels :=
  [("endpoint", r.path), ("method", r.method.name), ("status", r.status.text)]

def recordCalls (r : RequestRecord) : List Call :=
  [.increment requestsTotal (recordLabels r) 1, .observe requestSeconds (recordLabels r) r.seconds]

/-! ### The endpoint -/

def descriptions : List Call :=
  [.describeCounter requestsTotal "Total number of HTTP requests handled",
    .describeHistogram requestSeconds
      "HTTP request duration in seconds, until the response body is sent"]

inductive SetupError where
  | listener (cause : OsError)
  | recorderPresent
  deriving DecidableEq, Repr

def SetupError.message : SetupError → String
  | .listener cause => "failed to create HTTP listener: " ++ cause.message
  | .recorderPresent =>
    "failed to install exporter as global recorder: attempted to set a recorder after " ++
      "the metrics system was already initialized"

def SetupError.toAppError (e : SetupError) : AppError :=
  .metrics ("Failed to install Prometheus exporter: " ++ e.message)

def target : String := "request_telemetry::metrics"

def started (address : Net.SocketAddress) : Log.Event where
  level := .info
  target := target
  message := "Prometheus metrics endpoint started"
  values := [("addr", .shown address.text)]

def setupFailed (e : AppError) : Log.Event where
  level := .error
  target := target
  message := "Failed to initialize metrics, continuing without metrics"
  values := [("error", .shown e.message)]

/-- What setting up the endpoint came to: its outcome, what the recorder was told, and the
events. -/
structure Setup where
  outcome : Except SetupError Unit
  calls : List Call
  events : List Log.Event

/-- Sets up the endpoint on an address. The listener is there before the recorder, of which there
may be one already. -/
def setUp (host : Net.Host) (recorderPresent : Bool) (address : Net.SocketAddress) : Setup :=
  match host.listen address with
  | some cause => ⟨.error (.listener cause), [], []⟩
  | none =>
    if recorderPresent then ⟨.error .recorderPresent, [], []⟩
    else ⟨.ok (), descriptions, [started address]⟩

/-- As `setUp`, but a failure is only logged. -/
def trySetUp (host : Net.Host) (recorderPresent : Bool) (address : Net.SocketAddress) :
    Bool × List Log.Event :=
  let setup := setUp host recorderPresent address
  match setup.outcome with
  | .ok _ => (true, setup.events)
  | .error e => (false, setup.events ++ [setupFailed e.toAppError])

end HttpTelemetry.Metrics
