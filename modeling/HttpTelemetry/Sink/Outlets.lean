import HttpTelemetry.Config.Basic
import HttpTelemetry.Sink.LineWriter
import HttpTelemetry.Sink.Metrics
import HttpTelemetry.Sink.Statsd
import HttpTelemetry.Sink.Structured

/-!
# Configured sinks

What the application's sinks act on, the sinks themselves, and the choice of sinks by the settings.
Each sink acts on an outlet of its own and on the log.
-/

set_option autoImplicit false

namespace HttpTelemetry

open Config (Settings)

structure Datagram where
  payload : Bytes
  failure : Option String := none
  deriving DecidableEq

/-- The outlets of the sinks: the log, the socket with the failures that its next sends meet, the
writer of health lines, and the recorder of metrics. -/
structure Outlets where
  events : List Log.Event := []
  sendFailures : List (Option String) := []
  datagrams : List Datagram := []
  writer : LineWriter := {}
  recorder : List Metrics.Call := []

namespace Statsd

def dropped (m : Metric) (message : String) : Log.Event where
  level := .debug
  target := "request_telemetry::statsd"
  message := "Dropped statsd metric"
  values := [("error", .shown message), ("metric", .shown m.name)]

/-- Why a payload is not sent: it is too long, or the socket fails. -/
def sendFailure (o : Outlets) (payload : Bytes) : Option String :=
  if Net.Host.largestDatagram < payload.length then some OsError.messageTooLong.message
  else (o.sendFailures.head?).join

/-- Sends a metric; a failure is logged and otherwise ignored. -/
def send (c : Client) (o : Outlets) (m : Metric) : Outlets :=
  let payload := Bytes.ofText (c.line m)
  let failure := sendFailure o payload
  { o with
    sendFailures := o.sendFailures.tail
    datagrams := o.datagrams ++ [⟨payload, failure⟩]
    events := o.events ++ failure.toList.map (dropped m) }

def sink (c : Client) : Sink Outlets :=
  .ofUpdate fun r o => (recordMetrics r).foldl (send c) o

end Statsd

namespace Structured

def sink (c : Context) : Sink Outlets :=
  .ofUpdate fun r o => { o with events := o.events ++ [recordEvent c r] }

end Structured

namespace Healthd

/-- The only sink that can panic: when its writer does. -/
def sink : Sink Outlets := fun r => do
  let o ← get
  let (panicked, writer, events) := writeRecord o.writer r
  set { o with writer := writer, events := o.events ++ events }
  if panicked then throw ()

end Healthd

namespace Metrics

def sink : Sink Outlets :=
  .ofUpdate fun r o => { o with recorder := o.recorder ++ recordCalls r }

end Metrics

/-! ### Setting up sinks -/

namespace Sinks

def target : String := "request_telemetry::sinks"

def statsdEnabled (address nameSpace : String) : Log.Event where
  level := .info
  target := target
  message := "Statsd reporting enabled"
  values := [("addr", .shown address), ("namespace", .shown nameSpace)]

def healthdEnabled (directory : String) : Log.Event where
  level := .info
  target := target
  message := "Healthd logging enabled"
  values := [("dir", .shown directory)]

/-- The name of the log file of one hour. Those of all other hours are as long. -/
def healthFile : String := "application.log.2000-01-01-00"

/-- What a directory in which no health log can be opened is refused with. -/
def directoryFailure (directory : String) (e : Files.LogFileError) : AppError :=
  .config ("Cannot open healthd log in " ++ directory ++ ": " ++ e.message)

/-- Statistics are sent if there is an address for them. -/
def statsd (host : Net.Host) (s : Settings) :
    ExceptT AppError Log.Logged (Fanout Outlets) :=
  match s.statsdAddress with
  | none => pure []
  | some address => do
    Statsd.connectTo host address
    Log.emit (statsdEnabled address s.statsdNamespace)
    return [Statsd.sink ⟨s.statsdNamespace, s.statsdTags⟩]

/-- Health lines are written if there is a directory for them. -/
def healthd (host : Net.Host) (s : Settings) :
    ExceptT AppError Log.Logged (Fanout Outlets) :=
  match s.healthdDirectory with
  | none => pure []
  | some directory => do
    Log.emit (healthdEnabled directory)
    match Files.openLog host.files directory healthFile with
    | .error e => throw (directoryFailure directory e)
    | .ok _ => return [Healthd.sink]

/-- The sinks of some settings: request records always, then what is enabled. -/
def ofSettings (host : Net.Host) (s : Settings) :
    ExceptT AppError Log.Logged (Fanout Outlets) := do
  let statsd ← statsd host s
  let healthd ← healthd host s
  return [Structured.sink Structured.Context.standard] ++ statsd ++ healthd

end Sinks

end HttpTelemetry
