import HttpTelemetry.AppError
import HttpTelemetry.Decimal.Fixed
import HttpTelemetry.Net.Host
import HttpTelemetry.Sink.Basic

/-!
# Statistics

Metrics as lines of the DogStatsD format: a name in a namespace, a value, the kind of the value, and
tags. Every record gives a timing and a count.
-/

set_option autoImplicit false

namespace HttpTelemetry.Statsd

/-- The value of a metric: a time in milliseconds, or a number of occurrences. -/
inductive MetricValue where
  | timing (milliseconds : Float)
  | count (n : Int)

namespace MetricValue

/-- Times have six places. -/
def text : MetricValue → String
  | .timing ms => Decimal.fixed 6 ms
  | .count n => toString n

def kind : MetricValue → String
  | .timing _ => "ms"
  | .count _ => "c"

end MetricValue

structure Metric where
  name : String
  value : MetricValue
  tags : List String

/-- What a client puts around every metric: a namespace, and tags in front of the metric's own. -/
structure Client where
  nameSpace : String := ""
  tags : List String := []
  deriving DecidableEq

def Client.allTags (c : Client) (m : Metric) : List String := c.tags ++ m.tags

/-- The line of a metric. The part for tags is left out if there are none. -/
def Client.line (c : Client) (m : Metric) : String :=
  let tags := c.allTags m
  c.nameSpace ++ m.name ++ ":" ++ m.value.text ++ "|" ++ m.value.kind ++
    (if tags = [] then "" else "|#" ++ String.intercalate "," tags)

def recordTags (r : RequestRecord) : List String :=
  ["endpoint:" ++ r.path, "statusCode:" ++ r.status.text, "method:" ++ r.method.name]

def responseTime (r : RequestRecord) : Metric :=
  ⟨"request.response_time", .timing r.milliseconds, recordTags r⟩

def requestCount (r : RequestRecord) : Metric := ⟨"request.count", .count 1, recordTags r⟩

def recordMetrics (r : RequestRecord) : List Metric := [responseTime r, requestCount r]

/-- The client of an address, if a local socket can be connected to it. The first address of
several is taken. -/
def connect (host : Net.Host) (addresses : List Net.SocketAddress) : Except AppError Unit :=
  match addresses with
  | [] => .error (.config "statsd address did not resolve")
  | address :: _ =>
    match host.connectDatagrams address with
    | some e => .error (.io e.message)
    | none => .ok ()

/-- As `connect`, for an address in text form. -/
def connectTo (host : Net.Host) (address : String) : Except AppError Unit :=
  match host.resolve address with
  | .error message => .error (.io message)
  | .ok addresses => connect host addresses

end HttpTelemetry.Statsd
