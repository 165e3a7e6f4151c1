import HttpTelemetry.Calendar.Instant
import HttpTelemetry.Http.Status
import HttpTelemetry.Record.Target

/-!
# Request records

What is reported about one request: the facts taken from the request when it starts, and the
status, the size and the duration that are known when its response is complete.
-/

set_option autoImplicit false

namespace HttpTelemetry

open Http
open Calendar (Instant)
open Net (SocketAddress IpAddress)

/-- A record of one request. The size counts octets of the response body, the duration
nanoseconds. -/
structure RequestRecord where
  timestamp : Instant
  duration : Nat
  method : Method
  version : Version
  uri : String
  path : String
  host : String
  status : Status
  size : Nat
  referer : String
  forwardedFor : String
  userAgent : String
  peer : Option SocketAddress
  deriving DecidableEq

namespace RequestRecord

/-- The host field, or else the authority of the target. -/
def hostOf (r : Request) : String :=
  match r.headers.readable? Field.host with
  | some host => host
  | none => r.target.authority.getD ""

/-- The first value of a field, if it is readable. -/
def fieldText (r : Request) (name : String) : String := (r.headers.readable? name).getD ""

/-- The record of a request that has just arrived: until its response is known it counts as
successful, empty and instantaneous. -/
def ofRequest (r : Request) (timestamp : Instant) : RequestRecord where
  timestamp := timestamp
  duration := 0
  method := r.method
  version := r.version
  uri := Record.reportedUri r
  path := Record.reportedPath r
  host := hostOf r
  status := Status.ok
  size := 0
  referer := fieldText r Field.referer
  forwardedFor := fieldText r Field.forwardedFor
  userAgent := fieldText r Field.userAgent
  peer := r.peer

/-- The address of the connection's other end, without its port. -/
def peerIp (e : RequestRecord) : Option IpAddress := e.peer.map SocketAddress.ip

/-- A whole number as the nearest double. -/
def nearestFloat (n : Nat) : Float := Float.ofScientific n false 0

def seconds (e : RequestRecord) : Float := nearestFloat e.duration / 1e9

def milliseconds (e : RequestRecord) : Float := nearestFloat e.duration / 1e6

def summary (e : RequestRecord) : String := e.method.name ++ " " ++ e.uri ++ " " ++ e.version.text

end RequestRecord

end HttpTelemetry
