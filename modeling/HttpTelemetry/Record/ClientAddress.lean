import HttpTelemetry.Http.Request
import HttpTelemetry.Text.Pieces

/-!
# Client addresses

Where a request comes from, as far as proxies and the connection tell. Both header fields can be set
by the client, so the answer serves reports and never decides about access.
-/

set_option autoImplicit false

namespace HttpTelemetry.Record

open Http
open Net (IpAddress SocketAddress)

inductive ClientAddress where
  | forwardedFor (address : String)
  | realIp (address : String)
  | peer (ip : IpAddress)
  | unknown
  deriving DecidableEq

namespace ClientAddress

/-- The first entry of a proxy chain. -/
def firstEntry (chain : String) : String :=
  Text.trim (String.ofList (chain.toList.takeWhile (· != ',')))

/-- The first of these that the request has: a readable proxy chain, a readable single address, the
other end of the connection. -/
def of (r : Request) : ClientAddress :=
  match r.headers.readable? Field.forwardedFor with
  | some chain => .forwardedFor (firstEntry chain)
  | none =>
    match r.headers.readable? Field.realIp with
    | some address => .realIp (Text.trim address)
    | none =>
      match r.peer with
      | some address => .peer address.ip
      | none => .unknown

def text : ClientAddress → String
  | .forwardedFor address => address
  | .realIp address => address
  | .peer ip => ip.text
  | .unknown => "unknown"

end ClientAddress

end HttpTelemetry.Record
