import HttpTelemetry.Http.Request

/-!
# Reported targets

Every request is reported under two texts: its path, and its path with the query if there is one.
An HTTP/2 `CONNECT` request has no path; it is reported under the authority that it asks for.
-/

set_option autoImplicit false

namespace HttpTelemetry.Record

open Http

structure ReportedTarget where
  uri : String
  path : String
  deriving DecidableEq

/-- A request to open a tunnel, which HTTP/2 sends without a path. -/
def isTunnel (r : Request) : Bool := r.version == .http2 && r.method == Method.connect

/-- The authority that a tunnel leads to: that of the target, or else the host field. -/
def tunnelAuthority (r : Request) : String :=
  match r.target.authority with
  | some authority => authority
  | none => (r.headers.readable? Field.host).getD ""

/-- A target without a path stands for the root. -/
def shownPath (path : String) : String := if path = "" then "/" else path

/-- A path with its query. An empty query is left out. -/
def withQuery (path : String) (query : Option String) : String :=
  match query with
  | some q => if q = "" then path else path ++ "?" ++ q
  | none => path

def reportedPath (r : Request) : String :=
  if isTunnel r then tunnelAuthority r else shownPath r.target.path

def reportedUri (r : Request) : String :=
  if isTunnel r then tunnelAuthority r else withQuery (shownPath r.target.path) r.target.query

def ReportedTarget.of (r : Request) : ReportedTarget := ⟨reportedUri r, reportedPath r⟩

end HttpTelemetry.Record
