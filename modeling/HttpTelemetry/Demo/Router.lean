import HttpTelemetry.Auth.Gate
import HttpTelemetry.Auth.KeyTable
import HttpTelemetry.Calendar.Rfc3339
import HttpTelemetry.Config.Basic
import HttpTelemetry.Reporting.Exchange

/-!
# The demo service

Two routes behind the reporting layer: a health check, open to all, and one that tells a client who
it is, behind the authentication gate if there are any keys. Every request is reported, whether it
meets a route or not.
-/

set_option autoImplicit false

namespace HttpTelemetry.Demo

open Http Log Auth Config

def serviceVersion : String := "0.1.0"

structure Client where
  name : String
  deriving DecidableEq

/-! ### Handlers -/

def jsonAnswer (members : List (String × Json)) : Response where
  status := Status.ok
  headers := Headers.set [] Field.contentType "application/json"
  body := Bytes.ofText (Json.object members).render

def healthAnswer (now : Calendar.Instant) : Response :=
  jsonAnswer
    [("status", .text "healthy"), ("version", .text serviceVersion), ("timestamp", .text now.text)]

/-- Tells a client its name; without a gate nobody is known. -/
def whoamiAnswer (client : Option Client) : Response :=
  jsonAnswer
    [("authenticated", .bool client.isSome),
      ("client", match client with
        | some c => .text c.name
        | none => .null)]

/-- Serving logs events, and keeps for whom the handler of `whoami` has run. -/
abbrev Serving := StateT (List (Option Client)) Logged

def whoami (client : Option Client) : Serving Response := do
  modify (· ++ [client])
  return whoamiAnswer client

/-! ### Routes -/

inductive Route where
  | health
  | whoami
  deriving DecidableEq, Repr

/-- Paths are compared as they stand, without decoding. -/
def Route.of? (path : String) : Option Route :=
  if path = "/health" then some .health
  else if path = "/whoami" then some .whoami
  else none

def readsRoute (m : Method) : Bool := m == Method.get || m == Method.head

/-- A handler is reached by `GET` and `HEAD` only. -/
def answerReads (m : Method) (handler : Serving Response) : Serving Response :=
  if readsRoute m then handler else return { status := Status.methodNotAllowed }

/-- What every answer of a route gets: the length of its body, the methods of the route if it was
asked by another one, and no body for `HEAD`. -/
def finishRoute (m : Method) (r : Response) : Response where
  status := r.status
  headers :=
    let measured := r.headers.set Field.contentLength (toString r.body.length)
    if readsRoute m then measured else measured.set Field.allow "GET,HEAD"
  body := if m = Method.head then [] else r.body

/-- The answer without a route. Targets that are no path get an explicit length. -/
def unmatchedAnswer (path : String) : Response where
  status := Status.notFound
  headers := if path = "*" ∨ path = "" then Headers.set [] Field.contentLength "0" else []

/-! ### The router -/

/-- The gate in front of `whoami`; there is none without keys. -/
def clientGate (s : Settings) : Option (Gate Client) :=
  if s.authEnabled then
    let table : KeyTable Client := ⟨s.apiKeys.map fun (key, name) => (key, ⟨name⟩)⟩
    some ⟨s.apiProvider, table.finder⟩
  else none

def routesTarget : String := "request_telemetry::routes"

def setupEvent (s : Settings) : Event :=
  match clientGate s with
  | some gate =>
    { level := .info
      target := routesTarget
      message := "API key authentication enabled"
      values := [("provider", .shown gate.provider), ("keys", .nat s.apiKeys.length)] }
  | none =>
    { level := .info
      target := routesTarget
      message := "API key authentication disabled (no API_KEYS set)" }

/-- The route `whoami` with the gate around all its methods. -/
def answerWhoami (gate : Option (Gate Client)) (r : Incoming Client) : Serving Response :=
  let handler (r : Incoming Client) : Serving Response :=
    answerReads r.method (whoami r.identity)
  match gate with
  | some gate =>
    gate.serve (fun e => emit e) (fun _ e status => return jsonRejection e status) handler r
  | none => handler r

/-- The answer to a request, without the reporting layer. -/
def answer (gate : Option (Gate Client)) (now : Calendar.Instant) (r : Request) :
    Serving Response :=
  match Route.of? r.target.path with
  | some .health => do
    return finishRoute r.method (← answerReads r.method (return healthAnswer now))
  | some .whoami => do return finishRoute r.method (← answerWhoami gate r)
  | none => return unmatchedAnswer r.target.path

/-- What an exchange with the service shows: the response, for whom the handler of `whoami` ran, what
each step on the response's body gave, the records that were reported, and the events that were
logged. -/
structure Exchange where
  response : Response
  clients : List (Option Client)
  results : List Reporting.StepResult
  records : List RequestRecord
  events : List Event

namespace Exchange

/-- The part of the body that was read. -/
def read (x : Exchange) : Bytes := Reporting.shownData x.results

end Exchange

open Reporting in
/-- One request through the reporting layer, with some steps on the body of its response. Times of
the steady clock are those of one moment. -/
def exchangeOver (gate : Option (Gate Client)) (now : Calendar.Instant) (steps : List CallStep)
    (r : Request) : Exchange :=
  let ((response, clients), events) := ((answer gate now r).run []).run
  let call : Call Answered ListedBody := Call.start r now 0
  let (results, reports) := Call.run (answering response) 0 (some call) (.poll :: steps)
  ⟨response, clients, results.drop 1, reports.records, events ++ reports.events⟩

/-- An exchange in which the body is read to its end or left unread. -/
def exchange (gate : Option (Gate Client)) (now : Calendar.Instant) (discard : Bool) (r : Request) :
    Exchange :=
  exchangeOver gate now (Reporting.bodySteps discard) r

end HttpTelemetry.Demo
