import HttpTelemetry.Auth.Credential
import HttpTelemetry.Json.Printer
import HttpTelemetry.Http.Body
import HttpTelemetry.Log.Event
import HttpTelemetry.Record.ClientAddress

/-!
# The authentication gate

The gate stands in front of a service. A request with a valid credential goes on to the service with
its identity attached; every other request is answered by a rejection handler and never reaches the
service. What is logged names the failure and the client, but not the credential.
-/

set_option autoImplicit false

namespace HttpTelemetry.Auth

open Http Log

structure Gate (ι : Type) (ξ : Type := Unit) where
  provider : String
  find : Finder ι ξ

namespace Gate

def target : String := "request_telemetry::middleware::auth"

def admitted (provider : String) : Event where
  level := .debug
  target := target
  message := "API key authentication successful"
  values := [("provider", .shown provider)]

def rejected (r : Request) (e : AuthError) : Event where
  level := .warn
  target := target
  message := "API key authentication failed"
  values :=
    [("path", .shown r.target.path), ("client_ip", .shown (Record.ClientAddress.of r).text),
      ("reason", .text e.kind)]

variable {ι ξ ρ : Type} {m : Type → Type} [Monad m]

/-- Serves a request: through the service if it presents a known credential, by the rejection
handler otherwise. Logging, service and handler are actions of any kind. -/
def serve (gate : Gate ι ξ) (log : Event → m Unit)
    (reject : Incoming ι ξ → AuthError → Status → m ρ) (service : Incoming ι ξ → m ρ)
    (r : Incoming ι ξ) : m ρ :=
  match authenticate gate.provider gate.find r with
  | .ok identity => do
    log (admitted gate.provider)
    service { r with identity := some identity }
  | .error e => do
    log (rejected r.toRequest e)
    reject r e Status.unauthorized

end Gate

/-! ### Surroundings -/

/-- What a gate stands in: a log, a rejection handler and a service. -/
structure Surroundings (ι ξ ρ : Type) (m : Type → Type) where
  log : Event → m Unit
  reject : Incoming ι ξ → AuthError → Status → m ρ
  service : Incoming ι ξ → m ρ

/-- What gates ask of their surroundings. -/
inductive Act (ι ξ : Type) where
  | log (event : Event)
  | reject (r : Incoming ι ξ) (e : AuthError) (status : Status)
  | serve (r : Incoming ι ξ)

section Surroundings

variable {ι ξ ρ : Type} {m : Type → Type} [Monad m]

/-- An action that is also noted, behind the acts before it. -/
def Act.noted {α : Type} (act : Act ι ξ) (x : m α) : StateT (List (Act ι ξ)) m α := do
  modify (· ++ [act])
  x

/-- The same surroundings, with every act noted. -/
def Surroundings.noted (s : Surroundings ι ξ ρ m) :
    Surroundings ι ξ ρ (StateT (List (Act ι ξ)) m) where
  log event := (Act.log event).noted (s.log event)
  reject r e status := (Act.reject r e status).noted (s.reject r e status)
  service r := (Act.serve r).noted (s.service r)

def Gate.serveIn (gate : Gate ι ξ) (s : Surroundings ι ξ ρ m) (r : Incoming ι ξ) : m ρ :=
  gate.serve s.log s.reject s.service r

/-- Serves a request behind a row of gates, which it meets one after the other. -/
def serveRow (s : Surroundings ι ξ ρ m) : List (Gate ι ξ) → Incoming ι ξ → m ρ
  | [] => s.service
  | gate :: gates => gate.serveIn { s with service := serveRow s gates }

end Surroundings

/-! ### Rejections -/

/-- What a client is told about its rejection. A refused key is not repeated. -/
def publicMessage : AuthError → String
  | .invalidKey _ _ => "provided api key is not valid"
  | e => e.message

def jsonRejection (e : AuthError) (status : Status) : Response where
  status := status
  headers := Headers.set (Headers.set [] Field.contentType "application/json")
    Field.authenticate "API-Key"
  body := Bytes.ofText
    (Json.object [("error", .text e.kind), ("message", .text (publicMessage e))]).render

def textRejection (r : Request) (e : AuthError) (status : Status) : Response where
  status := status
  body := Bytes.ofText (r.method.name ++ " " ++ e.kind ++ " " ++ e.message)

end HttpTelemetry.Auth
