import HttpTelemetry.Net.SocketAddress

/-!
# Settings

What the application can be told from outside.
-/

set_option autoImplicit false

namespace HttpTelemetry.Config

inductive LogFormat where
  | text
  | json
  deriving DecidableEq, Repr, Inhabited

structure Settings where
  /-- The address that the server listens on. -/
  host : String := "0.0.0.0"
  /-- The port that the server listens on. -/
  port : UInt16 := 3000
  logFormat : LogFormat := .text
  /-- Where statistics are sent; nothing is sent without it. -/
  statsdAddress : Option String := none
  /-- What stands in front of every metric's name. -/
  statsdNamespace : String := ""
  /-- Tags of every metric. -/
  statsdTags : List String := []
  /-- Where health log files are kept; none are kept without it. -/
  healthdDirectory : Option String := none
  /-- The port of the metrics endpoint; there is none at port 0. -/
  metricsPort : UInt16 := 9090
  /-- The word that introduces an API key. -/
  apiProvider : String := "Service"
  /-- The accepted keys, each with its client's name. -/
  apiKeys : List (String × String) := []
  deriving DecidableEq

namespace Settings

def serverAddress (s : Settings) : String := s.host ++ ":" ++ toString s.port.toNat

def authEnabled (s : Settings) : Bool := !s.apiKeys.isEmpty

/-- The client that a key names, by the last of its entries. -/
def clientName? (s : Settings) (key : String) : Option String := s.apiKeys.reverse.lookup key

theorem exists_clientName?_iff {s : Settings} {key : String} :
    (∃ name, s.clientName? key = some name) ↔ key ∈ s.apiKeys.map Prod.fst := by
  rw [← Option.isSome_iff_exists, clientName?, List.lookup_isSome_iff, List.mem_map]
  simp only [List.mem_reverse, beq_iff_eq, eq_comm (a := key)]

def metricsEnabled (s : Settings) : Bool := 0 < s.metricsPort

def metricsAddress (s : Settings) : Option Net.SocketAddress :=
  if s.metricsEnabled then some ⟨.v4 #v[0, 0, 0, 0], s.metricsPort, 0⟩ else none

end Settings

end HttpTelemetry.Config
