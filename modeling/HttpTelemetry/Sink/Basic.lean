import HttpTelemetry.Record.Basic

/-!
# Sinks

A sink takes records, one at a time, and acts on a state: what it sends, writes or logs. Taking a
record may end in a panic, which keeps what was done until then. A fanout is a list of sinks that
take each record in turn, and is a sink itself.
-/

set_option autoImplicit false

namespace HttpTelemetry

/-- An action for each record on the state `ω`; its only error is a panic. -/
abbrev Sink (ω : Type) := RequestRecord → EStateM Unit ω Unit

/-- Sinks that take each record in turn. A panic keeps the record from the sinks that follow. -/
abbrev Fanout (ω : Type) := List (Sink ω)

def Fanout.toSink {ω : Type} (sinks : Fanout ω) : Sink ω := fun r => sinks.forM fun s => s r

namespace Sink

variable {ω : Type}

/-- A sink that never panics. -/
def ofUpdate (f : RequestRecord → ω → ω) : Sink ω := fun r => modify (f r)

/-- The state after taking a record, and whether there was a panic. -/
def take (s : Sink ω) (r : RequestRecord) (state : ω) : ω × Bool :=
  match (s r).run state with
  | .ok _ state => (state, false)
  | .error _ state => (state, true)

/-- The state after taking records one after the other, whether there were panics or not. -/
def takeAll (s : Sink ω) (records : List RequestRecord) (state : ω) : ω :=
  records.foldl (fun state r => (s.take r state).1) state

/-- A sink that notes the targets of records under its name. A name that begins with an exclamation
mark makes it panic afterwards. -/
def noting (name : String) : Sink (List String) := fun r => do
  modify (· ++ [name ++ ":" ++ r.uri])
  if name.toList.head? = some '!' then throw ()

end Sink

end HttpTelemetry
