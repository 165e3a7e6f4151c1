import HttpTelemetry.Decimal.Fixed
import HttpTelemetry.Sink.Basic

/-!
# Health log lines

The line that a health agent reads for each record: completion time, path, status, duration twice,
and client, with quotes between them and no escapes.
-/

set_option autoImplicit false

namespace HttpTelemetry.Healthd

open Calendar (Instant)

/-- Longer durations count as this one, which is about 292 years. -/
def longestDuration : Nat := Nat.pow 2 63 - 1

/-- When the response was complete. A time outside the supported years is replaced by that of the
request. -/
def completion (r : RequestRecord) : Instant :=
  (r.timestamp.later? (min r.duration longestDuration : Nat)).getD r.timestamp

/-- Milliseconds as seconds with three places: the whole seconds below, a point, and the rest. -/
def secondsText (milliseconds : Int) : String :=
  toString (milliseconds / 1000) ++ "." ++ Decimal.padded 3 (milliseconds % 1000).toNat

/-- The time of an instant since 1970, down to a whole millisecond. -/
def timeText (t : Instant) : String := secondsText (t.nanos / 1000000)

/-- The proxy chain as it was sent, or else the address of the connection's other end. -/
def clientText (r : RequestRecord) : String :=
  if r.forwardedFor ≠ "" then r.forwardedFor
  else match r.peerIp with
    | some ip => ip.text
    | none => ""

def durationText (r : RequestRecord) : String := Decimal.fixed 3 r.seconds

def parts (r : RequestRecord) : List String :=
  [timeText (completion r), r.path, r.status.text, durationText r, durationText r, clientText r]

/-- A record's line, without the line break. -/
def line (r : RequestRecord) : String := String.intercalate "\"" (parts r)

end HttpTelemetry.Healthd
