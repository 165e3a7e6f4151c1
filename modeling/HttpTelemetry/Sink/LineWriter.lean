import HttpTelemetry.Log.Event
import HttpTelemetry.Sink.Healthd

/-!
# Writing health log lines

Lines go to a writer that may take any part of what it is given, ask for another try, fail, or
panic. A line and its line break are written one after the other, each until all of it is taken, and
then the writer is flushed. The first failure ends the attempt and is logged; what the writer has
taken by then stays.
-/

set_option autoImplicit false

namespace HttpTelemetry

/-- What a writer does when it is given octets: it takes at most a number of them, wants to be asked
again, fails, or panics. -/
inductive WriteReply where
  | takes (most : Nat)
  | interrupted
  | fails (message : String)
  | panics
  deriving DecidableEq

/-- A writer: how it will reply to the next writes and flushes, what it has taken, and how often it
was flushed. When no replies are left it takes everything and never fails. -/
structure LineWriter where
  replies : List WriteReply := []
  flushFailures : List (Option String) := []
  written : Bytes := []
  flushes : Nat := 0

inductive WriteResult where
  | done
  | failed (message : String)
  | panicked
  deriving DecidableEq

namespace LineWriter

def takesNothing : String := "failed to write whole buffer"

/-- Gives octets to a writer with some replies until it has taken all of them. The answer holds the
result, the octets taken, and the replies left. -/
def giveAll : List WriteReply → Bytes → WriteResult × Bytes × List WriteReply
  | replies, [] => (.done, [], replies)
  | [], octets => (.done, octets, [])
  | .takes most :: replies, octets =>
    if most = 0 then (.failed takesNothing, [], replies)
    else
      let (result, taken, left) := giveAll replies (octets.drop most)
      (result, octets.take most ++ taken, left)
  | .interrupted :: replies, octets => giveAll replies octets
  | .fails message :: replies, _ => (.failed message, [], replies)
  | .panics :: replies, _ => (.panicked, [], replies)

def writeAll (w : LineWriter) (octets : Bytes) : WriteResult × LineWriter :=
  let (result, taken, left) := giveAll w.replies octets
  (result, { w with replies := left, written := w.written ++ taken })

def flush (w : LineWriter) : WriteResult × LineWriter :=
  let w' := { w with flushFailures := w.flushFailures.tail, flushes := w.flushes + 1 }
  match w.flushFailures.head? with
  | some (some message) => (.failed message, w')
  | _ => (.done, w')

/-- Goes on with the next part of an attempt if all went well so far. -/
def andThen (attempt : WriteResult × LineWriter) (next : LineWriter → WriteResult × LineWriter) :
    WriteResult × LineWriter :=
  match attempt with
  | (.done, w) => next w
  | failure => failure

def writeLine (w : LineWriter) (line : String) : WriteResult × LineWriter :=
  andThen (andThen (w.writeAll (Bytes.ofText line)) fun w => w.writeAll (Bytes.ofText "\n")) flush

end LineWriter

namespace Healthd

def writeFailure (message : String) : Log.Event where
  level := .warn
  target := "request_telemetry::sinks::healthd"
  message := "Failed to write healthd log line"
  values := [("error", .shown message)]

/-- Writes a record's line. The answer tells whether the writer panicked, and holds the events. -/
def writeRecord (w : LineWriter) (r : RequestRecord) : Bool × LineWriter × List Log.Event :=
  match w.writeLine (line r) with
  | (.done, w) => (false, w, [])
  | (.failed message, w) => (false, w, [writeFailure message])
  | (.panicked, w) => (true, w, [])

end Healthd

/-! ### Writers for trying out -/

/-- Ways in which a writer can misbehave while one line is written. -/
inductive WriterMode where
  | ok
  | error
  | zero
  | panic
  | short
  | interrupted
  | flushError
  deriving DecidableEq, Repr

namespace WriterMode

/-- Takes a number of octets of a line and its line break, and then replies in another way. -/
def afterOctets (limit : Nat) (line : Bytes) (reply : WriteReply) : List WriteReply :=
  if line.length < limit then []
  else if limit = 0 then [reply]
  else [.takes limit, reply]

/-- The replies to the writes of one line, for a mode with its limit. -/
def replies (mode : WriterMode) (limit : Nat) (line : Bytes) : List WriteReply :=
  match mode with
  | .ok | .flushError => []
  | .error => afterOctets limit line (.fails "disk full")
  | .zero => afterOctets limit line (.takes 0)
  | .panic => afterOctets limit line .panics
  | .short => List.replicate (line.length + 2) (.takes (max limit 1))
  | .interrupted => [.interrupted]

def flushFailures : WriterMode → List (Option String)
  | .flushError => [some "flush failed"]
  | _ => []

def apply (mode : WriterMode) (limit : Nat) (line : String) (w : LineWriter) : LineWriter :=
  { w with replies := mode.replies limit (Bytes.ofText line), flushFailures := mode.flushFailures }

end WriterMode

end HttpTelemetry
