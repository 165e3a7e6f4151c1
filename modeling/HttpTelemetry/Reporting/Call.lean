import HttpTelemetry.Capture.Body
import HttpTelemetry.Log.Event
import HttpTelemetry.Record.Basic

/-!
# Calls under report

The reporting layer wraps a service. Its record of a request is taken when the call starts, before
the service sees the request, and is completed and reported once: with the head and the size of the
response, or as a failure without a body if the call ends before there is a response. The service is
called at the first poll, so a call that is never polled never reaches it.
-/

set_option autoImplicit false

namespace HttpTelemetry.Reporting

open Http (Body BodyPoll SizeHint Request ResponseHead Status)

inductive CallPoll (β : Type) where
  | pending
  | responded (head : ResponseHead) (body : β)
  | failed (message : String)
  | panicked

class Future (φ : Type) (β : outParam Type) where
  poll : φ → CallPoll β × φ

/-- What a service does with a request: it starts something to be polled for a response. -/
abbrev Service (φ : Type) := Request → φ

/-- The part of a call before its response: a request that has not been handed to the service yet,
or what the service has started. -/
inductive Progress (φ : Type) where
  | idle (request : Request)
  | running (future : φ)

def Progress.future {φ : Type} (service : Service φ) : Progress φ → φ
  | .idle request => service request
  | .running future => future

/-- A call that the layer watches: waiting for the service, or with its response's body being
sent. -/
inductive Call (φ β : Type) where
  | waiting (record : RequestRecord) (started : Nat) (progress : Progress φ)
  | responding (record : RequestRecord) (started : Nat) (body : CapturedBody β)

inductive CallStep where
  | poll
  | frame
  | hint
  | drop
  deriving DecidableEq

/-- What a step shows. A call that has ended or never began is gone. -/
inductive StepResult where
  | pending
  | responded (head : ResponseHead)
  | failed (message : String)
  | panicked
  | alreadyResponded
  | noResponseYet
  | polled (result : BodyPoll)
  | hint (hint : SizeHint) (isEnd : Bool)
  | dropped
  | gone
  deriving DecidableEq

/-- The records that a step reports and the events that it logs. -/
structure Reports where
  records : List RequestRecord := []
  events : List Log.Event := []

namespace Reports

def none : Reports := {}

def append (a b : Reports) : Reports := ⟨a.records ++ b.records, a.events ++ b.events⟩

instance : Append Reports := ⟨append⟩

end Reports

/-- The event that goes with a call that ended before there was a response. -/
def endedWithoutResponse : Log.Event where
  level := .debug
  target := "request_telemetry::instrument::layer"
  message := "Request ended without a response, reporting as 500"

/-- A record with what is known at its end; times are in nanoseconds of a steady clock. -/
def complete (record : RequestRecord) (started now : Nat) (status : Status) (size : Nat) :
    RequestRecord :=
  { record with duration := now - started, status := status, size := size }

/-- The report of a call without a response. -/
def reportFailure (record : RequestRecord) (started now : Nat) : Reports where
  records := [complete record started now Status.internalServerError 0]
  events := [endedWithoutResponse]

/-- The report that goes with a capture that is handed over. -/
def reportCapture (record : RequestRecord) (started now : Nat) :
    Option ResponseCapture → Reports
  | some capture => { records := [complete record started now capture.status capture.size] }
  | none => Reports.none

namespace Call

variable {φ β : Type} [Future φ β] [Body β]

def start (request : Request) (timestamp : Calendar.Instant) (now : Nat) : Call φ β :=
  .waiting (RequestRecord.ofRequest request timestamp) now (.idle request)

def poll (record : RequestRecord) (started now : Nat) (future : φ) :
    StepResult × Option (Call φ β) × Reports :=
  match Future.poll future with
  | (.pending, future) => (.pending, some (.waiting record started (.running future)), Reports.none)
  | (.responded head body, _) =>
    let capture := ResponseCapture.empty.writeHead head.status
    (.responded head, some (.responding record started ⟨body, capture, false⟩), Reports.none)
  | (.failed message, _) => (.failed message, none, reportFailure record started now)
  | (.panicked, _) => (.panicked, none, reportFailure record started now)

def drop (now : Nat) : Call φ β → Reports
  | .waiting record started _ => reportFailure record started now
  | .responding record started body => reportCapture record started now body.drop

def step (service : Service φ) (now : Nat) :
    Option (Call φ β) → CallStep → StepResult × Option (Call φ β) × Reports
  | none, _ => (.gone, none, Reports.none)
  | some call, .drop => (.dropped, none, call.drop now)
  | some (.waiting record started progress), .poll =>
    poll record started now (progress.future service)
  | some (.waiting record started progress), _ =>
    (.noResponseYet, some (.waiting record started progress), Reports.none)
  | some (.responding record started body), .poll =>
    (.alreadyResponded, some (.responding record started body), Reports.none)
  | some (.responding record started body), .frame =>
    let (result, body, capture) := body.poll
    (.polled result, some (.responding record started body),
      reportCapture record started now capture)
  | some (.responding record started body), .hint =>
    (.hint body.hint body.isEnd, some (.responding record started body), Reports.none)

end Call

end HttpTelemetry.Reporting
