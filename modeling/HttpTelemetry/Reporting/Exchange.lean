import HttpTelemetry.Reporting.Layer

/-!
# Whole exchanges

One call from start to end: the response is awaited, and its body is read to the end or dropped
unread.
-/

set_option autoImplicit false

namespace HttpTelemetry.Reporting

open Http (ListedBody BodyPoll Response ResponseHead)

/-- A call whose response is there at the first poll. -/
structure Answered where
  response : Response

instance : Future Answered ListedBody :=
  ⟨fun a => (.responded a.response.head (ListedBody.full a.response.body), a)⟩

def answering (response : Response) : Service Answered := fun _ => ⟨response⟩

def shownData : List StepResult → Bytes
  | [] => []
  | .polled (.frame (.data bytes)) :: rest => bytes ++ shownData rest
  | _ :: rest => shownData rest

/-- The results and reports of some steps on one call, all at one time. -/
def Call.run {φ β : Type} [Future φ β] [Http.Body β] (service : Service φ)
    (now : Nat) : Option (Call φ β) → List CallStep → List StepResult × Reports
  | _, [] => ([], Reports.none)
  | call, s :: steps =>
    let (result, call, reports) := Call.step service now call s
    let (results, later) := Call.run service now call steps
    (result :: results, reports ++ later)

/-- The steps that read the body of a known response to its end, or leave it unread. -/
def bodySteps (discard : Bool) : List CallStep :=
  if discard then [.drop] else [.frame, .frame, .drop]

end HttpTelemetry.Reporting
