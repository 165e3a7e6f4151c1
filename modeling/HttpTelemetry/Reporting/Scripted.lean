import HttpTelemetry.Reporting.Layer

/-!
# Services that follow a script

A service for trying out the layer: it may give the request another target, stays pending a number
of polls, and then fails, panics or responds.
-/

set_option autoImplicit false

namespace HttpTelemetry.Reporting

open Http (ListedBody Request ResponseHead Status Headers Target)

/-- How a scripted call ends. A response with a code that is no status fails. -/
inductive Ending where
  | failed (message : String)
  | panicked
  | responded (code : Nat) (headers : Headers) (body : ListedBody)

/-- A scripted call under way, with the request as the service has left it. A call whose request
could not be given another target has gone astray; it does not respond. -/
structure ScriptedCall where
  request : Request
  astray : Bool := false
  pending : Nat
  ending : Ending

namespace ScriptedCall

def retargetFailure : String := "rewrite"

/-- A scripted call on a request. A new target clears the header; a text that is no target leaves
the request as it is, and the call goes astray. -/
def start (request : Request) (retarget : Option Bytes) (pending : Nat) (ending : Ending) :
    ScriptedCall :=
  match retarget with
  | none => ⟨request, false, pending, ending⟩
  | some text =>
    match Target.parse text with
    | .ok target => ⟨{ request with target := target, headers := [] }, false, pending, ending⟩
    | .error _ => ⟨request, true, pending, ending⟩

def poll (c : ScriptedCall) : CallPoll ListedBody × ScriptedCall :=
  match c.pending, c.ending with
  | n + 1, _ => (.pending, { c with pending := n })
  | 0, .failed message => (.failed message, c)
  | 0, .panicked => (.panicked, c)
  | 0, .responded code headers body =>
    if c.astray then (.failed retargetFailure, c)
    else
      match Status.ofNat? code with
      | some status => (.responded ⟨status, headers⟩ body, c)
      | none => (.failed Status.invalidMessage, c)

instance : Future ScriptedCall ListedBody := ⟨poll⟩

end ScriptedCall

/-- A readiness that never changes; copies share it. -/
structure FixedReadiness where
  answer : ReadyPoll

instance : Readiness FixedReadiness where
  poll r := (r.answer, r)
  afterCall r := r
  copy r := r

end HttpTelemetry.Reporting
