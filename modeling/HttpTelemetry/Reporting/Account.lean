import HttpTelemetry.Reporting.Bare
import Mathlib.Algebra.Ring.Nat

/-!
# Accounts of calls

What is to be reported of a call, told from the steps that are taken on it and from what the service
answers without the layer: its response head, its body data and the turn that completes the call.
Nothing of the layer enters the account.
-/

set_option autoImplicit false

namespace HttpTelemetry.Reporting

open Http (Body Request ResponseHead Frame Status)
open Calendar (Instant)

section Steps

variable {κ : Type}

def Step.key? : Step κ → Option κ
  | .ready => none
  | .start key _ _ _ => some key
  | .call key _ _ => some key

/-- The time of a step. Asking for readiness has none; it reads as the start of the clock. -/
def Step.time : Step κ → Nat
  | .ready => 0
  | .start _ _ _ now => now
  | .call _ now _ => now

def Step.isStart : Step κ → Bool
  | .start _ _ _ _ => true
  | _ => false

end Steps

/-- Whether a service's answer to a step ends a call, given what the body says afterwards. -/
def StepResult.ends (bodyAtEnd : Bool) : StepResult → Bool
  | .failed _ => true
  | .panicked => true
  | .polled (.failed _) => true
  | .polled .finished => true
  | .polled (.frame _) => bodyAtEnd
  | _ => false

def StepResult.head? : StepResult → Option ResponseHead
  | .responded head => some head
  | _ => none

def StepResult.octets : StepResult → Nat
  | .polled result => result.octets
  | _ => 0

namespace Outcome

variable {ρ κ φ β : Type}

/-- Whether the body that the service gave says, after the turn, that it is at its end. -/
def bodyAtEnd (key : κ) (o : Outcome (Bare ρ κ φ β) ρ κ φ β) : Bool :=
  match o.after.calls key with
  | some (.responding body) => o.conduct.body.isEnd body
  | _ => false

/-- Whether a turn under a key completes the call there: it drops the call, as does the start of
another call that takes over the key, or the service's answer ends it. -/
def completes (key : κ) (o : Outcome (Bare ρ κ φ β) ρ κ φ β) : Bool :=
  match o.step, o.result with
  | .start _ _ _ _, _ => true
  | .call _ _ .drop, _ => true
  | .call _ _ _, .step result => result.ends (o.bodyAtEnd key)
  | _, _ => false

def head? (o : Outcome (Bare ρ κ φ β) ρ κ φ β) : Option ResponseHead :=
  match o.result with
  | .step result => result.head?
  | _ => none

def octets (o : Outcome (Bare ρ κ φ β) ρ κ φ β) : Nat :=
  match o.result with
  | .step result => result.octets
  | _ => 0

end Outcome

section Lives

variable {σ ρ κ φ β : Type} [DecidableEq κ]

def under (key : κ) (outcomes : List (Outcome σ ρ κ φ β)) : List (Outcome σ ρ κ φ β) :=
  outcomes.filter fun o => o.step.key? = some key

/-- What is seen of a call after its start: all outcomes under its key, up to the start of another
call that takes over the key. -/
def life (key : κ) (outcomes : List (Outcome σ ρ κ φ β)) : List (Outcome σ ρ κ φ β) :=
  (under key outcomes).takeWhile (fun o => !o.step.isStart) ++
    ((under key outcomes).find? fun o => o.step.isStart).toList

def reported (outcomes : List (Outcome σ ρ κ φ β)) : Reports where
  records := outcomes.flatMap fun o => o.reports.records
  events := outcomes.flatMap fun o => o.reports.events

/-- What the life of a call makes its report. Nothing is reported before a turn completes the call.
The record is the one taken of the request at the start, but for three fields: if a response came,
its status and the body data up to that turn; else a server error without a body, which is logged. -/
def account (key : κ) (request : Request) (timestamp : Instant) (started : Nat)
    (seen : List (Outcome (Bare ρ κ φ β) ρ κ φ β)) : Reports :=
  match seen.find? (·.completes key) with
  | none => Reports.none
  | some last =>
    let before := seen.takeWhile fun o => !o.completes key
    let record (status : Status) (size : Nat) : RequestRecord :=
      { RequestRecord.ofRequest request timestamp with
        duration := last.step.time - started
        status := status
        size := size }
    match before.findSome? Outcome.head? with
    | some head =>
      { records := [record head.status (min ((before.map Outcome.octets).sum + last.octets)
          (2 ^ 64 - 1))] }
    | none =>
      { records := [record Status.internalServerError 0]
        events := [endedWithoutResponse] }

end Lives

end HttpTelemetry.Reporting
