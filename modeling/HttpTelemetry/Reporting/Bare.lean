import HttpTelemetry.Reporting.Layer

/-!
# Services without the layer

The same steps taken on a service itself: its futures and bodies are polled, asked and dropped as
they are. Nothing is reported. The service may get a request as soon as the call starts, as it does
without the layer, or when the call is polled first.
-/

set_option autoImplicit false

namespace HttpTelemetry.Reporting

open Http (Body)

/-- A call of a service, waiting for its response or with the response's body being read. -/
inductive BareCall (φ β : Type) where
  | waiting (progress : Progress φ)
  | responding (body : β)

namespace BareCall

variable {φ β : Type} [Future φ β] [Body β]

def poll (future : φ) : StepResult × Option (BareCall φ β) :=
  match Future.poll future with
  | (.pending, future) => (.pending, some (.waiting (.running future)))
  | (.responded head body, _) => (.responded head, some (.responding body))
  | (.failed message, _) => (.failed message, none)
  | (.panicked, _) => (.panicked, none)

def step (service : Service φ) :
    Option (BareCall φ β) → CallStep → StepResult × Option (BareCall φ β)
  | none, _ => (.gone, none)
  | some _, .drop => (.dropped, none)
  | some (.waiting progress), .poll => poll (progress.future service)
  | some (.waiting progress), _ => (.noResponseYet, some (.waiting progress))
  | some (.responding body), .poll => (.alreadyResponded, some (.responding body))
  | some (.responding body), .frame =>
    let (result, body) := Body.poll body
    (.polled result, some (.responding body))
  | some (.responding body), .hint =>
    (.hint (Body.hint body) (Body.isEnd body), some (.responding body))

end BareCall

/-- When a service gets the request of a call: at the call's start, or at its first poll. -/
inductive Handing where
  | atStart
  | atPoll

def Handing.progress {φ : Type} (service : Service φ) : Handing → Progress φ → Progress φ
  | .atStart, progress => .running (progress.future service)
  | .atPoll, progress => progress

/-- What there is of a call that the layer watches if the layer is taken away. -/
def Call.bare {φ β : Type} (handing : Handing) (service : Service φ) : Call φ β → BareCall φ β
  | .waiting _ _ progress => .waiting (handing.progress service progress)
  | .responding _ _ body => .responding body.inner

def Layer.bareCalls {ρ κ φ β : Type} (handing : Handing) (service : Service φ)
    (l : Layer ρ κ φ β) : κ → Option (BareCall φ β) :=
  fun key => (l.calls key).map (Call.bare handing service)

structure Bare (ρ κ φ β : Type) where
  readiness : ρ
  calls : κ → Option (BareCall φ β)

namespace Bare

variable {ρ κ φ β : Type} [DecidableEq κ]

/-- A service without calls. -/
def new (readiness : ρ) : Bare ρ κ φ β := ⟨readiness, fun _ => none⟩

/-- The calls with one of them replaced. -/
def setCall (b : Bare ρ κ φ β) (key : κ) (call : Option (BareCall φ β)) : Bare ρ κ φ β :=
  { b with calls := fun k => if k = key then call else b.calls k }

def step [Readiness ρ] [Future φ β] [Body β] (handing : Handing) (service : Service φ)
    (b : Bare ρ κ φ β) : Step κ → LayerResult × Bare ρ κ φ β
  | .ready =>
    let (result, readiness) := Readiness.poll b.readiness
    (.readiness result, { b with readiness := readiness })
  | .start key request _ _ =>
    let called : Bare ρ κ φ β := { b with readiness := Readiness.afterCall b.readiness }
    (.started, called.setCall key (some (.waiting (handing.progress service (.idle request)))))
  | .call key _ s =>
    let (result, call) := BareCall.step service (b.calls key) s
    (.step result, b.setCall key call)

def take (handing : Handing) (b : Bare ρ κ φ β) (t : Turn ρ κ φ β) :
    Outcome (Bare ρ κ φ β) ρ κ φ β :=
  letI := t.conduct.readiness
  letI := t.conduct.future
  letI := t.conduct.body
  let (result, after) := b.step handing t.conduct.call t.step
  { t with result := result, reports := Reports.none, after := after }

/-- Takes some turns, each on the service that the one before has left. -/
def run (handing : Handing) (b : Bare ρ κ φ β) :
    List (Turn ρ κ φ β) → List (Outcome (Bare ρ κ φ β) ρ κ φ β)
  | [] => []
  | t :: turns =>
    let o := b.take handing t
    o :: run handing o.after turns

end Bare

end HttpTelemetry.Reporting
