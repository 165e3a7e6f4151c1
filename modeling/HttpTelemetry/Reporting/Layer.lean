import HttpTelemetry.Reporting.Call

/-!
# The reporting layer

Any number of calls under one layer. Calls are told apart by keys; a step concerns one call, and
starting a call under a key that is in use drops the older call once the new one has started. A call
takes along the service that was asked whether it is ready, and leaves a copy behind, which is asked
from then on. Nothing says that the copy is as ready.
-/

set_option autoImplicit false

namespace HttpTelemetry.Reporting

open Http (Body BodyPoll SizeHint Request)

inductive ReadyPoll where
  | ready
  | pending
  | failed (message : String)
  deriving DecidableEq

/-- States in which a service can be asked whether it is ready. A call may change the state of the
service that is called, and a copy starts in a state of its own. -/
class Readiness (ρ : Type) where
  poll : ρ → ReadyPoll × ρ
  afterCall : ρ → ρ
  copy : ρ → ρ

abbrev Calls (κ φ β : Type) := κ → Option (Call φ β)

/-- What can be done with a layer. Each step but `ready` happens at a time of the steady clock, and
a call starts at a wall-clock time as well. -/
inductive Step (κ : Type) where
  | ready
  | start (key : κ) (request : Request) (timestamp : Calendar.Instant) (now : Nat)
  | call (key : κ) (now : Nat) (step : CallStep)

inductive LayerResult where
  | readiness (poll : ReadyPoll)
  | started
  | step (result : StepResult)
  deriving DecidableEq

/-- A layer: the readiness of its service and the calls under way. -/
structure Layer (ρ κ φ β : Type) where
  readiness : ρ
  calls : Calls κ φ β

namespace Layer

variable {ρ κ φ β : Type} [Readiness ρ] [DecidableEq κ] [Future φ β] [Body β]

/-- A layer without calls. -/
def new (readiness : ρ) : Layer ρ κ φ β := ⟨readiness, fun _ => none⟩

/-- The calls with one of them replaced. -/
def setCall (l : Layer ρ κ φ β) (key : κ) (call : Option (Call φ β)) : Layer ρ κ φ β :=
  { l with calls := fun k => if k = key then call else l.calls k }

/-- One step of the layer over a service. All its reports belong to calls of the step's key. -/
def step (service : Service φ) (l : Layer ρ κ φ β) : Step κ → LayerResult × Layer ρ κ φ β × Reports
  | .ready =>
    let (result, readiness) := Readiness.poll l.readiness
    (.readiness result, { l with readiness := readiness }, Reports.none)
  | .start key request timestamp now =>
    let dropped := match l.calls key with
      | some old => old.drop now
      | none => Reports.none
    let left : Layer ρ κ φ β := { l with readiness := Readiness.copy l.readiness }
    (.started, left.setCall key (some (Call.start request timestamp now)), dropped)
  | .call key now s =>
    let (result, call, reports) := Call.step service now (l.calls key) s
    (.step result, l.setCall key call, reports)

end Layer

/-! ### Runs -/

/-- How a service acts at one moment: whether it takes requests, what it makes of them, what its
futures and bodies answer, and what becomes of its copies. Whatever state they share, and change for
each other, shows as another conduct at the next moment. -/
structure Conduct (ρ φ β : Type) where
  readiness : Readiness ρ
  call : Service φ
  future : Future φ β
  body : Body β

structure Turn (ρ κ φ β : Type) where
  conduct : Conduct ρ φ β
  step : Step κ

/-- A turn that was taken on something: what it showed and reported, and what it has left. -/
structure Outcome (σ ρ κ φ β : Type) extends Turn ρ κ φ β where
  result : LayerResult
  reports : Reports
  after : σ

namespace Layer

variable {ρ κ φ β : Type} [DecidableEq κ]

def take (l : Layer ρ κ φ β) (t : Turn ρ κ φ β) : Outcome (Layer ρ κ φ β) ρ κ φ β :=
  letI := t.conduct.readiness
  letI := t.conduct.future
  letI := t.conduct.body
  let (result, after, reports) := l.step t.conduct.call t.step
  { t with result := result, reports := reports, after := after }

/-- Takes some turns, each on the layer that the one before has left. -/
def run (l : Layer ρ κ φ β) : List (Turn ρ κ φ β) → List (Outcome (Layer ρ κ φ β) ρ κ φ β)
  | [] => []
  | t :: turns =>
    let o := l.take t
    o :: run o.after turns

end Layer

end HttpTelemetry.Reporting
