import HttpTelemetry.Reporting.Account

/-!
# What does not depend on clocks

Records, reports and turns with their clock readings left out. Two runs of the same steps at
different times can only be compared by what remains.
-/

set_option autoImplicit false

namespace HttpTelemetry

open Calendar (Instant)

/-- A record without its timestamp and its duration. -/
def RequestRecord.timeless (r : RequestRecord) : RequestRecord :=
  { r with timestamp := Instant.epoch, duration := 0 }

namespace Reporting

def Reports.timeless (r : Reports) : Reports := ⟨r.records.map RequestRecord.timeless, r.events⟩

variable {σ ρ κ φ β : Type}

def Step.timeless : Step κ → Step κ
  | .ready => .ready
  | .start key request _ _ => .start key request Instant.epoch 0
  | .call key _ s => .call key 0 s

def Turn.timeless (t : Turn ρ κ φ β) : Turn ρ κ φ β := { t with step := t.step.timeless }

def Outcome.shown (o : Outcome σ ρ κ φ β) : LayerResult × Reports := (o.result, o.reports.timeless)

def turnsUnder [DecidableEq κ] (key : κ) (turns : List (Turn ρ κ φ β)) : List (Turn ρ κ φ β) :=
  turns.filter fun t => t.step.key? = some key

end Reporting

end HttpTelemetry
