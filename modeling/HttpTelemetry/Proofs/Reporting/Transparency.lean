import HttpTelemetry.Proofs.Reporting.Bare
import HttpTelemetry.Reporting.Scripted
import Mathlib.Data.List.Forall2

/-!
# The layer is transparent

Without its records, its clock readings and its captures, the layer is the service itself. There are
two differences. The service gets a request later, which does not show because a call only builds a
future. And after a call the layer asks a copy of the service whether it is ready; what that shows
hangs on how copies are made, and on nothing else.
-/

set_option autoImplicit false

namespace HttpTelemetry.Reporting

open Http (Body ListedBody Method Request)
open Calendar (Instant)

variable {ρ κ φ β : Type}

variable [DecidableEq κ] {service : Service φ}

section Turns

variable {l : Layer ρ κ φ β} {b : Bare ρ κ φ β} {t : Turn ρ κ φ β}

end Turns

section Runs

variable {l : Layer ρ κ φ β} {b : Bare ρ κ φ β} {turns : List (Turn ρ κ φ β)}

/-- A copy that has still to become ready shows when the layer is asked after a call. -/
example :
    let readiness : Readiness Bool :=
      ⟨fun asked => (if asked then .ready else .pending, true), id, fun _ => false⟩
    let conduct : Conduct Bool ScriptedCall ListedBody :=
      { readiness := readiness, call := fun r => .start r none 0 .panicked
        future := inferInstance, body := inferInstance }
    let request : Request := ⟨Method.get, .http11, ⟨none, "/", none⟩, [], none⟩
    let turns : List (Turn Bool Nat ScriptedCall ListedBody) :=
      [⟨conduct, .ready⟩, ⟨conduct, .start 0 request Instant.epoch 0⟩, ⟨conduct, .ready⟩]
    ((Layer.new false).run turns).map (·.result) =
        [.readiness .pending, .started, .readiness .pending] ∧
      ((Bare.new false).run .atStart turns).map (·.result) =
        [.readiness .pending, .started, .readiness .ready] := ⟨rfl, rfl⟩

end Runs

end HttpTelemetry.Reporting
