import HttpTelemetry.Auth.Gate
import HttpTelemetry.Auth.KeyTable

/-!
# Gates admit or reject

A gate does one of two things with a request: it logs one event and asks the service, or it logs
another one and asks the rejection handler. Behind a row of gates, a request comes as far as the
first gate that finds no identity. It keeps what it has brought along, and of all identities it has
that of the last gate.
-/

set_option autoImplicit false

namespace HttpTelemetry.Auth

open Http Log

variable {ι ξ ρ : Type} {m : Type → Type} [Monad m]

section Steps

variable [LawfulMonad m] {gate : Gate ι ξ} {r : Incoming ι ξ} (s : Surroundings ι ξ ρ m)
  (earlier : List (Act ι ξ))

@[simp] theorem run_noted {α : Type} (act : Act ι ξ) (x : m α) :
    (act.noted x).run earlier = do return (← x, earlier ++ [act]) := by
  simp [Act.noted]

/-- A gate that finds an identity logs it and leaves the rest to what it stands in front of. -/
theorem run_serveIn_of_ok {identity : ι} (service : Incoming ι ξ → StateT (List (Act ι ξ)) m ρ)
    (h : authenticate gate.provider gate.find r = .ok identity) :
    (gate.serveIn { s.noted with service := service } r).run earlier = (do
      s.log (Gate.admitted gate.provider)
      (service { r with identity := some identity }).run
        (earlier ++ [.log (Gate.admitted gate.provider)])) := by
  simp [Gate.serveIn, Gate.serve, h, Surroundings.noted]

/-- A gate that finds none never asks what it stands in front of. -/
theorem run_serveIn_of_error {e : AuthError}
    (service : Incoming ι ξ → StateT (List (Act ι ξ)) m ρ)
    (h : authenticate gate.provider gate.find r = .error e) :
    (gate.serveIn { s.noted with service := service } r).run earlier = do
      s.log (Gate.rejected r.toRequest e)
      let answer ← s.reject r e Status.unauthorized
      return (answer, earlier ++ [.log (Gate.rejected r.toRequest e),
        .reject r e Status.unauthorized]) := by
  simp [Gate.serveIn, Gate.serve, h, Surroundings.noted]

end Steps

/-! ### Rows of gates -/

/-- A request passes a row of gates if each of them finds an identity in what the gate before it has
let through. -/
inductive Passes : List (Gate ι ξ) → Incoming ι ξ → Incoming ι ξ → Prop where
  | nil (r : Incoming ι ξ) : Passes [] r r
  | cons {gate : Gate ι ξ} {gates : List (Gate ι ξ)} {r passed : Incoming ι ξ} {identity : ι} :
      authenticate gate.provider gate.find r = .ok identity →
      Passes gates { r with identity := some identity } passed → Passes (gate :: gates) r passed

/-- What a request leaves behind at the gates that it passes. -/
def admissions (gates : List (Gate ι ξ)) : List Event :=
  gates.map fun gate => Gate.admitted gate.provider

/-- Behind a row of gates, a request is served once if it passes all of them, and else rejected once
by the first that it does not pass. It comes there as it arrived but for its identity, and the events
before that are those of the gates that it passes. -/
theorem serveRow_admits_or_rejects [LawfulMonad m] (s : Surroundings ι ξ ρ m)
    (gates : List (Gate ι ξ)) (r : Incoming ι ξ) (earlier : List (Act ι ξ)) :
    (∃ identity, Passes gates r { r with identity := identity } ∧
      (serveRow s.noted gates r).run earlier = do
        (admissions gates).forM s.log
        let answer ← s.service { r with identity := identity }
        return (answer, earlier ++ (admissions gates).map .log ++
          [.serve { r with identity := identity }])) ∨
    (∃ front gate rest identity e, gates = front ++ gate :: rest ∧
      Passes front r { r with identity := identity } ∧
      authenticate gate.provider gate.find { r with identity := identity } = .error e ∧
      (serveRow s.noted gates r).run earlier = do
        (admissions front).forM s.log
        s.log (Gate.rejected r.toRequest e)
        let answer ← s.reject { r with identity := identity } e Status.unauthorized
        return (answer, earlier ++ (admissions front).map .log ++
          [.log (Gate.rejected r.toRequest e),
            .reject { r with identity := identity } e Status.unauthorized])) := by
  -- By induction on the row; each gate leaves a request that differs in its identity only.
  induction gates generalizing r earlier with
  | nil =>
    refine .inl ⟨r.identity, .nil r, ?_⟩
    simp [serveRow, admissions, Surroundings.noted]
  | cons gate gates ih =>
    cases h : authenticate gate.provider gate.find r with
    | error e =>
      refine .inr ⟨[], gate, gates, r.identity, e, rfl, .nil r, h, ?_⟩
      rw [serveRow, run_serveIn_of_error s earlier _ h]
      simp [admissions]
    | ok found =>
      have hfirst := run_serveIn_of_ok s earlier (serveRow s.noted gates) h
      rcases ih { r with identity := some found }
        (earlier ++ [.log (Gate.admitted gate.provider)]) with
        ⟨identity, hpasses, hrun⟩ | ⟨front, last, rest, identity, e, rfl, hpasses, he, hrun⟩
      · refine .inl ⟨identity, .cons h hpasses, ?_⟩
        rw [serveRow, hfirst, hrun]
        simp [admissions]
      · refine .inr ⟨gate :: front, last, rest, identity, e, rfl, .cons h hpasses, he, ?_⟩
        rw [serveRow, hfirst, hrun]
        simp [admissions]

end HttpTelemetry.Auth
