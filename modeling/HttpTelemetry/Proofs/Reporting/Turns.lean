import HttpTelemetry.Reporting.Account

/-!
# Turns and keys

A turn changes and reports at most the call under its own key. So the outcomes under one key unfold
turn by turn: those of other keys drop out, and the start of another call ends a life.
-/

set_option autoImplicit false

namespace HttpTelemetry.Reporting

open Http (Body Request)
open Calendar (Instant)

variable {σ ρ κ φ β : Type}

@[simp] theorem none_append (r : Reports) : Reports.none ++ r = r := rfl

@[simp] theorem append_none (r : Reports) : r ++ Reports.none = r := by
  change Reports.mk (r.records ++ []) (r.events ++ []) = r
  simp only [List.append_nil]

@[simp] theorem reported_nil : reported ([] : List (Outcome σ ρ κ φ β)) = Reports.none := rfl

@[simp] theorem reported_cons (o : Outcome σ ρ κ φ β) (rest : List (Outcome σ ρ κ φ β)) :
    reported (o :: rest) = o.reports ++ reported rest := rfl

variable [DecidableEq κ]

namespace Layer

variable (l : Layer ρ κ φ β)

@[simp] theorem calls_setCall_self (key : κ) (call : Option (Call φ β)) :
    (l.setCall key call).calls key = call := by
  simp [setCall]

theorem calls_setCall_of_ne {key other : κ} (h : other ≠ key) (call : Option (Call φ β)) :
    (l.setCall key call).calls other = l.calls other := by
  simp [setCall, h]

@[simp] theorem take_step (t : Turn ρ κ φ β) : (l.take t).step = t.step := rfl

theorem calls_take_start (c : Conduct ρ φ β) (key : κ) (request : Request) (timestamp : Instant)
    (now : Nat) : (l.take ⟨c, .start key request timestamp now⟩).after.calls key =
      some (Call.start request timestamp now) :=
  l.calls_setCall_self key _

theorem take_calls_of_ne {t : Turn ρ κ φ β} {key : κ} (h : t.step.key? ≠ some key) :
    (l.take t).after.calls key = l.calls key := by
  obtain ⟨c, s⟩ := t
  cases s with
  | ready => rfl
  | start k request timestamp now =>
    have hk : key ≠ k := fun he => h (congrArg some he.symm)
    exact l.calls_setCall_of_ne hk _
  | call k now s =>
    have hk : key ≠ k := fun he => h (congrArg some he.symm)
    exact l.calls_setCall_of_ne hk _

theorem take_reports_of_ready {t : Turn ρ κ φ β} (h : t.step.key? = none) :
    (l.take t).reports = Reports.none := by
  obtain ⟨c, s⟩ := t
  cases s with
  | ready => rfl
  | start key request timestamp now => cases h
  | call key now s => cases h

theorem reported_ready_run (turns : List (Turn ρ κ φ β)) :
    reported ((l.run turns).filter fun o => o.step.key? = none) = Reports.none := by
  induction turns generalizing l with
  | nil => rfl
  | cons t turns ih =>
    rw [run]
    by_cases h : t.step.key? = none
    · rw [List.filter_cons_of_pos (by simp [h]), reported_cons, ih,
        take_reports_of_ready l h, append_none]
    · rw [List.filter_cons_of_neg (by simp [h]), ih]

end Layer

section Lives

variable {key : κ} {o : Outcome σ ρ κ φ β} (rest : List (Outcome σ ρ κ φ β))

theorem under_cons_of_ne (h : o.step.key? ≠ some key) : under key (o :: rest) = under key rest := by
  simp [under, h]

theorem under_cons_of_eq (h : o.step.key? = some key) :
    under key (o :: rest) = o :: under key rest := by
  simp [under, h]

theorem life_cons_of_ne (h : o.step.key? ≠ some key) : life key (o :: rest) = life key rest := by
  simp only [life, under_cons_of_ne rest h]

theorem life_cons_of_start (h : o.step.key? = some key) (hs : o.step.isStart = true) :
    life key (o :: rest) = [o] := by
  simp [life, under_cons_of_eq rest h, hs]

theorem life_cons_of_call (h : o.step.key? = some key) (hs : o.step.isStart = false) :
    life key (o :: rest) = o :: life key rest := by
  simp [life, under_cons_of_eq rest h, hs]

end Lives

end HttpTelemetry.Reporting
