import HttpTelemetry.Capture.Basic
import Mathlib.Algebra.Ring.Nat

/-!
# What a capture remembers

A capture takes in statuses and data in any order. Its status is settled by the first step, of
whichever kind that is, and its size is the sum of all data, up to the largest size.
-/

set_option autoImplicit false

namespace HttpTelemetry.ResponseCapture

open Http (Status)

/-! ### Single steps -/

/-- The status that a step settles if it is the first one. -/
def Step.settles : Step → Status
  | head s => s
  | data _ => Status.ok

def Step.octets : Step → Nat
  | head _ => 0
  | data n => n

section Steps

variable (c : ResponseCapture) (step : Step)

theorem known_apply : (c.apply step).known = some (c.known.getD step.settles) := by
  cases step with
  | head s => rfl
  | data n => rfl

theorem size_apply : (c.apply step).size = min (c.size + step.octets) largestSize := by
  cases step with
  | head s => exact (Nat.min_eq_left c.size_le).symm
  | data n => rfl

end Steps

/-! ### Runs -/

section Runs

variable {before steps : List Step}

theorem run_cons (c : ResponseCapture) (step : Step) (rest : List Step) :
    c.run (step :: rest) = (c.apply step).run rest := rfl

theorem run_append (c : ResponseCapture) (before after : List Step) :
    c.run (before ++ after) = (c.run before).run after :=
  List.foldl_append

/-- A status that is known stays, and otherwise the first step settles it. -/
theorem known_run (c : ResponseCapture) (steps : List Step) :
    (c.run steps).known = c.known.or (steps.head?.map Step.settles) := by
  induction steps generalizing c with
  | nil => exact Option.or_none.symm
  | cons step rest ih =>
    rw [run_cons, ih, known_apply, Option.some_or, List.head?_cons, Option.map_some]
    cases c.known with
    | none => rfl
    | some s => rfl

/-- Reaching the largest size on the way makes no difference to the sum. -/
theorem size_run (c : ResponseCapture) (steps : List Step) :
    (c.run steps).size = min (c.size + (steps.map Step.octets).sum) largestSize := by
  induction steps generalizing c with
  | nil => exact (Nat.min_eq_left c.size_le).symm
  | cons step rest ih =>
    rw [run_cons, ih, size_apply, List.map_cons, List.sum_cons]
    omega

theorem size_le_size_run (c : ResponseCapture) (steps : List Step) :
    c.size ≤ (c.run steps).size := by
  rw [size_run]
  exact Nat.le_min.mpr ⟨Nat.le_add_right _ _, c.size_le⟩

theorem status_run_cons (step : Step) (rest : List Step) :
    (empty.run (step :: rest)).status = step.settles := by
  rw [status, known_run]
  rfl

/-- Data in front of every status stands for 200. -/
theorem status_run_of_no_head (hhead : ∀ t, .head t ∉ before) (hne : before ≠ [])
    (after : List Step) : (empty.run (before ++ after)).status = Status.ok := by
  cases before with
  | nil => exact absurd rfl hne
  | cons step rest =>
    rw [List.cons_append, status_run_cons]
    cases step with
    | head t => exact absurd List.mem_cons_self (hhead t)
    | data n => rfl

theorem status_run_of_prefix (h : before <+: steps) (hne : before ≠ []) :
    (empty.run before).status = (empty.run steps).status := by
  obtain ⟨after, rfl⟩ := h
  cases before with
  | nil => exact absurd rfl hne
  | cons step rest => rw [List.cons_append, status_run_cons, status_run_cons]

theorem run_eq_empty_iff : empty.run steps = empty ↔ steps = [] := by
  constructor
  · intro h
    have hknown : (steps.head?.map Step.settles) = none :=
      (known_run empty steps).symm.trans (congrArg known h)
    exact List.head?_eq_none_iff.mp (Option.map_eq_none_iff.mp hknown)
  · rintro rfl
    rfl

end Runs

/-- A new capture that takes in any steps has the first status among them if no data comes before
that one, and 200 otherwise; after the first step its status stays. Its size is the sum of the data
up to the largest size, and never shrinks. Only without any step is it still a new one. -/
theorem settled_by_first_step (steps : List Step) :
    (∀ before s after, steps = before ++ .head s :: after → (∀ t, .head t ∉ before) →
      ((∀ n, .data n ∉ before) → (empty.run steps).status = s) ∧
      ∀ n, .data n ∈ before → (empty.run steps).status = Status.ok) ∧
    ((∀ s, .head s ∉ steps) → (empty.run steps).status = Status.ok) ∧
    (∀ before, before <+: steps → before ≠ [] →
      (empty.run before).status = (empty.run steps).status) ∧
    (empty.run steps).size = min (steps.map Step.octets).sum (2 ^ 64 - 1) ∧
    (∀ before, before <+: steps → (empty.run before).size ≤ (empty.run steps).size) ∧
    (empty.run steps = empty ↔ steps = []) := by
  refine ⟨?_, ?_, fun before => status_run_of_prefix, ?_, ?_, run_eq_empty_iff⟩
  · rintro before s after rfl hhead
    constructor
    · intro hdata
      cases before with
      | nil => exact status_run_cons (.head s) after
      | cons step rest =>
        cases step with
        | head t => exact absurd List.mem_cons_self (hhead t)
        | data n => exact absurd List.mem_cons_self (hdata n)
    · intro n hn
      exact status_run_of_no_head hhead (List.ne_nil_of_mem hn) (.head s :: after)
  · intro hhead
    by_cases hne : steps = []
    · rw [hne]
      rfl
    · have h := status_run_of_no_head hhead hne []
      rwa [List.append_nil] at h
  · rw [size_run]
    show min (0 + _) _ = _
    rw [Nat.zero_add]
    rfl
  · rintro before ⟨after, rfl⟩
    rw [run_append]
    exact size_le_size_run _ after

/-- Data of no octets settles the status as well. -/
example : (empty.run [.data 0, .head Status.notFound]).status = Status.ok := by decide

end HttpTelemetry.ResponseCapture
