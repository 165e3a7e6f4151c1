import HttpTelemetry.Proofs.Reporting.Turns
import HttpTelemetry.Reporting.Scripted
import HttpTelemetry.Reporting.Timeless
import Mathlib.Data.List.Count
import Mathlib.Data.List.Perm.Basic

/-!
# Calls do not mix

What the turns under one key show and report is determined by these turns alone, whatever happens
under other keys in between and whatever the clocks read. So all interleavings of the same calls
report the same records.
-/

set_option autoImplicit false

namespace HttpTelemetry.Reporting

open Http (Body ListedBody Method Request)
open Calendar (Instant)

variable {σ ρ κ φ β : Type}

def Call.timeless : Call φ β → Call φ β
  | .waiting record _ progress => .waiting record.timeless 0 progress
  | .responding record _ body => .responding record.timeless 0 body

@[simp] theorem key?_timeless (s : Step κ) : s.timeless.key? = s.key? := by
  cases s <;> rfl

@[simp] theorem timeless_timeless (r : Reports) : r.timeless.timeless = r.timeless := by
  simp only [Reports.timeless, List.map_map]
  rfl

theorem reportCapture_timeless (record : RequestRecord) (started now : Nat)
    (capture : Option ResponseCapture) :
    reportCapture record.timeless 0 0 capture =
      (reportCapture record started now capture).timeless := by
  cases capture <;> rfl

theorem drop_timeless (now : Nat) (call : Call φ β) :
    call.timeless.drop 0 = (call.drop now).timeless := by
  cases call with
  | waiting record started progress => rfl
  | responding record started body => exact reportCapture_timeless record started now body.drop

section Steps

variable [Future φ β]

theorem poll_timeless (record : RequestRecord) (started now : Nat) (future : φ) :
    (Call.poll record.timeless 0 0 future : StepResult × Option (Call φ β) × Reports) =
      ((Call.poll record started now future).1,
        (Call.poll record started now future).2.1.map Call.timeless,
        (Call.poll record started now future).2.2.timeless) := by
  unfold Call.poll
  cases Future.poll future with
  | mk polled next => cases polled <;> rfl

theorem step_timeless [Body β] (service : Service φ) (now : Nat) (call : Option (Call φ β))
    (s : CallStep) :
    Call.step service 0 (call.map Call.timeless) s =
      ((Call.step service now call s).1,
        (Call.step service now call s).2.1.map Call.timeless,
        (Call.step service now call s).2.2.timeless) := by
  cases call with
  | none => rfl
  | some call =>
    cases call with
    | waiting record started progress =>
      cases s with
      | poll => exact poll_timeless record started now (progress.future service)
      | frame => rfl
      | hint => rfl
      | drop => rfl
    | responding record started body =>
      cases s with
      | poll => rfl
      | frame =>
        have hreports := reportCapture_timeless record started now body.poll.2.2
        exact congrArg (fun r => (StepResult.polled body.poll.1,
          some (Call.responding record.timeless 0 body.poll.2.1), r)) hreports
      | hint => rfl
      | drop =>
        have hreports := drop_timeless now (.responding record started body : Call φ β)
        exact congrArg (fun r => (StepResult.dropped, (none : Option (Call φ β)), r)) hreports

end Steps

theorem start_timeless (call : Option (Call φ β)) (now : Nat) :
    (match call.map Call.timeless with
      | some old => old.drop 0
      | none => Reports.none) =
      (match call with
      | some old => old.drop now
      | none => Reports.none).timeless := by
  cases call with
  | none => rfl
  | some old => exact drop_timeless now old

section Runs

variable [DecidableEq κ] {key : κ}

theorem take_timeless {l l₀ : Layer ρ κ φ β}
    (hcall : l₀.calls key = (l.calls key).map Call.timeless) {t : Turn ρ κ φ β}
    (hkey : t.step.key? = some key) :
    (l₀.take t.timeless).shown = (l.take t).shown ∧
      (l₀.take t.timeless).after.calls key =
        ((l.take t).after.calls key).map Call.timeless := by
  obtain ⟨⟨readiness, service, future, body⟩, s⟩ := t
  cases s with
  | ready => cases hkey
  | start k request timestamp now =>
    obtain rfl : k = key := Option.some.inj hkey
    constructor
    · have hreports := start_timeless (l.calls k) now
      rw [← hcall] at hreports
      have hshown := congrArg Reports.timeless hreports
      rw [timeless_timeless] at hshown
      exact congrArg (Prod.mk LayerResult.started) hshown
    · rw [l.calls_take_start]
      exact l₀.calls_take_start _ k request _ 0
  | call k now s =>
    obtain rfl : k = key := Option.some.inj hkey
    have hstep := step_timeless service now (l.calls k) s
    rw [← hcall] at hstep
    constructor
    · have hresult := congrArg Prod.fst hstep
      have hreports := congrArg (fun out => Reports.timeless out.2.2) hstep
      rw [timeless_timeless] at hreports
      exact Prod.ext (congrArg LayerResult.step hresult) hreports
    · have hafter := congrArg (fun out => out.2.1) hstep
      exact ((l₀.calls_setCall_self k _).trans hafter).trans
        (congrArg (Option.map Call.timeless) (l.calls_setCall_self k _)).symm

/-- What the turns under a key show in a run is what they show when they are taken alone, at one
time. -/
theorem shown_under_run {l l₀ : Layer ρ κ φ β}
    (hcall : l₀.calls key = (l.calls key).map Call.timeless) (turns : List (Turn ρ κ φ β)) :
    (under key (l.run turns)).map Outcome.shown =
      (l₀.run ((turnsUnder key turns).map Turn.timeless)).map Outcome.shown := by
  -- Turns under other keys change `l` but not its call at the key, so `l₀` can stay where it is.
  induction turns generalizing l l₀ with
  | nil => rfl
  | cons t turns ih =>
    rw [Layer.run]
    by_cases hkey : t.step.key? = some key
    · obtain ⟨hshown, hafter⟩ := take_timeless hcall hkey
      have hturns : turnsUnder key (t :: turns) = t :: turnsUnder key turns := by
        simp [turnsUnder, hkey]
      rw [under_cons_of_eq _ hkey, hturns, List.map_cons, List.map_cons, Layer.run, List.map_cons,
        ih hafter, hshown]
    · have hturns : turnsUnder key (t :: turns) = turnsUnder key turns := by
        simp [turnsUnder, hkey]
      have hafter := l.take_calls_of_ne hkey
      rw [under_cons_of_ne _ hkey, hturns]
      exact ih (by rw [hcall, hafter])

theorem shown_eq_of_turnsUnder (l : Layer ρ κ φ β) (key : κ) {turns others : List (Turn ρ κ φ β)}
    (h : (turnsUnder key turns).map Turn.timeless = (turnsUnder key others).map Turn.timeless) :
    (under key (l.run turns)).map Outcome.shown =
      (under key (l.run others)).map Outcome.shown := by
  have hcall : (⟨l.readiness, fun k => (l.calls k).map Call.timeless⟩ : Layer ρ κ φ β).calls key =
      (l.calls key).map Call.timeless := rfl
  rw [shown_under_run hcall turns, shown_under_run hcall others, h]

theorem key?_of_mem_run (l : Layer ρ κ φ β) {turns : List (Turn ρ κ φ β)}
    {o : Outcome (Layer ρ κ φ β) ρ κ φ β} (ho : o ∈ l.run turns) :
    ∃ t ∈ turns, o.step.key? = t.step.key? := by
  induction turns generalizing l with
  | nil => cases ho
  | cons t turns ih =>
    rw [Layer.run] at ho
    rcases List.mem_cons.mp ho with rfl | ho
    · exact ⟨t, List.mem_cons_self, rfl⟩
    · obtain ⟨u, hu, hkey⟩ := ih _ ho
      exact ⟨u, List.mem_cons_of_mem t hu, hkey⟩

theorem key?_of_mem_alone {turns alone : List (Turn ρ κ φ β)}
    (h : alone.map Turn.timeless = (turnsUnder key turns).map Turn.timeless)
    {t : Turn ρ κ φ β} (ht : t ∈ alone) : t.step.key? = some key := by
  have hmem : t.timeless ∈ (turnsUnder key turns).map Turn.timeless :=
    h ▸ List.mem_map_of_mem ht
  obtain ⟨u, hu, htu⟩ := List.mem_map.mp hmem
  have hkey : u.step.key? = some key := of_decide_eq_true (List.mem_filter.mp hu).2
  have hstep := congrArg (fun t : Turn ρ κ φ β => t.step.key?) htu
  change u.step.timeless.key? = t.step.timeless.key? at hstep
  rw [key?_timeless, key?_timeless] at hstep
  rw [← hstep, hkey]

theorem shown_run_alone (l : Layer ρ κ φ β) {turns alone : List (Turn ρ κ φ β)}
    (h : alone.map Turn.timeless = (turnsUnder key turns).map Turn.timeless) :
    (under key (l.run turns)).map Outcome.shown =
      (l.run alone).map Outcome.shown := by
  have hturns : turnsUnder key alone = alone := by
    apply List.filter_eq_self.mpr
    intro t ht
    exact decide_eq_true (key?_of_mem_alone h ht)
  have hunder : under key (l.run alone) = l.run alone := by
    apply List.filter_eq_self.mpr
    intro o ho
    obtain ⟨t, ht, hkey⟩ := key?_of_mem_run l ho
    exact decide_eq_true (hkey.trans (key?_of_mem_alone h ht))
  rw [← hturns] at h
  rw [shown_eq_of_turnsUnder l key h.symm, hunder]

end Runs

/-! ### The records of all calls together -/

/-- The records that turns report, with the keys that they are reported under. -/
def labelled (outcomes : List (Outcome σ ρ κ φ β)) : List (Option κ × RequestRecord) :=
  outcomes.flatMap fun o => o.reports.timeless.records.map (Prod.mk o.step.key?)

theorem records_timeless_eq (outcomes : List (Outcome σ ρ κ φ β)) :
    (reported outcomes).timeless.records =
      (outcomes.map Outcome.shown).flatMap fun shown => shown.2.records := by
  induction outcomes with
  | nil => rfl
  | cons o rest ih =>
    have hrecords : (reported (o :: rest)).timeless.records =
        o.reports.timeless.records ++ (reported rest).timeless.records := List.map_append
    rw [hrecords, ih]
    rfl

theorem map_snd_labelled (outcomes : List (Outcome σ ρ κ φ β)) :
    (labelled outcomes).map Prod.snd = (reported outcomes).timeless.records := by
  rw [records_timeless_eq, labelled, List.map_flatMap, List.flatMap_map]
  simp only [List.map_map]
  exact congrArg (outcomes.flatMap ·) (funext fun o => List.map_id _)

variable [DecidableEq κ]

theorem count_labelled (label : Option κ) (record : RequestRecord)
    (outcomes : List (Outcome σ ρ κ φ β)) :
    (labelled outcomes).count (label, record) =
      (reported (outcomes.filter fun o => o.step.key? = label)).timeless.records.count record := by
  rw [records_timeless_eq]
  induction outcomes with
  | nil => rfl
  | cons o rest ih =>
    have hcons : labelled (o :: rest) =
        o.reports.timeless.records.map (Prod.mk o.step.key?) ++ labelled rest := List.flatMap_cons
    rw [hcons, List.count_append, ih]
    by_cases hlabel : o.step.key? = label
    · have hinj : Function.Injective (Prod.mk label : RequestRecord → _) := by
        intro r r' hr
        exact congrArg Prod.snd hr
      rw [List.filter_cons_of_pos (by simp [hlabel]), List.map_cons, List.flatMap_cons,
        List.count_append, hlabel, List.count_map_of_injective _ _ hinj]
      rfl
    · have hnot : (label, record) ∉ o.reports.timeless.records.map (Prod.mk o.step.key?) := by
        intro hmem
        obtain ⟨r, _, hr⟩ := List.mem_map.mp hmem
        exact hlabel (congrArg Prod.fst hr)
      rw [List.filter_cons_of_neg (by simp [hlabel]), List.count_eq_zero.mpr hnot, Nat.zero_add]

theorem perm_labelled (l : Layer ρ κ φ β) {turns others : List (Turn ρ κ φ β)}
    (h : ∀ key, (turnsUnder key turns).map Turn.timeless =
      (turnsUnder key others).map Turn.timeless) :
    (labelled (l.run turns)).Perm (labelled (l.run others)) := by
  rw [List.perm_iff_count]
  rintro ⟨label, record⟩
  rw [count_labelled, count_labelled]
  cases label with
  | none => rw [l.reported_ready_run turns, l.reported_ready_run others]
  | some key =>
    have hshown := shown_eq_of_turnsUnder l key (h key)
    rw [← under, ← under, records_timeless_eq, records_timeless_eq, hshown]

/-- The turns of one call show and report in any run what they show and report when nothing else
happens, whatever the clocks read; and all runs that interleave the same calls report the same
records. -/
theorem calls_do_not_mix (readiness : ρ) (turns : List (Turn ρ κ φ β)) :
    (∀ (key : κ) (alone : List (Turn ρ κ φ β)),
      alone.map Turn.timeless = (turnsUnder key turns).map Turn.timeless →
        (under key ((Layer.new readiness).run turns)).map Outcome.shown =
          ((Layer.new readiness).run alone).map Outcome.shown) ∧
    (∀ others : List (Turn ρ κ φ β),
      (∀ key, (turnsUnder key turns).map Turn.timeless =
        (turnsUnder key others).map Turn.timeless) →
        (reported ((Layer.new readiness).run turns)).timeless.records.Perm
          (reported ((Layer.new readiness).run others)).timeless.records) := by
  constructor
  · intro key alone halone
    exact shown_run_alone (Layer.new readiness) halone
  · intro others hothers
    have hperm := (perm_labelled (Layer.new readiness) hothers).map Prod.snd
    rwa [map_snd_labelled, map_snd_labelled] at hperm

/-- A call that is answered and read, with another one that fails in between, before, or not at
all. -/
theorem calls_do_not_mix_answered_failing :
    let request (path : String) : Request :=
      ⟨Method.get, .http11, ⟨none, path, none⟩, [], none⟩
    let conduct : Conduct FixedReadiness ScriptedCall ListedBody :=
      { readiness := inferInstance
        call := fun r =>
          if r.target.path = "/failing" then .start r none 1 (.failed "broken")
          else .start r none 0 (.responded 201 [] (ListedBody.full [0x61, 0x62]))
        future := inferInstance
        body := inferInstance }
    let mixed : List (Turn FixedReadiness Nat ScriptedCall ListedBody) :=
      [⟨conduct, .start 0 (request "/answered") Instant.epoch 0⟩,
        ⟨conduct, .start 1 (request "/failing") Instant.epoch 1⟩, ⟨conduct, .call 1 2 .poll⟩,
        ⟨conduct, .call 0 3 .poll⟩, ⟨conduct, .call 1 4 .poll⟩, ⟨conduct, .call 0 5 .frame⟩]
    let ordered : List (Turn FixedReadiness Nat ScriptedCall ListedBody) :=
      [⟨conduct, .start 1 (request "/failing") Instant.epoch 0⟩, ⟨conduct, .call 1 1 .poll⟩,
        ⟨conduct, .call 1 2 .poll⟩, ⟨conduct, .start 0 (request "/answered") Instant.epoch 3⟩,
        ⟨conduct, .call 0 4 .poll⟩, ⟨conduct, .call 0 6 .frame⟩]
    let alone : List (Turn FixedReadiness Nat ScriptedCall ListedBody) :=
      [⟨conduct, .start 0 (request "/answered") Instant.epoch 7⟩, ⟨conduct, .call 0 8 .poll⟩,
        ⟨conduct, .call 0 9 .frame⟩]
    let layer : Layer FixedReadiness Nat ScriptedCall ListedBody := Layer.new ⟨.ready⟩
    alone.map Turn.timeless = (turnsUnder 0 mixed).map Turn.timeless ∧
      (∀ key, (turnsUnder key mixed).map Turn.timeless =
        (turnsUnder key ordered).map Turn.timeless) ∧
      (under 0 (layer.run mixed)).map Outcome.shown =
        (layer.run alone).map Outcome.shown ∧
      (reported (layer.run mixed)).timeless.records.Perm
        (reported (layer.run ordered)).timeless.records := by
  intro request conduct mixed ordered alone layer
  have halone : alone.map Turn.timeless = (turnsUnder 0 mixed).map Turn.timeless := rfl
  have hordered : ∀ key, (turnsUnder key mixed).map Turn.timeless =
      (turnsUnder key ordered).map Turn.timeless := by
    intro key
    match key with
    | 0 => rfl
    | 1 => rfl
    | n + 2 => rfl
  have hmix := calls_do_not_mix ⟨.ready⟩ mixed
  exact ⟨halone, hordered, hmix.1 0 alone halone, hmix.2 ordered hordered⟩

end HttpTelemetry.Reporting
