import HttpTelemetry.Reporting.Bare

/-!
# What the layer does to its service

The layer does to the futures and bodies of its service what is done to them without the layer: each
turn takes the calls, less what the layer adds to them, to the calls of the service itself. This holds
of services that get requests at the first poll, as they do from the layer, and of those that get
them at the start.
-/

set_option autoImplicit false

namespace HttpTelemetry.Reporting

open Http (Body)

variable {ρ κ φ β : Type} (handing : Handing) (service : Service φ)

theorem future_progress (progress : Progress φ) :
    (handing.progress service progress).future service = progress.future service := by
  cases handing with
  | atStart => rfl
  | atPoll => rfl

theorem progress_running (future : φ) :
    handing.progress service (.running future) = .running future := by
  cases handing with
  | atStart => rfl
  | atPoll => rfl

section Steps

variable [Future φ β]

theorem bare_poll (record : RequestRecord) (started now : Nat) (future : φ) :
    (BareCall.poll future : StepResult × Option (BareCall φ β)) =
      ((Call.poll record started now future).1,
        (Call.poll record started now future).2.1.map (Call.bare handing service)) := by
  unfold BareCall.poll Call.poll
  cases Future.poll future with
  | mk polled next =>
    cases polled with
    | pending =>
      have hnext : (.waiting (.running next) : BareCall φ β) =
          .waiting (handing.progress service (.running next)) :=
        congrArg BareCall.waiting (progress_running handing service next).symm
      exact congrArg (fun call => (StepResult.pending, some call)) hnext
    | responded head body => rfl
    | failed message => rfl
    | panicked => rfl

theorem bare_frame [Body β] (now : Nat) (record : RequestRecord) (started : Nat)
    (body : CapturedBody β) :
    BareCall.step service (some (.responding body.inner) : Option (BareCall φ β)) .frame =
      ((Call.step service now (some (.responding record started body)) .frame).1,
        (Call.step service now (some (.responding record started body)) .frame).2.1.map
          (Call.bare handing service)) := by
  have hresult : (Call.step service now (some (.responding record started body)) .frame).1 =
      .polled (Body.poll body.inner).1 := congrArg StepResult.polled body.poll_result
  have hcall : (Call.step service now (some (.responding record started body)) .frame).2.1.map
      (Call.bare handing service) = some (.responding (Body.poll body.inner).2) :=
    congrArg (fun inner => some (BareCall.responding inner)) body.poll_inner
  rw [hresult, hcall]
  rfl

theorem bare_step [Body β] (now : Nat) (call : Option (Call φ β)) (s : CallStep) :
    BareCall.step service (call.map (Call.bare handing service)) s =
      ((Call.step service now call s).1,
        (Call.step service now call s).2.1.map (Call.bare handing service)) := by
  cases call with
  | none => rfl
  | some call =>
    cases call with
    | waiting record started progress =>
      cases s with
      | poll =>
        change BareCall.poll ((handing.progress service progress).future service) = _
        rw [future_progress]
        exact bare_poll handing service record started now (progress.future service)
      | frame => rfl
      | hint => rfl
      | drop => rfl
    | responding record started body =>
      cases s with
      | poll => rfl
      | frame => exact bare_frame handing service now record started body
      | hint => rfl
      | drop => rfl

end Steps

variable [DecidableEq κ]

theorem bareCalls_setCall (l : Layer ρ κ φ β) (b : Bare ρ κ φ β) (key : κ)
    (call : Option (Call φ β)) (h : b.calls = l.bareCalls handing service) :
    (b.setCall key (call.map (Call.bare handing service))).calls =
      (l.setCall key call).bareCalls handing service := by
  unfold Layer.bareCalls Layer.setCall Bare.setCall
  funext k
  rw [h]
  dsimp only
  split <;> rfl

/-- One turn on a layer and on the service that it would be without itself. -/
theorem bare_take {l : Layer ρ κ φ β} {b : Bare ρ κ φ β} (t : Turn ρ κ φ β)
    (h : b.calls = l.bareCalls handing t.conduct.call) :
    (t.step ≠ .ready → (b.take handing t).result = (l.take t).result) ∧
      (b.take handing t).after.calls = (l.take t).after.bareCalls handing t.conduct.call := by
  obtain ⟨⟨readiness, service, future, body⟩, s⟩ := t
  cases s with
  | ready => exact ⟨fun hready => absurd rfl hready, h⟩
  | start key request timestamp now =>
    refine ⟨fun _ => rfl, ?_⟩
    exact bareCalls_setCall handing service { l with readiness := Readiness.copy l.readiness }
      { b with readiness := Readiness.afterCall b.readiness } key
      (some (Call.start request timestamp now)) h
  | call key now s =>
    have hstep := bare_step handing service now (l.calls key) s
    have hkey : b.calls key = (l.calls key).map (Call.bare handing service) := congrFun h key
    rw [← hkey] at hstep
    have hresult : (BareCall.step service (b.calls key) s).1 =
        (Call.step service now (l.calls key) s).1 := congrArg Prod.fst hstep
    have hnext : (BareCall.step service (b.calls key) s).2 =
        (Call.step service now (l.calls key) s).2.1.map (Call.bare handing service) :=
      congrArg Prod.snd hstep
    refine ⟨fun _ => congrArg LayerResult.step hresult, ?_⟩
    have hcalls := bareCalls_setCall handing service l b key
      (Call.step service now (l.calls key) s).2.1 h
    rw [← hnext] at hcalls
    exact hcalls

end HttpTelemetry.Reporting
