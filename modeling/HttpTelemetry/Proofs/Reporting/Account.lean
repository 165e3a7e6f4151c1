import HttpTelemetry.Proofs.Reporting.Bare
import HttpTelemetry.Proofs.Reporting.Turns

/-!
# Calls are reported by their accounts

The layer and the service without it take the same turns. The state that the layer keeps of a call
says what is still owed to the sink: nothing once the call is gone or its capture handed over, and
otherwise the account of what the service does from now on, with the status and the size that the
capture holds already. Each turn pays exactly the difference.
-/

set_option autoImplicit false

namespace HttpTelemetry.Reporting

open Http (Body BodyPoll Frame Request Status)
open Calendar (Instant)

variable {ρ κ φ β : Type}

/-- The account of a call whose response has shown a status, if any, and some body data before. -/
def owed (key : κ) (record : RequestRecord) (started : Nat) (status? : Option Status) (size : Nat)
    (seen : List (Outcome (Bare ρ κ φ β) ρ κ φ β)) : Reports :=
  match seen.find? (·.completes key) with
  | none => Reports.none
  | some last =>
    let before := seen.takeWhile fun o => !o.completes key
    match status?.or ((before.findSome? Outcome.head?).map (·.status)) with
    | some status =>
      { records := [complete record started last.step.time status
          (min (size + (before.map Outcome.octets).sum + last.octets)
            ResponseCapture.largestSize)] }
    | none => reportFailure record started last.step.time

theorem account_eq_owed (key : κ) (request : Request) (timestamp : Instant) (started : Nat)
    (seen : List (Outcome (Bare ρ κ φ β) ρ κ φ β)) :
    account key request timestamp started seen =
      owed key (RequestRecord.ofRequest request timestamp) started none 0 seen := by
  unfold account owed
  cases seen.find? (·.completes key) with
  | none => rfl
  | some last =>
    simp only [Option.none_or, Nat.zero_add]
    cases (seen.takeWhile fun o => !o.completes key).findSome? Outcome.head? with
    | none => rfl
    | some head => rfl

section Owed

variable {key : κ} {o : Outcome (Bare ρ κ φ β) ρ κ φ β} (record : RequestRecord) (started : Nat)
  (rest : List (Outcome (Bare ρ κ φ β) ρ κ φ β))

@[simp] theorem owed_nil (key : κ) (status? : Option Status) (size : Nat) :
    owed key record started status? size ([] : List (Outcome (Bare ρ κ φ β) ρ κ φ β)) = Reports.none := rfl

theorem owed_none_of_completes (size : Nat) (h : o.completes key = true) :
    owed key record started none size (o :: rest) =
      reportFailure record started o.step.time := by
  simp [owed, h]

theorem owed_some_of_completes (status : Status) (size : Nat) (h : o.completes key = true) :
    owed key record started (some status) size (o :: rest) =
      { records := [complete record started o.step.time status
          (min (size + o.octets) ResponseCapture.largestSize)] } := by
  simp [owed, h]

theorem owed_of_not_completes (status? : Option Status) (size : Nat)
    (h : o.completes key = false) :
    owed key record started status? size (o :: rest) =
      owed key record started (status?.or (o.head?.map (·.status))) (size + o.octets) rest := by
  unfold owed
  rw [List.find?_cons_of_neg (by simp [h])]
  cases rest.find? (·.completes key) with
  | none => rfl
  | some last =>
    have htake : (o :: rest).takeWhile (fun o => !o.completes key) =
        o :: rest.takeWhile fun o => !o.completes key := by simp [h]
    have hhead : ∀ before : List (Outcome (Bare ρ κ φ β) ρ κ φ β),
        status?.or (((o :: before).findSome? Outcome.head?).map (·.status)) =
          (status?.or (o.head?.map (·.status))).or
            ((before.findSome? Outcome.head?).map (·.status)) := by
      intro before
      cases hs : o.head? <;> cases status? <;> simp [hs]
    simp only [htake, hhead, List.map_cons, List.sum_cons, Nat.add_assoc]

theorem owed_min (key : κ) (status : Status) (size : Nat) :
    owed key record started (some status) (min size ResponseCapture.largestSize) rest =
      owed key record started (some status) size rest := by
  unfold owed
  cases rest.find? (·.completes key) with
  | none => rfl
  | some last =>
    have hmin : ∀ a b : Nat, min (min size ResponseCapture.largestSize + a + b)
        ResponseCapture.largestSize = min (size + a + b) ResponseCapture.largestSize := by
      intro a b
      omega
    simp only [Option.some_or, hmin]

theorem length_records_owed (key : κ) (status? : Option Status) (size : Nat) :
    (owed key record started status? size rest).records.length =
      if rest.any (·.completes key) then 1 else 0 := by
  unfold owed
  cases hfind : rest.find? (·.completes key) with
  | none =>
    have hany : rest.any (·.completes key) = false := by
      rw [List.any_eq_false]
      exact List.find?_eq_none.mp hfind
    rw [hany]
    rfl
  | some last =>
    have hany : rest.any (·.completes key) = true :=
      List.any_eq_true.mpr ⟨last, List.mem_of_find?_eq_some hfind, List.find?_some hfind⟩
    rw [hany]
    dsimp only
    split <;> rfl

end Owed

/-- What is still owed for a call, given what the service does from now on. -/
def due (key : κ) : Option (Call φ β) → List (Outcome (Bare ρ κ φ β) ρ κ φ β) → Reports
  | none, _ => Reports.none
  | some (.waiting record started _), seen => owed key record started none 0 seen
  | some (.responding record started body), seen =>
    if body.handedOver then Reports.none
    else owed key record started (some body.capture.status) body.capture.size seen

section Due

variable {key : κ} {o : Outcome (Bare ρ κ φ β) ρ κ φ β} {record : RequestRecord}
  {started now : Nat} {s : CallStep} {result : StepResult}
  (rest : List (Outcome (Bare ρ κ φ β) ρ κ φ β))

theorem completes_of_drop (key : κ) (hstep : o.step = .call key now .drop) :
    o.completes key = true := by
  simp only [Outcome.completes, hstep]

theorem completes_of_result (hstep : o.step = .call key now s) (hs : s ≠ .drop)
    (hresult : o.result = .step result) : o.completes key = result.ends (o.bodyAtEnd key) := by
  simp only [Outcome.completes, hstep, hresult]

theorem head?_of_result (h : o.result = .step result) : o.head? = result.head? := by
  simp only [Outcome.head?, h]

theorem octets_of_result (h : o.result = .step result) : o.octets = result.octets := by
  simp only [Outcome.octets, h]

theorem bodyAtEnd_of_after {body : β} (h : o.after.calls key = some (.responding body)) :
    o.bodyAtEnd key = o.conduct.body.isEnd body := by
  simp only [Outcome.bodyAtEnd, h]

theorem due_waiting_of_completes (progress : Progress φ) (hcompletes : o.completes key = true) :
    due key (some (.waiting record started progress : Call φ β)) (o :: rest) =
      reportFailure record started o.step.time :=
  owed_none_of_completes record started rest 0 hcompletes

theorem due_waiting_of_not_completes (progress : Progress φ)
    (hcompletes : o.completes key = false) :
    due key (some (.waiting record started progress : Call φ β)) (o :: rest) =
      owed key record started (o.head?.map (·.status)) o.octets rest := by
  simp only [due]
  rw [owed_of_not_completes record started rest none 0 hcompletes, Option.none_or, Nat.zero_add]

theorem due_of_quiet (call : Option (Call φ β)) (hcompletes : o.completes key = false)
    (hhead : o.head? = none) (hoctets : o.octets = 0) :
    due key call (o :: rest) = due key call rest := by
  cases call with
  | none => rfl
  | some call =>
    cases call with
    | waiting record started progress =>
      rw [due_waiting_of_not_completes rest progress hcompletes, hhead, hoctets]
      rfl
    | responding record started body =>
      simp only [due]
      rw [owed_of_not_completes record started rest _ _ hcompletes, hhead, hoctets]
      rfl

theorem due_of_poll [Future φ β] (progress : Progress φ) (future : φ)
    (hstep : o.step = .call key now .poll)
    (hresult : o.result = .step (Call.poll (β := β) record started now future).1) :
    due key (some (.waiting record started progress)) (o :: rest) =
      (Call.poll record started now future).2.2 ++
        due key (Call.poll record started now future).2.1 rest := by
  have hcompletes := completes_of_result hstep nofun hresult
  have hhead := head?_of_result hresult
  have hoctets := octets_of_result hresult
  have htime : o.step.time = now := congrArg Step.time hstep
  cases hpoll : Future.poll future with
  | mk polled next =>
    simp only [Call.poll, hpoll] at hcompletes hhead hoctets ⊢
    cases polled with
    | pending =>
      rw [due_waiting_of_not_completes rest progress hcompletes, hhead, hoctets]
      rfl
    | responded head body =>
      rw [due_waiting_of_not_completes rest progress hcompletes, hhead, hoctets]
      rfl
    | failed message =>
      rw [due_waiting_of_completes rest progress hcompletes, htime]
      exact (append_none _).symm
    | panicked =>
      rw [due_waiting_of_completes rest progress hcompletes, htime]
      exact (append_none _).symm

theorem due_of_frame [Body β] {body : CapturedBody β} (htime : o.step.time = now)
    (hcompletes : o.completes key = CapturedBody.completes (Body.poll body.inner).1
      (Body.isEnd (Body.poll body.inner).2))
    (hoctets : o.octets = (Body.poll body.inner).1.octets) :
    due key (some (.responding record started body)) (o :: rest) =
      reportCapture record started now body.poll.2.2 ++
        due key (some (.responding record started body.poll.2.1)) rest := by
  cases h : CapturedBody.completes (Body.poll body.inner).1 (Body.isEnd (Body.poll body.inner).2) with
  | true =>
    obtain ⟨hover, hcapture⟩ := CapturedBody.poll_of_completes h
    rw [hcapture]
    simp only [due, hover, if_true, append_none]
    -- A capture that was handed over before leaves nothing to pay, whatever else is polled.
    cases body.handedOver with
    | true => rfl
    | false =>
      rw [if_neg Bool.false_ne_true, if_neg Bool.false_ne_true,
        owed_some_of_completes record started rest _ _ (hcompletes.trans h), hoctets, htime]
      simp only [reportCapture, CapturedBody.status_note, CapturedBody.size_note]
  | false =>
    obtain ⟨hover, hcapture⟩ := CapturedBody.poll_of_not_completes h
    rw [hcapture]
    simp only [due, hover, reportCapture, none_append]
    cases body.handedOver with
    | true => rfl
    | false =>
      -- The capture stops counting at its largest size; `owed_min` makes up for that.
      rw [if_neg Bool.false_ne_true, if_neg Bool.false_ne_true,
        owed_of_not_completes record started rest _ _ (hcompletes.trans h), Option.some_or,
        CapturedBody.poll_capture, CapturedBody.status_note, CapturedBody.size_note, owed_min,
        hoctets]

theorem due_of_drop (call : Call φ β) (htime : o.step.time = now)
    (hcompletes : o.completes key = true) (hoctets : o.octets = 0) :
    due key (some call) (o :: rest) = call.drop now := by
  rw [← htime]
  cases call with
  | waiting record started progress => exact due_waiting_of_completes rest progress hcompletes
  | responding record started body =>
    simp only [due, Call.drop, CapturedBody.drop]
    cases body.handedOver with
    | true => rfl
    | false =>
      rw [if_neg Bool.false_ne_true, if_neg Bool.false_ne_true,
        owed_some_of_completes record started rest _ _ hcompletes, hoctets, Nat.add_zero,
        Nat.min_eq_left body.capture.size_le]
      rfl

/-- Each step of a call reports the difference between what is owed before and after it. -/
theorem due_of_step [Future φ β] [Body β] (service : Service φ) (call : Option (Call φ β))
    (hstep : o.step = .call key now s) (hbody : o.conduct.body = ‹Body β›)
    (hresult : o.result = .step (Call.step service now call s).1)
    (hafter : o.after.calls key =
      (Call.step service now call s).2.1.map (Call.bare .atPoll service)) :
    due key call (o :: rest) =
      (Call.step service now call s).2.2 ++ due key (Call.step service now call s).2.1 rest := by
  have htime : o.step.time = now := congrArg Step.time hstep
  have hhead := head?_of_result hresult
  have hoctets := octets_of_result hresult
  match call, s with
  | none, _ => rfl
  | some call, .drop =>
    rw [due_of_drop rest call htime (completes_of_drop key hstep) hoctets]
    exact (append_none _).symm
  | some (.waiting record started progress), .poll =>
    exact due_of_poll rest progress (progress.future service) hstep hresult
  | some (.responding record started body), .frame =>
    have hpolled : o.result = .step (.polled (Body.poll body.inner).1) := by
      rw [hresult, ← CapturedBody.poll_result]
      rfl
    have hsending : o.after.calls key = some (.responding (Body.poll body.inner).2) := by
      rw [hafter, ← CapturedBody.poll_inner]
      rfl
    have hcompletes := completes_of_result hstep nofun hpolled
    rw [bodyAtEnd_of_after hsending, hbody] at hcompletes
    refine due_of_frame rest htime (hcompletes.trans ?_) (octets_of_result hpolled)
    cases (Body.poll body.inner).1 <;> rfl
  | some (.waiting record started progress), .frame =>
    exact due_of_quiet rest _ (completes_of_result hstep nofun hresult) hhead hoctets
  | some (.waiting record started progress), .hint =>
    exact due_of_quiet rest _ (completes_of_result hstep nofun hresult) hhead hoctets
  | some (.responding record started body), .poll =>
    exact due_of_quiet rest _ (completes_of_result hstep nofun hresult) hhead hoctets
  | some (.responding record started body), .hint =>
    exact due_of_quiet rest _ (completes_of_result hstep nofun hresult) hhead hoctets

end Due

section Runs

/-- The calls of a layer are those of its service without it, which gets requests at the first poll.
What the service makes of a request plays no part in that. -/
def Shared (l : Layer ρ κ φ β) (b : Bare ρ κ φ β) : Prop :=
  ∀ service, b.calls = l.bareCalls .atPoll service

theorem shared_new (readiness : ρ) :
    Shared (Layer.new readiness : Layer ρ κ φ β) (Bare.new readiness) := fun _ => rfl

variable [DecidableEq κ]

theorem due_of_start (l : Layer ρ κ φ β) (b : Bare ρ κ φ β) (key : κ) (c : Conduct ρ φ β)
    (request : Request) (timestamp : Instant) (now : Nat) :
    due key (l.calls key) [b.take .atPoll ⟨c, .start key request timestamp now⟩] =
      (l.take ⟨c, .start key request timestamp now⟩).reports := by
  cases hcall : l.calls key with
  | none => simp only [due, Layer.take, Layer.step, hcall]
  | some call =>
    have hreports : (l.take ⟨c, .start key request timestamp now⟩).reports = call.drop now := by
      simp only [Layer.take, Layer.step, hcall]
    rw [hreports]
    exact due_of_drop [] call rfl rfl rfl

section Shared

variable {l : Layer ρ κ φ β} {b : Bare ρ κ φ β} (h : Shared l b)
include h

theorem Shared.take (t : Turn ρ κ φ β) : Shared (l.take t).after (b.take .atPoll t).after := by
  intro service
  exact (bare_take .atPoll t (h t.conduct.call)).2

theorem Shared.due_of_call (key : κ) (c : Conduct ρ φ β) (now : Nat) (s : CallStep)
    (rest : List (Outcome (Bare ρ κ φ β) ρ κ φ β)) :
    due key (l.calls key) (b.take .atPoll ⟨c, .call key now s⟩ :: rest) =
      (l.take ⟨c, .call key now s⟩).reports ++
        due key ((l.take ⟨c, .call key now s⟩).after.calls key) rest := by
  obtain ⟨hresult, hcalls⟩ := bare_take .atPoll ⟨c, .call key now s⟩ (h c.call)
  obtain ⟨readiness, service, future, body⟩ := c
  have hafter : (l.take ⟨⟨readiness, service, future, body⟩, .call key now s⟩).after.calls key =
      (Call.step service now (l.calls key) s).2.1 := l.calls_setCall_self key _
  have hbare := congrFun hcalls key
  rw [Layer.bareCalls, hafter] at hbare
  rw [hafter]
  exact due_of_step rest service (l.calls key) rfl rfl (hresult nofun) hbare

theorem Shared.reported_life (key : κ) (turns : List (Turn ρ κ φ β)) :
    reported (life key (l.run turns)) = due key (l.calls key) (life key (b.run .atPoll turns)) := by
  -- By induction on the turns; what is carried along is that both hold the same calls.
  induction turns generalizing l b with
  | nil =>
    change Reports.none = due key (l.calls key) []
    cases l.calls key with
    | none => rfl
    | some call =>
      cases call with
      | waiting record started progress => rfl
      | responding record started body =>
        simp only [due, owed_nil, ite_self]
  | cons t turns ih =>
    obtain ⟨c, s⟩ := t
    by_cases hkey : s.key? = some key
    · cases s with
      | ready => cases hkey
      | start k request timestamp now =>
        obtain rfl : k = key := Option.some.inj hkey
        rw [Layer.run, Bare.run, life_cons_of_start _ rfl rfl, life_cons_of_start _ rfl rfl,
          due_of_start, reported_cons, reported_nil, append_none]
      | call k now s =>
        obtain rfl : k = key := Option.some.inj hkey
        rw [Layer.run, Bare.run, life_cons_of_call _ rfl rfl, life_cons_of_call _ rfl rfl,
          reported_cons, ih (h.take _)]
        exact (h.due_of_call k c now s _).symm
    · rw [Layer.run, Bare.run, life_cons_of_ne _ hkey, life_cons_of_ne _ hkey, ih (h.take _),
        Layer.take_calls_of_ne l hkey]

/-- From the start of a call on, its life under the layer is reported by its life without it. -/
theorem Shared.reported_after_start (key : κ) (earlier later : List (Turn ρ κ φ β))
    (c : Conduct ρ φ β) (request : Request) (timestamp : Instant) (started : Nat) :
    let turns := earlier ++ ⟨c, .start key request timestamp started⟩ :: later
    reported (life key ((l.run turns).drop (earlier.length + 1))) =
      due key (some (Call.start request timestamp started : Call φ β))
        (life key ((b.run .atPoll turns).drop (earlier.length + 1))) := by
  induction earlier generalizing l b with
  | nil =>
    have hlife := (h.take ⟨c, .start key request timestamp started⟩).reported_life key later
    rwa [l.calls_take_start] at hlife
  | cons t earlier ih => exact ih (h.take t)

end Shared

/-- From its start on, every call is reported by the account of its life: by nothing until a turn
completes it, and then by the one record of its request, with what the service has answered. -/
theorem reported_eq_account (readiness : ρ) (key : κ) (earlier later : List (Turn ρ κ φ β))
    (c : Conduct ρ φ β) (request : Request) (timestamp : Instant) (started : Nat) :
    let turns := earlier ++ ⟨c, .start key request timestamp started⟩ :: later
    let outcomes := (Layer.new readiness).run turns
    let answers := (Bare.new readiness).run .atPoll turns
    reported (life key (outcomes.drop (earlier.length + 1))) =
      account key request timestamp started (life key (answers.drop (earlier.length + 1))) := by
  intro turns outcomes answers
  rw [account_eq_owed]
  exact (shared_new readiness).reported_after_start key earlier later c request timestamp started

/-- Over every run from a layer without calls, each call that is started has one record as soon as a
turn completes it, by the step that is taken or by what the service answers to it, and none before.
Nothing else is reported: neither under a key where no call has been started yet, nor when readiness
is asked for. -/
theorem reported_once (readiness : ρ) (key : κ) (earlier later : List (Turn ρ κ φ β))
    (c : Conduct ρ φ β) (request : Request) (timestamp : Instant) (started : Nat) :
    let turns := earlier ++ ⟨c, .start key request timestamp started⟩ :: later
    let outcomes := (Layer.new readiness).run turns
    let answers := (Bare.new readiness).run .atPoll turns
    (reported (life key (outcomes.drop (earlier.length + 1)))).records.length =
        (if (life key (answers.drop (earlier.length + 1))).any (·.completes key) then 1 else 0) ∧
      (∀ k, reported (life k outcomes) = Reports.none) ∧
      reported (outcomes.filter fun o => o.step.key? = none) = Reports.none := by
  intro turns outcomes answers
  have hshared : Shared (Layer.new readiness : Layer ρ κ φ β) (Bare.new readiness) :=
    shared_new readiness
  refine ⟨?_, ?_, ?_⟩
  · have hreported := hshared.reported_after_start key earlier later c request timestamp started
    rw [hreported]
    exact length_records_owed _ started _ key none 0
  · intro k
    exact hshared.reported_life k turns
  · exact (Layer.new readiness).reported_ready_run turns

end Runs

end HttpTelemetry.Reporting
