import HttpTelemetry.Proofs.Reporting.Turns
import HttpTelemetry.Reporting.Exchange

/-!
# Exchanges have one record

Once a call has its response, its record waits for the end of the body. A body of known content gives
all of it at the first poll, and is at its end then; so the call is reported with the first poll of
its body, or when the body is dropped, and never again.
-/

set_option autoImplicit false

namespace HttpTelemetry.Reporting

open Http (Body BodyPoll ListedBody Response)

/-- Whether some steps poll the body of a response before they drop it. -/
def pollsBody : List CallStep → Bool
  | [] => false
  | .frame :: _ => true
  | .drop :: _ => false
  | .poll :: steps | .hint :: steps => pollsBody steps

/-- Steps that read a body of known content to its end, or drop it. -/
def EndsResponse (steps : List CallStep) : Prop := pollsBody steps = true ∨ .drop ∈ steps

/-! ### What is read -/

section Reading

variable {φ : Type} [Future φ ListedBody] (service : Service φ) (now : Nat)
  (record : RequestRecord) (started : Nat)

theorem shownData_run_none (steps : List CallStep) :
    shownData (Call.run service now (none : Option (Call φ ListedBody)) steps).1 = [] := by
  induction steps with
  | nil => rfl
  | cons s steps ih => exact ih

theorem shownData_run_of_end {body : CapturedBody ListedBody} (h : body.inner.polls = [])
    (steps : List CallStep) :
    let call : Call φ ListedBody := .responding record started body
    shownData (Call.run service now (some call) steps).1 = [] := by
  induction steps generalizing body with
  | nil => rfl
  | cons s steps ih =>
    cases s with
    | poll => exact ih h
    | hint => exact ih h
    | drop => exact shownData_run_none service now steps
    | frame =>
      have hpoll : Body.poll body.inner = (.finished, body.inner) := by
        simp only [Body.poll, ListedBody.poll, h]
      have hrest : body.poll.2.1.inner.polls = [] := by rwa [CapturedBody.poll_inner, hpoll]
      dsimp only [Call.run, Call.step]
      rw [CapturedBody.poll_result, hpoll]
      exact ih hrest

/-- A body of known content that is polled before it is dropped shows its content. -/
theorem shownData_run_full (body : CapturedBody ListedBody) {content : Bytes}
    (hbody : body.inner = ListedBody.full content) {steps : List CallStep}
    (h : pollsBody steps = true) :
    let call : Call φ ListedBody := .responding record started body
    shownData (Call.run service now (some call) steps).1 = content := by
  induction steps with
  | nil => cases h
  | cons s steps ih =>
    cases s with
    | poll => exact ih h
    | hint => exact ih h
    | drop => cases h
    | frame =>
      dsimp only [Call.run, Call.step]
      rw [CapturedBody.poll_result, hbody]
      have hend : body.poll.2.1.inner.polls = [] := by
        rw [CapturedBody.poll_inner, hbody]
        cases content <;> rfl
      have hrest := shownData_run_of_end service now record started hend steps
      cases content with
      | nil => exact hrest
      | cons octet rest =>
        change octet :: rest ++ shownData _ = octet :: rest
        rw [hrest, List.append_nil]

end Reading

/-! ### What is reported -/

theorem completes_full (content : Bytes) :
    let body := ListedBody.full content
    CapturedBody.completes (Body.poll body).1 (Body.isEnd (Body.poll body).2) = true := by
  cases content with
  | nil => rfl
  | cons octet rest => rfl

section Runs

variable {φ β : Type} [Future φ β] [Body β] (service : Service φ) (now : Nat)
  (record : RequestRecord) (started : Nat)

theorem records_append (a b : Reports) : (a ++ b).records = a.records ++ b.records := rfl

theorem records_run_none (steps : List CallStep) :
    (Call.run service now (none : Option (Call φ β)) steps).2.records = [] := by
  induction steps with
  | nil => rfl
  | cons s steps ih => exact ih

theorem records_run_of_handedOver {body : CapturedBody β} (h : body.handedOver = true)
    (steps : List CallStep) :
    let call : Call φ β := .responding record started body
    (Call.run service now (some call) steps).2.records = [] := by
  induction steps generalizing body with
  | nil => rfl
  | cons s steps ih =>
    cases s with
    | poll => exact ih h
    | hint => exact ih h
    | drop =>
      dsimp only [Call.run, Call.step, Call.drop]
      rw [records_append, records_run_none, CapturedBody.drop, if_pos h]
      rfl
    | frame =>
      have hpoll := CapturedBody.poll_of_handedOver h
      dsimp only [Call.run, Call.step]
      rw [records_append, hpoll.2, ih hpoll.1]
      rfl

/-- A body that the next poll completes is reported once, with the status that was captured. -/
theorem exists_record_run (body : CapturedBody β) (hover : body.handedOver = false)
    (hcompletes : CapturedBody.completes (Body.poll body.inner).1
      (Body.isEnd (Body.poll body.inner).2) = true)
    {steps : List CallStep} (hends : EndsResponse steps) :
    let call : Call φ β := .responding record started body
    ∃ last, (Call.run service now (some call) steps).2.records = [last] ∧
      last.status = body.capture.status := by
  induction steps with
  | nil =>
    rcases hends with h | h
    · cases h
    · cases h
  | cons s steps ih =>
    cases s with
    | poll => exact ih (by simpa [EndsResponse, pollsBody] using hends)
    | hint => exact ih (by simpa [EndsResponse, pollsBody] using hends)
    | drop =>
      dsimp only [Call.run, Call.step, Call.drop]
      rw [records_append, records_run_none, CapturedBody.drop,
        if_neg (ne_true_of_eq_false hover)]
      exact ⟨_, rfl, rfl⟩
    | frame =>
      obtain ⟨hnext, hcapture⟩ := CapturedBody.poll_of_completes hcompletes
      dsimp only [Call.run, Call.step]
      rw [records_append, hcapture, records_run_of_handedOver service now record started hnext,
        if_neg (ne_true_of_eq_false hover)]
      exact ⟨_, rfl, CapturedBody.status_note _ _⟩

end Runs

/-! ### Answered calls -/

theorem shownData_run_answering (request : Http.Request) (timestamp : Calendar.Instant)
    (response : Response) {steps : List CallStep} (h : pollsBody steps = true) :
    let call : Call Answered ListedBody := Call.start request timestamp 0
    shownData ((Call.run (answering response) 0 (some call) (.poll :: steps)).1.drop 1) =
      response.body :=
  shownData_run_full (answering response) 0 (RequestRecord.ofRequest request timestamp) 0
    ⟨ListedBody.full response.body, ResponseCapture.empty.writeHead response.status, false⟩ rfl h

/-- An answered call is reported once if its response is ended, with the status of the answer. -/
theorem exists_record_run_answering (request : Http.Request) (timestamp : Calendar.Instant)
    (response : Response) {steps : List CallStep} (hends : EndsResponse steps) :
    let call : Call Answered ListedBody := Call.start request timestamp 0
    ∃ last, (Call.run (answering response) 0 (some call) (.poll :: steps)).2.records = [last] ∧
      last.status = response.status :=
  exists_record_run (answering response) 0 (RequestRecord.ofRequest request timestamp) 0
    ⟨ListedBody.full response.body, ResponseCapture.empty.writeHead response.status, false⟩ rfl
    (completes_full response.body) hends

end HttpTelemetry.Reporting
