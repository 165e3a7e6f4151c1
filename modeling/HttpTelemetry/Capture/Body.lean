import HttpTelemetry.Capture.Basic
import HttpTelemetry.Http.Body

/-!
# Captured bodies

A body that passes on everything another body gives, and counts its data on the way. It hands its
capture over exactly once: when a poll fails, ends the body or gives a frame that the inner body
says was the last, or else when the body is dropped.
-/

set_option autoImplicit false

namespace HttpTelemetry

open Http (Body BodyPoll SizeHint Frame)

/-- A body with its capture, and whether the capture has been handed over. -/
structure CapturedBody (β : Type) where
  inner : β
  capture : ResponseCapture
  handedOver : Bool := false

namespace CapturedBody

variable {β : Type} [Body β]

/-- Body data counts; everything else leaves the capture as it is. -/
def note (capture : ResponseCapture) : BodyPoll → ResponseCapture
  | .frame (.data bytes) => capture.write bytes.length
  | _ => capture

/-- Whether a poll's result completes the response, given what the inner body says afterwards. -/
def completes (result : BodyPoll) (innerIsEnd : Bool) : Bool :=
  match result with
  | .pending => false
  | .frame _ => innerIsEnd
  | .failed _ => true
  | .finished => true

/-- Polls the inner body. The last part of the answer is the capture, if it is handed over now. -/
def poll (b : CapturedBody β) : BodyPoll × CapturedBody β × Option ResponseCapture :=
  let (result, inner) := Body.poll b.inner
  let capture := note b.capture result
  if completes result (Body.isEnd inner) then
    (result, ⟨inner, capture, true⟩, if b.handedOver then none else some capture)
  else (result, ⟨inner, capture, b.handedOver⟩, none)

def isEnd (b : CapturedBody β) : Bool := Body.isEnd b.inner

def hint (b : CapturedBody β) : SizeHint := Body.hint b.inner

def drop (b : CapturedBody β) : Option ResponseCapture :=
  if b.handedOver then none else some b.capture

@[simp] theorem poll_result (b : CapturedBody β) : b.poll.1 = (Body.poll b.inner).1 := by
  unfold poll
  dsimp only
  split <;> rfl

@[simp] theorem poll_inner (b : CapturedBody β) : b.poll.2.1.inner = (Body.poll b.inner).2 := by
  unfold poll
  dsimp only
  split <;> rfl

@[simp] theorem poll_capture (b : CapturedBody β) :
    b.poll.2.1.capture = note b.capture (Body.poll b.inner).1 := by
  unfold poll
  dsimp only
  split <;> rfl

/-- A poll that completes the response hands the capture over, unless that was done before. -/
theorem poll_of_completes {b : CapturedBody β}
    (h : completes (Body.poll b.inner).1 (Body.isEnd (Body.poll b.inner).2) = true) :
    b.poll.2.1.handedOver = true ∧
      b.poll.2.2 = if b.handedOver then none else some (note b.capture (Body.poll b.inner).1) := by
  unfold poll
  dsimp only
  rw [if_pos h]
  exact ⟨rfl, rfl⟩

theorem poll_of_not_completes {b : CapturedBody β}
    (h : completes (Body.poll b.inner).1 (Body.isEnd (Body.poll b.inner).2) = false) :
    b.poll.2.1.handedOver = b.handedOver ∧ b.poll.2.2 = none := by
  unfold poll
  dsimp only
  rw [if_neg (by rw [h]; exact Bool.false_ne_true)]
  exact ⟨rfl, rfl⟩

theorem poll_of_handedOver {b : CapturedBody β} (h : b.handedOver = true) :
    b.poll.2.1.handedOver = true ∧ b.poll.2.2 = none := by
  cases hc : completes (Body.poll b.inner).1 (Body.isEnd (Body.poll b.inner).2) with
  | true =>
    obtain ⟨hover, hcapture⟩ := poll_of_completes hc
    exact ⟨hover, hcapture.trans (if_pos h)⟩
  | false =>
    obtain ⟨hover, hcapture⟩ := poll_of_not_completes hc
    exact ⟨hover.trans h, hcapture⟩

@[simp] theorem status_note (c : ResponseCapture) (result : BodyPoll) :
    (note c result).status = c.status := by
  unfold note
  split <;> rfl

theorem size_note (c : ResponseCapture) (result : BodyPoll) :
    (note c result).size = min (c.size + result.octets) ResponseCapture.largestSize := by
  have hsame : c.size = min (c.size + 0) ResponseCapture.largestSize :=
    (Nat.min_eq_left c.size_le).symm
  cases result with
  | frame f =>
    cases f with
    | data bytes => rfl
    | trailers fields => exact hsame
  | pending => exact hsame
  | failed message => exact hsame
  | finished => exact hsame

/-! ### The life of a captured body -/

inductive Step where
  | frame
  | hint
  | drop
  deriving DecidableEq

inductive Result where
  | polled (result : BodyPoll)
  | hint (hint : SizeHint) (isEnd : Bool)
  | dropped
  | gone
  deriving DecidableEq

/-- One step on a body that may have been dropped before. -/
def step : Option (CapturedBody β) → Step →
    Result × Option (CapturedBody β) × Option ResponseCapture
  | none, _ => (.gone, none, none)
  | some b, .frame =>
    let (result, b, capture) := b.poll
    (.polled result, some b, capture)
  | some b, .hint => (.hint b.hint b.isEnd, some b, none)
  | some b, .drop => (.dropped, none, b.drop)

/-- The results of some steps, each with the captures handed over in it, and the body left. -/
def run (b : Option (CapturedBody β)) :
    List Step → List (Result × Option ResponseCapture) × Option (CapturedBody β)
  | [] => ([], b)
  | s :: steps =>
    let (result, b, capture) := step b s
    let (rest, b) := run b steps
    ((result, capture) :: rest, b)

end CapturedBody

end HttpTelemetry
