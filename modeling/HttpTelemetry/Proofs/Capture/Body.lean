import HttpTelemetry.Capture.Body
import Mathlib.Algebra.Ring.Nat

/-!
# Captures are handed over once

Over the whole life of a captured body, its capture is handed over in exactly one step: the first
one that ends the response. The capture holds the data of the steps up to that one. The body may be
polled on after that, and then nobody is told.
-/

set_option autoImplicit false

namespace HttpTelemetry.CapturedBody

open Http (Body BodyPoll Frame Status)

variable {β : Type} [Body β]

/-- The inner body after a step, which only polls change. -/
def next (inner : β) : Step → β
  | .frame => (Body.poll inner).2
  | .hint | .drop => inner

def left (inner : β) (steps : List Step) : β := steps.foldl next inner

/-- Results that end a response. Frames do if the inner body says that it is at its end. -/
inductive Ends (atEnd : Bool) : Result → Prop where
  | failed (message : String) : Ends atEnd (.polled (.failed message))
  | finished : Ends atEnd (.polled .finished)
  | lastFrame (f : Frame) : atEnd = true → Ends atEnd (.polled (.frame f))
  | dropped : Ends atEnd .dropped

def Result.octets : Result → Nat
  | .polled result => result.octets
  | _ => 0

/-- The capture after a step with a result. -/
def counted (capture : ResponseCapture) : Result → ResponseCapture
  | .polled result => note capture result
  | _ => capture

section Results

variable {atEnd : Bool} (capture : ResponseCapture)

theorem ends_polled_iff {result : BodyPoll} :
    Ends atEnd (.polled result) ↔ completes result atEnd = true := by
  constructor
  · intro h
    cases h with
    | failed message => rfl
    | finished => rfl
    | lastFrame f hend => exact hend
  · intro h
    cases result with
    | pending => cases h
    | frame f => exact .lastFrame f h
    | failed message => exact .failed message
    | finished => exact .finished

theorem status_counted (result : Result) : (counted capture result).status = capture.status := by
  cases result with
  | polled result => exact status_note capture result
  | hint => rfl
  | dropped => rfl
  | gone => rfl

theorem size_counted (result : Result) :
    (counted capture result).size =
      min (capture.size + result.octets) ResponseCapture.largestSize := by
  have hsame : capture.size = min (capture.size + 0) ResponseCapture.largestSize :=
    (Nat.min_eq_left capture.size_le).symm
  cases result with
  | polled result => exact size_note capture result
  | hint => exact hsame
  | dropped => exact hsame
  | gone => exact hsame

end Results

/-! ### Steps -/

/-- A step hands the capture over if its result ends the response. Else the body goes on with what
has been counted. -/
theorem step_cases (inner : β) (capture : ResponseCapture) (s : Step) :
    let shown := step (some ⟨inner, capture, false⟩) s
    Ends (Body.isEnd (next inner s)) shown.1 ∧ shown.2.2 = some (counted capture shown.1) ∧
        (∀ b ∈ shown.2.1, b.handedOver = true) ∨
      ¬ Ends (Body.isEnd (next inner s)) shown.1 ∧ shown.2.2 = none ∧
        shown.2.1 = some ⟨next inner s, counted capture shown.1, false⟩ := by
  intro shown
  cases s with
  | drop => exact .inl ⟨.dropped, rfl, nofun⟩
  | hint => exact .inr ⟨nofun, rfl, rfl⟩
  | frame =>
    have hresult : shown.1 = .polled (Body.poll inner).1 :=
      congrArg Result.polled (poll_result ⟨inner, capture, false⟩)
    rw [hresult, ends_polled_iff]
    cases h : completes (Body.poll inner).1 (Body.isEnd (Body.poll inner).2) with
    | true =>
      obtain ⟨hover, hcapture⟩ := poll_of_completes (b := ⟨inner, capture, false⟩) h
      refine .inl ⟨h, hcapture, ?_⟩
      rintro _ ⟨⟩
      exact hover
    | false =>
      obtain ⟨hover, hcapture⟩ := poll_of_not_completes (b := ⟨inner, capture, false⟩) h
      have hend : ¬ completes (Body.poll inner).1 (Body.isEnd (next inner .frame)) = true :=
        ne_true_of_eq_false h
      refine .inr ⟨hend, hcapture, ?_⟩
      show some (poll ⟨inner, capture, false⟩).2.1 = _
      simp only [poll, h, Bool.false_eq_true, if_false, next, counted]

theorem step_of_handedOver {body? : Option (CapturedBody β)} (h : ∀ b ∈ body?, b.handedOver = true)
    (s : Step) :
    (step body? s).2.2 = none ∧ ∀ b ∈ (step body? s).2.1, b.handedOver = true := by
  cases body? with
  | none => exact ⟨rfl, nofun⟩
  | some b =>
    have hb : b.handedOver = true := h b rfl
    cases s with
    | drop => exact ⟨if_pos hb, nofun⟩
    | hint => exact ⟨rfl, h⟩
    | frame =>
      have hpoll := poll_of_handedOver hb
      refine ⟨hpoll.2, ?_⟩
      rintro _ ⟨⟩
      exact hpoll.1

/-! ### Runs -/

theorem run_of_handedOver {body? : Option (CapturedBody β)} (h : ∀ b ∈ body?, b.handedOver = true)
    (steps : List Step) : ∀ shown ∈ (run body? steps).1, shown.2 = none := by
  induction steps generalizing body? with
  | nil => exact nofun
  | cons s steps ih =>
    obtain ⟨hcapture, hleft⟩ := step_of_handedOver h s
    intro shown hshown
    rcases List.mem_cons.mp hshown with rfl | hshown
    · exact hcapture
    · exact ih hleft shown hshown

/-- What a life shows, told from the step that hands the capture over: its result and the capture
stand between what is shown before and after. -/
structure HandsOver (inner : β) (capture : ResponseCapture) (life : List Step)
    (before : List (Result × Option ResponseCapture)) (result : Result) (final : ResponseCapture)
    (after : List (Result × Option ResponseCapture)) : Prop where
  shown : (run (some ⟨inner, capture, false⟩) life).1 = before ++ (result, some final) :: after
  ends : Ends (Body.isEnd (left inner (life.take (before.length + 1)))) result
  earlier : ∀ i r c, before[i]? = some (r, c) →
    c = none ∧ ¬ Ends (Body.isEnd (left inner (life.take (i + 1)))) r
  later : ∀ shown ∈ after, shown.2 = none
  status : final.status = capture.known.getD Status.ok
  size : final.size =
    min (capture.size + ((before.map fun shown => shown.1.octets).sum + result.octets)) (2 ^ 64 - 1)

theorem exists_handsOver (inner : β) (capture : ResponseCapture) {life : List Step}
    (hdrop : .drop ∈ life) :
    ∃ before result final after, HandsOver inner capture life before result final after := by
  induction life generalizing inner capture with
  | nil => cases hdrop
  | cons s life ih =>
    let shown := step (some ⟨inner, capture, false⟩) s
    have hrun : (run (some ⟨inner, capture, false⟩) (s :: life)).1 =
      (shown.1, shown.2.2) :: (run shown.2.1 life).1 := rfl
    have hsize := size_counted capture shown.1
    rcases step_cases inner capture s with ⟨hends, hcapture, hover⟩ | ⟨hends, hcapture, hnext⟩
    · refine ⟨[], shown.1, counted capture shown.1, (run shown.2.1 life).1, ?_⟩
      constructor
      case shown => rw [hrun, hcapture, List.nil_append]
      case ends => exact hends
      case earlier => exact nofun
      case later => exact run_of_handedOver hover life
      case status => exact status_counted capture shown.1
      case size => rwa [List.map_nil, List.sum_nil, Nat.zero_add]
    · have hs : s ≠ .drop := by
        rintro rfl
        exact hends .dropped
      have hlife : .drop ∈ life := (List.mem_cons.mp hdrop).resolve_left hs.symm
      obtain ⟨before, result, final, after, h⟩ := ih (next inner s) (counted capture shown.1) hlife
      refine ⟨(shown.1, none) :: before, result, final, after, ?_⟩
      constructor
      case shown => rw [hrun, hcapture, hnext, h.shown, List.cons_append]
      case ends => exact h.ends
      case earlier =>
        intro i r c hi
        cases i with
        | zero =>
          obtain ⟨rfl, rfl⟩ := Prod.mk.inj (Option.some.inj hi)
          exact ⟨rfl, hends⟩
        | succ i => exact h.earlier i r c hi
      case later => exact h.later
      case status => exact h.status.trans (status_counted capture shown.1)
      case size =>
        have hlargest : ResponseCapture.largestSize = 2 ^ 64 - 1 := rfl
        rw [h.size, hsize, hlargest]
        simp only [List.map_cons, List.sum_cons]
        omega

/-- Over the whole life of a captured body, whatever is done with it, the capture is handed over
once: in the first step that ends the response. It has the status that was known at the start, and
the data of the steps up to that one. -/
theorem handed_over_once (inner : β) (capture : ResponseCapture) (steps : List Step) :
    let life := steps ++ [.drop]
    (∃ before result final after, HandsOver inner capture life before result final after) ∧
      ∀ shown ∈ (run (some ⟨inner, capture, false⟩) life).1,
        (shown.1 = .polled .pending ∨ ∃ hint isEnd, shown.1 = .hint hint isEnd) →
          shown.2 = none := by
  intro life
  have hdrop : .drop ∈ life := List.mem_append_right steps List.mem_cons_self
  obtain ⟨before, result, final, after, h⟩ := exists_handsOver inner capture hdrop
  refine ⟨⟨before, result, final, after, h⟩, ?_⟩
  intro shown hshown hquiet
  rw [h.shown] at hshown
  rcases List.mem_append.mp hshown with hbefore | hrest
  · obtain ⟨i, hi⟩ := List.getElem?_of_mem hbefore
    exact (h.earlier i shown.1 shown.2 hi).1
  · rcases List.mem_cons.mp hrest with rfl | hafter
    · have hends := h.ends
      rcases hquiet with hpending | ⟨hint, isEnd, hhint⟩
      · rw [show result = _ from hpending] at hends
        cases hends
      · rw [show result = _ from hhint] at hends
        cases hends
    · exact h.later shown hafter

end HttpTelemetry.CapturedBody
