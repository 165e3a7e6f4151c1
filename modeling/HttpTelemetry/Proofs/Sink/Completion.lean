import HttpTelemetry.Proofs.Decimal.Digits
import HttpTelemetry.Proofs.Sink.Healthd
import Mathlib.Algebra.Ring.Int.Defs

/-!
# The time in a health log line

The first field of a health line is the time of completion, in seconds since 1970 with three places.
From 1970 on it reads as that time, rounded down to a millisecond. Before 1970 the seconds are
rounded down and the milliseconds that are left are written behind them as they are, so that the
text reads as another time unless none are left.
-/

set_option autoImplicit false

namespace HttpTelemetry

namespace Decimal

/-- Reads digits with a point in front of the last few, and counts units of the last place. -/
def unsignedUnits? (places : Nat) (cs : List Char) : Option Nat :=
  match cs.takeWhile Char.isDigit, cs.dropWhile Char.isDigit with
  | c :: digits, '.' :: fraction =>
    if fraction.length = places ∧ fraction.all Char.isDigit then
      some (Nat.ofDigitChars 10 (c :: digits) 0 * 10 ^ places + Nat.ofDigitChars 10 fraction 0)
    else none
  | _, _ => none

def units? (places : Nat) (text : String) : Option Int :=
  match text.toList with
  | '-' :: cs => (unsignedUnits? places cs).map fun n : Nat => -(n : Int)
  | cs => (unsignedUnits? places cs).map fun n : Nat => (n : Int)

section Units

variable {places part : Nat}

theorem unsignedUnits?_append (hplaces : 0 < places) (hpart : part < 10 ^ places) (whole : Nat) :
    unsignedUnits? places (Nat.toDigits 10 whole ++ '.' :: (padded places part).toList) =
      some (whole * 10 ^ places + part) := by
  have hwhole := isDigit_of_mem_toDigits whole
  have hall : (padded places part).toList.all Char.isDigit = true :=
    List.all_eq_true.mpr (isDigit_of_mem_padded places part)
  have hvalue : Nat.ofDigitChars 10 (Nat.toDigits 10 whole) 0 = whole :=
    Nat.ofDigitChars_ten_toDigits
  obtain ⟨c, digits, -, hcons⟩ := exists_toDigits_eq_cons whole
  rw [unsignedUnits?, takeWhile_digits hwhole rfl, dropWhile_digits hwhole rfl, hcons]
  show (if (padded places part).toList.length = places ∧ _ then _ else none) = _
  rw [if_pos ⟨length_padded hplaces hpart, hall⟩, ← hcons, hvalue, ofDigitChars_padded]

theorem units?_of_isDigit {text : String} {c : Char} {cs : List Char} (hc : c.isDigit = true)
    (htext : text.toList = c :: cs) :
    units? places text = (unsignedUnits? places (c :: cs)).map fun n : Nat => (n : Int) := by
  unfold units?
  split
  next h =>
    cases htext.symm.trans h
    cases hc
  next => rw [htext]

theorem units?_of_nat (hplaces : 0 < places) (hpart : part < 10 ^ places) (whole : Nat) :
    units? places (toString (whole : Int) ++ "." ++ padded places part) =
      some ((whole * 10 ^ places + part : Nat) : Int) := by
  have htext : (toString (whole : Int) ++ "." ++ padded places part).toList =
      Nat.toDigits 10 whole ++ '.' :: (padded places part).toList := by
    have hwhole : toString (whole : Int) = String.ofList (Nat.toDigits 10 whole) :=
      Nat.toString_eq_ofList_toDigits
    simp [hwhole]
  have hread := unsignedUnits?_append hplaces hpart whole
  obtain ⟨c, digits, hc, hcons⟩ := exists_toDigits_eq_cons whole
  rw [hcons] at htext hread
  rw [units?_of_isDigit hc htext]
  exact congrArg (Option.map fun n : Nat => (n : Int)) hread

theorem units?_of_negative (hplaces : 0 < places) (hpart : part < 10 ^ places) (n : Nat) :
    units? places (toString (Int.negSucc n) ++ "." ++ padded places part) =
      some (-(((n + 1) * 10 ^ places + part : Nat) : Int)) := by
  have htext : (toString (Int.negSucc n) ++ "." ++ padded places part).toList =
      '-' :: (Nat.toDigits 10 (n + 1) ++ '.' :: (padded places part).toList) := by
    have hwhole : toString (Int.negSucc n) = "-" ++ String.ofList (Nat.toDigits 10 (n + 1)) := by
      rw [← Nat.toString_eq_ofList_toDigits]
      rfl
    simp [hwhole]
  rw [units?, htext]
  have hread := unsignedUnits?_append hplaces hpart (n + 1)
  exact congrArg (Option.map fun n : Nat => -(n : Int)) hread

end Units

end Decimal

namespace Healthd

open Calendar (Instant)
open Text (pieces)

/-- Milliseconds before 1970 are counted forward from a second that is counted backward. -/
def shownMilliseconds (milliseconds : Int) : Int :=
  if 0 ≤ milliseconds then milliseconds else milliseconds - 2 * (milliseconds % 1000)

theorem shownMilliseconds_eq_self_iff {milliseconds : Int} :
    shownMilliseconds milliseconds = milliseconds ↔
      0 ≤ milliseconds ∨ milliseconds % 1000 = 0 := by
  unfold shownMilliseconds
  omega

theorem units?_secondsText (milliseconds : Int) :
    Decimal.units? 3 (secondsText milliseconds) = some (shownMilliseconds milliseconds) := by
  have hpart : (milliseconds % 1000).toNat < 10 ^ 3 := by omega
  unfold secondsText shownMilliseconds
  cases hwhole : milliseconds / 1000 with
  | ofNat n =>
    rw [Int.ofNat_eq_natCast] at hwhole ⊢
    rw [Decimal.units?_of_nat (by decide) hpart, if_pos (by omega), Option.some.injEq]
    omega
  | negSucc n =>
    rw [Decimal.units?_of_negative (by decide) hpart, if_neg (by omega), Option.some.injEq]
    omega

/-- Whether a number has 64 bits, one of them for its sign. -/
def Fits (n : Int) : Prop := -(2 ^ 63) ≤ n ∧ n < 2 ^ 63

theorem fits_of_inRange {nanos : Int} (h : Instant.InRange nanos) :
    ∀ step ∈ [nanos / 1000000000, nanos / 1000000000 * 1000, nanos / 1000000,
      nanos / 1000000 / 1000, nanos / 1000000 % 1000], Fits step := by
  unfold Instant.InRange Instant.firstSecond Instant.lastSecond at h
  simp only [List.forall_mem_cons, List.not_mem_nil, false_imp_iff, implies_true, and_true, Fits,
    Calendar.nanosPerSecond] at h ⊢
  omega

theorem nanos_completion (r : RequestRecord) :
    let ends : Int := r.timestamp.nanos + (min r.duration (2 ^ 63 - 1) : Nat)
    (completion r).nanos = if Instant.InRange ends then ends else r.timestamp.nanos := by
  intro ends
  have hlater : completion r = (Instant.ofNanos? ends).getD r.timestamp := rfl
  rw [hlater, Instant.ofNanos?]
  split
  next hinside => rfl
  next houtside => rfl

/-- The first field of a line reads as the time of completion in whole milliseconds if and only if
that time is not before 1970 or has no milliseconds besides whole seconds. No number on the way to
it needs more than 64 bits. -/
theorem completion_read_back_iff (r : RequestRecord) :
    let counted : Nat := min r.duration (2 ^ 63 - 1)
    let ends : Int := r.timestamp.nanos + counted
    let completed : Int := if Instant.InRange ends then ends else r.timestamp.nanos
    let seconds : Int := completed / 1000000000
    let milliseconds : Int := completed / 1000000
    ∃ field rest, pieces '"' (line r) = field :: rest ∧
      Decimal.units? 3 field = some (shownMilliseconds milliseconds) ∧
      (Decimal.units? 3 field = some milliseconds ↔ 0 ≤ milliseconds ∨ milliseconds % 1000 = 0) ∧
      ∀ step ∈ [(counted : Int), seconds, seconds * 1000, milliseconds, milliseconds / 1000,
        milliseconds % 1000], Fits step := by
  intro counted ends completed seconds milliseconds
  have hcompleted : (completion r).nanos = completed := nanos_completion r
  have hread : Decimal.units? 3 (timeText (completion r)) =
      some (shownMilliseconds milliseconds) := by
    rw [timeText, units?_secondsText, hcompleted]
  have hcounted : Fits (counted : Int) := by
    unfold Fits
    omega
  have hsteps := fits_of_inRange (completion r).inRange
  rw [hcompleted] at hsteps
  refine ⟨timeText (completion r), _, pieces_line r, hread, ?_, ?_⟩
  · rw [hread, Option.some.injEq]
    exact shownMilliseconds_eq_self_iff
  · exact List.forall_mem_cons.mpr ⟨hcounted, hsteps⟩

/-- One millisecond before 1970 is written as nearly two seconds before 1970. -/
theorem not_always_completion_time :
    ¬ ∀ r : RequestRecord, r.duration ≤ 2 ^ 63 - 1 →
      Instant.InRange (r.timestamp.nanos + r.duration) →
      ∃ field rest, pieces '"' (line r) = field :: rest ∧
        Decimal.units? 3 field = some ((r.timestamp.nanos + r.duration) / 1000000) := by
  intro h
  let request : Http.Request := ⟨Http.Method.get, .http11, ⟨none, "/a", none⟩, [], none⟩
  let r := RequestRecord.ofRequest request ⟨-1000000, by decide⟩
  obtain ⟨field, rest, hfield, hread⟩ := h r (Nat.zero_le _) (by decide)
  rw [pieces_line] at hfield
  have hwritten : Decimal.units? 3 field = some (-1999) := by
    rw [← (List.cons.inj hfield).1, timeText, units?_secondsText]
    rfl
  rw [hwritten] at hread
  have hdiffer : (-1999 : Int) = -1 := Option.some.inj hread
  omega

end Healthd

end HttpTelemetry
