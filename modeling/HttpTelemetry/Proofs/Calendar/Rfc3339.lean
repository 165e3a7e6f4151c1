import HttpTelemetry.Calendar.Rfc3339
import HttpTelemetry.Proofs.Calendar.Date
import HttpTelemetry.Proofs.Decimal.Digits
import Mathlib.Tactic.ByContra

/-!
# Timestamps can be read back

A reader of RFC 3339 timestamps in UTC, with signs in front of years that do not have four digits.
It reads the text of an instant as that instant, and no shorter fraction would do.
-/

set_option autoImplicit false

namespace HttpTelemetry.Calendar

open Decimal (padded)

/-! ### What a timestamp says -/

/-- A date with a time of day, and the digits of a fraction of a second. -/
structure Stamp where
  date : Date
  hour : Nat
  minute : Nat
  second : Nat
  fraction : List Char
  deriving DecidableEq

namespace Stamp

/-- A day has no second behind 23:59:59, and no second more than nine decimal places. -/
def IsValid (s : Stamp) : Prop :=
  s.date.IsValid ∧ s.hour < 24 ∧ s.minute < 60 ∧ s.second < 60 ∧ s.fraction.length ≤ 9

instance (s : Stamp) : Decidable s.IsValid := inferInstanceAs (Decidable (_ ∧ _))

/-- Whole seconds since the start of 1970. -/
def seconds (s : Stamp) : Int :=
  s.date.dayNumber * 86400 + (s.hour * 3600 + s.minute * 60 + s.second : Nat)

def subsecond (s : Stamp) : Nat :=
  Nat.ofDigitChars 10 s.fraction 0 * 10 ^ (9 - s.fraction.length)

def nanos (s : Stamp) : Int := s.seconds * 1000000000 + s.subsecond

end Stamp

/-- The digits of a fraction come in groups of three, at most three of them. -/
def fractionLengths : List Nat := [0, 3, 6, 9]

/-- No group of a fraction's digits can be left out without a digit other than zero. -/
structure IsShortest (fraction : List Char) : Prop where
  length : fraction.length ∈ fractionLengths
  needed : ∀ count ∈ fractionLengths, count < fraction.length →
    ∃ digit ∈ fraction.drop count, digit ≠ '0'

/-! ### Reading -/

/-- The digits in front of a mark, and what follows the mark. -/
def digitsBefore? (mark : Char) (cs : List Char) : Option (List Char × List Char) :=
  match cs.dropWhile Char.isDigit with
  | [] => none
  | c :: rest => if c = mark then some (cs.takeWhile Char.isDigit, rest) else none

/-- A number in front of a mark, if it has as many digits as it should have. -/
def numberBefore? (fits : Nat → Bool) (mark : Char) (cs : List Char) : Option (Nat × List Char) :=
  match digitsBefore? mark cs with
  | none => none
  | some (digits, rest) =>
    if fits digits.length then some (Nat.ofDigitChars 10 digits 0, rest) else none

/-- A year has four digits. Years outside of 0 to 9999 have a sign, and at least as many digits. -/
def yearBefore? : List Char → Option (Int × List Char)
  | '-' :: cs => do
    let (n, rest) ← numberBefore? (4 ≤ ·) '-' cs
    if 0 < n then some (-n, rest) else none
  | '+' :: cs => do
    let (n, rest) ← numberBefore? (4 ≤ ·) '-' cs
    if 9999 < n then some (n, rest) else none
  | cs => do
    let (n, rest) ← numberBefore? (· == 4) '-' cs
    some (n, rest)

/-- Two digits of seconds, and behind a point the digits of a fraction if there is one. -/
def secondAndFraction? (cs : List Char) : Option (Nat × List Char) :=
  match numberBefore? (· == 2) 'Z' cs with
  | some (second, []) => some (second, [])
  | some _ => none
  | none =>
    match numberBefore? (· == 2) '.' cs with
    | none => none
    | some (second, rest) =>
      match digitsBefore? 'Z' rest with
      | some (digits, []) => if digits = [] then none else some (second, digits)
      | _ => none

def Stamp.read? (text : String) : Option Stamp := do
  let (year, cs) ← yearBefore? text.toList
  let (month, cs) ← numberBefore? (· == 2) '-' cs
  let (day, cs) ← numberBefore? (· == 2) 'T' cs
  let (hour, cs) ← numberBefore? (· == 2) ':' cs
  let (minute, cs) ← numberBefore? (· == 2) ':' cs
  let (second, fraction) ← secondAndFraction? cs
  let stamp : Stamp := ⟨⟨year, month, day⟩, hour, minute, second, fraction⟩
  if stamp.IsValid then some stamp else none

section Reading

variable {fits : Nat → Bool} {mark c : Char} {digits rest : List Char} {n : Nat}

theorem digitsBefore?_append (hdigits : ∀ d ∈ digits, d.isDigit = true)
    (hc : c.isDigit = false) (rest : List Char) : digitsBefore? mark (digits ++ c :: rest) =
      if c = mark then some (digits, rest) else none := by
  rw [digitsBefore?, Decimal.takeWhile_digits hdigits hc, Decimal.dropWhile_digits hdigits hc]

theorem numberBefore?_padded {width : Nat} (hmark : mark.isDigit = false)
    (hfits : fits (padded width n).toList.length = true) (rest : List Char) :
    numberBefore? fits mark ((padded width n).toList ++ mark :: rest) = some (n, rest) := by
  rw [numberBefore?, digitsBefore?_append (Decimal.isDigit_of_mem_padded width n) hmark,
    if_pos rfl]
  dsimp only
  rw [if_pos hfits, Decimal.ofDigitChars_padded]

theorem twoBefore?_padded (mark : Char) (hmark : mark.isDigit = false) (hn : n < 100)
    (rest : List Char) :
    numberBefore? (· == 2) mark ((padded 2 n).toList ++ mark :: rest) = some (n, rest) := by
  apply numberBefore?_padded hmark
  rw [Decimal.length_padded (by decide) hn]
  rfl

theorem yearBefore?_of_isDigit (hc : c.isDigit = true) (cs : List Char) :
    yearBefore? (c :: cs) =
      (numberBefore? (· == 4) '-' (c :: cs)).bind fun (n, rest) => some ((n : Int), rest) := by
  unfold yearBefore?
  split
  next h =>
    cases h
    cases hc
  next h =>
    cases h
    cases hc
  next => rfl

theorem yearBefore?_yearText (year : Int) (rest : List Char) :
    yearBefore? ((yearText year).toList ++ '-' :: rest) = some (year, rest) := by
  have hlong (n : Nat) : numberBefore? (4 ≤ ·) '-' ((padded 4 n).toList ++ '-' :: rest) =
      some (n, rest) := by
    apply numberBefore?_padded rfl
    exact decide_eq_true (Decimal.le_length_padded 4 n)
  unfold yearText
  split
  next hshort =>
    have hlength : (padded 4 year.toNat).toList.length = 4 :=
      Decimal.length_padded (by decide) (by omega)
    have hread : numberBefore? (· == 4) '-' ((padded 4 year.toNat).toList ++ '-' :: rest) =
        some (year.toNat, rest) := by
      apply numberBefore?_padded rfl
      rw [hlength]
      rfl
    have hyear : (year.toNat : Int) = year := Int.toNat_of_nonneg hshort.1
    obtain ⟨c, digits, hcons⟩ := List.exists_cons_of_length_eq_add_one hlength
    have hc : c.isDigit = true :=
      Decimal.isDigit_of_mem_padded 4 year.toNat c (hcons ▸ List.mem_cons_self)
    rw [hcons, List.cons_append] at hread ⊢
    rw [yearBefore?_of_isDigit hc, hread, ← hyear]
    rfl
  next hlarge =>
    split
    next hnegative =>
      have hsign : ("-" ++ padded 4 year.natAbs).toList = '-' :: (padded 4 year.natAbs).toList := by
        simp
      have hyear : -(year.natAbs : Int) = year := by omega
      rw [hsign, List.cons_append, yearBefore?, hlong]
      show (if 0 < year.natAbs then some (-(year.natAbs : Int), rest) else none) = _
      rw [if_pos (by omega), hyear]
    next hpositive =>
      have hsign : ("+" ++ padded 4 year.toNat).toList = '+' :: (padded 4 year.toNat).toList := by
        simp
      have hyear : (year.toNat : Int) = year := by omega
      rw [hsign, List.cons_append, yearBefore?, hlong]
      show (if 9999 < year.toNat then some ((year.toNat : Int), rest) else none) = _
      rw [if_pos (by omega), hyear]

end Reading

/-! ### Fractions -/

/-- Digits that stand for so many nanoseconds behind a point, and no more of them than needed. -/
structure IsFraction (digits : List Char) (nanos : Nat) : Prop where
  isDigit : ∀ c ∈ digits, c.isDigit = true
  shortest : IsShortest digits
  value : Nat.ofDigitChars 10 digits 0 * 10 ^ (9 - digits.length) = nanos

section Fractions

variable {nanos second : Nat} {digits : List Char}

/-- With something other than zeros in the last group, no group can be left out. -/
theorem isFraction_padded (width part : Nat) (hwidth : width ∈ [3, 6, 9])
    (hpart : part < 10 ^ width) (hlast : part % 1000 ≠ 0) :
    (padded width part).toList ≠ [] ∧
      IsFraction (padded width part).toList (part * 10 ^ (9 - width)) := by
  have hpositive : 0 < width := by
    simp only [List.mem_cons, List.not_mem_nil, or_false] at hwidth
    omega
  have hlength := Decimal.length_padded hpositive hpart
  have hall := Decimal.isDigit_of_mem_padded width part
  have hvalue := Decimal.ofDigitChars_padded width part
  generalize (padded width part).toList = digits at *
  subst hlength hvalue
  refine ⟨List.length_pos_iff.mp hpositive, hall, ⟨List.mem_cons_of_mem 0 hwidth, ?_⟩, rfl⟩
  intro count hcount hless
  -- A group of zeros at the end would make the number a multiple of a thousand.
  by_contra! hzeros
  have hgroup : 3 ≤ digits.length - count := by
    simp only [fractionLengths, List.mem_cons, List.not_mem_nil, or_false] at hwidth hcount
    omega
  have hthousand : 10 ^ 3 ∣ Nat.ofDigitChars 10 digits 0 :=
    Nat.dvd_trans (Nat.pow_dvd_pow 10 hgroup) (Decimal.pow_dvd_ofDigitChars hzeros)
  omega

theorem fractionText_of_pos (hnanos : 0 < nanos) (h : nanos < nanosPerSecond) :
    ∃ digits, (fractionText nanos).toList = '.' :: digits ∧ digits ≠ [] ∧
      IsFraction digits nanos := by
  have hpoint (s : String) : ("." ++ s).toList = '.' :: s.toList := by simp
  unfold nanosPerSecond at h
  rw [fractionText, if_neg (Nat.ne_of_gt hnanos)]
  split
  next hmillis =>
    have hgroups := isFraction_padded 3 (nanos / 1000000) (by decide) (by omega) (by omega)
    have hvalue : nanos / 1000000 * 10 ^ (9 - 3) = nanos := by omega
    rw [hvalue] at hgroups
    exact ⟨_, hpoint _, hgroups⟩
  split
  next hmicros =>
    have hgroups := isFraction_padded 6 (nanos / 1000) (by decide) (by omega) (by omega)
    have hvalue : nanos / 1000 * 10 ^ (9 - 6) = nanos := by omega
    rw [hvalue] at hgroups
    exact ⟨_, hpoint _, hgroups⟩
  next hnanos =>
    have hgroups := isFraction_padded 9 nanos (by decide) h hnanos
    rw [Nat.sub_self, Nat.pow_zero, Nat.mul_one] at hgroups
    exact ⟨_, hpoint _, hgroups⟩

theorem isFraction_nil : IsFraction [] 0 where
  isDigit := nofun
  shortest := ⟨List.mem_cons_self, fun count _ hless => absurd hless (Nat.not_lt_zero count)⟩
  value := rfl

/-- A fraction is read with the whole seconds in front of it. -/
theorem exists_fraction (hsecond : second < 100) (h : nanos < nanosPerSecond) :
    ∃ digits, IsFraction digits nanos ∧
      secondAndFraction? ((padded 2 second).toList ++ ((fractionText nanos).toList ++ ['Z'])) =
        some (second, digits) := by
  rcases Nat.eq_zero_or_pos nanos with rfl | hpositive
  · refine ⟨[], isFraction_nil, ?_⟩
    have htext : (fractionText 0).toList ++ ['Z'] = ['Z'] := rfl
    rw [htext, secondAndFraction?, twoBefore?_padded _ rfl hsecond]
  · obtain ⟨digits, htext, hsome, hfraction⟩ := fractionText_of_pos hpositive h
    refine ⟨digits, hfraction, ?_⟩
    have hpoint : numberBefore? (· == 2) 'Z'
        ((padded 2 second).toList ++ '.' :: (digits ++ ['Z'])) = none := by
      rw [numberBefore?, digitsBefore?_append (Decimal.isDigit_of_mem_padded 2 second) rfl]
      rfl
    rw [htext, List.cons_append, secondAndFraction?, hpoint]
    dsimp only
    rw [twoBefore?_padded _ rfl hsecond]
    dsimp only
    rw [digitsBefore?_append hfraction.isDigit rfl, if_pos rfl]
    exact if_neg hsome

end Fractions

/-! ### Texts of instants -/

def stampChars (date : Date) (hour minute second : Nat) (rest : List Char) : List Char :=
  (yearText date.year).toList ++ '-' :: ((padded 2 date.month).toList ++ '-' ::
    ((padded 2 date.day).toList ++ 'T' :: ((padded 2 hour).toList ++ ':' ::
      ((padded 2 minute).toList ++ ':' :: ((padded 2 second).toList ++ rest)))))

theorem toList_text (t : Instant) :
    let second := (t.seconds % secondsPerDay).toNat
    t.text.toList = stampChars (Date.ofDayNumber (t.seconds / secondsPerDay)) (second / 3600)
      (second / 60 % 60) (second % 60) ((fractionText t.subsecond).toList ++ ['Z']) := by
  simp [stampChars, Instant.text, Date.text, timeText]

theorem read?_of_toList {text : String} {s : Stamp} {rest : List Char} (hs : s.IsValid)
    (htext : text.toList = stampChars s.date s.hour s.minute s.second rest)
    (hrest : secondAndFraction? ((padded 2 s.second).toList ++ rest) =
      some (s.second, s.fraction)) :
    Stamp.read? text = some s := by
  have ⟨hdate, hhours, hminutes, _, _⟩ := hs
  obtain ⟨hmonths, hdays⟩ := Date.month_le_and_day_le hdate
  have hmonth := twoBefore?_padded '-' (n := s.date.month) rfl (by omega)
  have hday := twoBefore?_padded 'T' (n := s.date.day) rfl (by omega)
  have hhour := twoBefore?_padded ':' (n := s.hour) rfl (by omega)
  have hminute := twoBefore?_padded ':' (n := s.minute) rfl (by omega)
  simp only [Stamp.read?, htext, stampChars, yearBefore?_yearText, hmonth, hday, hhour, hminute,
    hrest, Option.bind_eq_bind, Option.bind_some]
  exact if_pos hs

/-- A timestamp reads as the instant that it was made of. -/
theorem exists_read?_text (t : Instant) :
    ∃ stamp : Stamp, Stamp.read? t.text = some stamp ∧ stamp.nanos = t.nanos ∧
      IsShortest stamp.fraction := by
  obtain ⟨hdate, hnumber⟩ := Date.isValid_ofDayNumber (t.seconds / secondsPerDay)
  have hsecond : (t.seconds % secondsPerDay).toNat < 86400 ∧
      t.seconds / secondsPerDay * 86400 + (t.seconds % secondsPerDay).toNat = t.seconds := by
    unfold secondsPerDay
    omega
  have htext := toList_text t
  generalize (t.seconds % secondsPerDay).toNat = second at hsecond htext
  have htwo : second % 60 < 100 := by omega
  obtain ⟨fraction, hfraction, hrest⟩ := exists_fraction htwo t.subsecond_lt
  have hdigits : fraction.length ≤ 9 := by
    have hlength := hfraction.shortest.length
    simp only [fractionLengths, List.mem_cons, List.not_mem_nil, or_false] at hlength
    omega
  have hclock : second / 3600 < 24 ∧ second / 60 % 60 < 60 ∧ second % 60 < 60 := by omega
  refine ⟨⟨Date.ofDayNumber (t.seconds / secondsPerDay), second / 3600, second / 60 % 60,
    second % 60, fraction⟩, ?_, ?_, hfraction.shortest⟩
  · exact read?_of_toList ⟨hdate, hclock.1, hclock.2.1, hclock.2.2, hdigits⟩ htext hrest
  · rw [Stamp.nanos, Stamp.seconds, Stamp.subsecond, hfraction.value, hnumber,
      ← t.seconds_subsecond]
    unfold nanosPerSecond
    dsimp only
    omega

example : (Instant.ofSeconds? (-62167219201) 500000000).map Instant.text =
    some "-0001-12-31T23:59:59.500Z" := by
  decide +kernel

theorem getLast?_text (t : Instant) : t.text.toList.getLast? = some 'Z' := by
  rw [Instant.text, String.toList_append]
  exact List.getLast?_concat

theorem text_inj {t u : Instant} : t.text = u.text ↔ t = u := by
  constructor
  · intro h
    obtain ⟨stamp, hread, hnanos, -⟩ := exists_read?_text t
    obtain ⟨other, hother, hnanos', -⟩ := exists_read?_text u
    rw [← h, hread, Option.some.injEq] at hother
    rw [← hother, hnanos] at hnanos'
    exact Instant.ext hnanos'
  · exact congrArg Instant.text

end HttpTelemetry.Calendar
