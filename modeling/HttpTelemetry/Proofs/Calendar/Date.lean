import HttpTelemetry.Calendar.Date
import Mathlib.Algebra.Ring.Nat
import Mathlib.Data.List.GetD
import Mathlib.Logic.ExistsUnique

/-!
# Days are counted as the calendar goes

The first of January 1970 is day 0, and the day after a date has the next number. Each number
belongs to exactly one date of the calendar, and that is the date which is made of it.
-/

set_option autoImplicit false

namespace HttpTelemetry.Calendar

/-! ### Years -/

def yearLength (year : Int) : Nat := if isLeapYear year then 366 else 365

theorem sum_monthLengths (year : Int) :
    (monthLengths (isLeapYear year)).sum = yearLength year := by
  unfold yearLength
  cases isLeapYear year with
  | true => rfl
  | false => rfl

theorem daysBeforeYear_eq (year : Int) : daysBeforeYear year =
    365 * (year - 1) + (year - 1) / 4 - (year - 1) / 100 + (year - 1) / 400 := rfl

theorem daysBeforeYear_succ (year : Int) :
    daysBeforeYear (year + 1) = daysBeforeYear year + yearLength year := by
  rw [daysBeforeYear_eq, daysBeforeYear_eq, yearLength]
  split
  next h =>
    simp only [isLeapYear, Bool.and_eq_true, Bool.or_eq_true, beq_iff_eq, bne_iff_ne] at h
    omega
  next h =>
    simp only [isLeapYear, Bool.and_eq_true, Bool.or_eq_true, beq_iff_eq, bne_iff_ne] at h
    omega

theorem daysBeforeYear_mono {year later : Int} (h : year ≤ later) :
    daysBeforeYear year ≤ daysBeforeYear later := by
  rw [daysBeforeYear_eq, daysBeforeYear_eq]
  omega

/-- The year that contains a day, counted from 0001-01-01. -/
def InYear (day year : Int) : Prop := daysBeforeYear year ≤ day ∧ day < daysBeforeYear (year + 1)

theorem InYear.unique {day year other : Int} (h : InYear day year) (h' : InYear day other) :
    year = other := by
  obtain ⟨hstarts, hends⟩ := h
  obtain ⟨hstarts', hends'⟩ := h'
  -- Of two years, one is over when the other starts.
  rcases Int.lt_trichotomy year other with hless | heq | hmore
  · have hover := daysBeforeYear_mono hless
    omega
  · exact heq
  · have hover := daysBeforeYear_mono hmore
    omega

/-- The first guess is at most one year off. -/
theorem guess_near (day : Int) :
    let guess := day * 400 / 146097 + 1
    daysBeforeYear (guess - 1) ≤ day ∧ day < daysBeforeYear (guess + 2) := by
  dsimp only
  rw [daysBeforeYear_eq, daysBeforeYear_eq]
  omega

theorem inYear_yearOfDay (day : Int) : InYear day (yearOfDay day) := by
  obtain ⟨hleast, hmost⟩ := guess_near day
  unfold yearOfDay InYear
  dsimp only
  split
  next hbefore => exact ⟨hleast, by rwa [Int.sub_add_cancel]⟩
  next hnotBefore =>
    split
    next hafter => exact ⟨hafter, by rwa [Int.add_assoc]⟩
    next hnotAfter => exact ⟨Int.not_lt.mp hnotBefore, Int.not_le.mp hnotAfter⟩

/-! ### Months -/

section Months

variable {lengths : List Nat} {day month left : Nat}

theorem sum_take_add_getD (lengths : List Nat) (month : Nat) :
    (lengths.take month).sum + lengths.getD month 0 = (lengths.take (month + 1)).sum := by
  induction lengths generalizing month with
  | nil => simp
  | cons length rest ih =>
    cases month with
    | zero => simp
    | succ month =>
      rw [List.take_succ_cons, List.take_succ_cons, List.sum_cons, List.sum_cons, ← ih,
        List.getD_cons_succ, Nat.add_assoc]

theorem sum_take_le (lengths : List Nat) (month : Nat) :
    (lengths.take month).sum ≤ lengths.sum := by
  have hsplit := congrArg List.sum (List.take_append_drop month lengths)
  rw [List.sum_append_nat] at hsplit
  omega

theorem monthOfDay_spec (h : day < lengths.sum) :
    (monthOfDay lengths day).2 < lengths.getD (monthOfDay lengths day).1 0 ∧
      (lengths.take (monthOfDay lengths day).1).sum + (monthOfDay lengths day).2 = day := by
  fun_induction monthOfDay lengths day with
  | case1 day => cases h
  | case2 length rest day hday => exact ⟨hday, Nat.zero_add day⟩
  | case3 length rest day hday month left hmonth ih =>
    rw [List.sum_cons] at h
    rw [hmonth] at ih
    obtain ⟨hleft, hsum⟩ := ih (by omega)
    refine ⟨hleft, ?_⟩
    rw [List.take_succ_cons, List.sum_cons]
    dsimp only at hsum ⊢
    omega

theorem monthOfDay_sum_take (h : left < lengths.getD month 0) :
    monthOfDay lengths ((lengths.take month).sum + left) = (month, left) := by
  induction lengths generalizing month with
  | nil => cases month <;> cases h
  | cons length rest ih =>
    cases month with
    | zero =>
      have hfirst : 0 + left < length := by rwa [Nat.zero_add]
      rw [monthOfDay, List.take_zero, List.sum_nil, if_pos hfirst, Nat.zero_add]
    | succ month =>
      rw [List.take_succ_cons, List.sum_cons, monthOfDay, if_neg (by omega), Nat.add_assoc,
        Nat.add_sub_cancel_left, ih h]

end Months

/-! ### Dates -/

namespace Date

/-- The number of days in a date's month. There is no month behind the twelfth. -/
def monthLength (d : Date) : Nat := (monthLengths (isLeapYear d.year)).getD (d.month - 1) 0

/-- The days of the year in front of a date's month. -/
def daysBeforeMonth (d : Date) : Nat :=
  ((monthLengths (isLeapYear d.year)).take (d.month - 1)).sum

def IsValid (d : Date) : Prop := 1 ≤ d.month ∧ 1 ≤ d.day ∧ d.day ≤ d.monthLength

instance (d : Date) : Decidable d.IsValid := inferInstanceAs (Decidable (_ ∧ _))

def next (d : Date) : Date :=
  if d.day < d.monthLength then { d with day := d.day + 1 }
  else if d.month < 12 then ⟨d.year, d.month + 1, 1⟩
  else ⟨d.year + 1, 1, 1⟩

section DayNumbers

variable {d : Date} {n : Int}

theorem dayNumber_eq (d : Date) :
    d.dayNumber = daysBeforeYear d.year + d.daysBeforeMonth + (d.day - 1 : Nat) - epochDay := rfl

theorem daysBeforeMonth_add_monthLength (h : 1 ≤ d.month) :
    d.daysBeforeMonth + d.monthLength =
      ((monthLengths (isLeapYear d.year)).take d.month).sum := by
  have hmonths := sum_take_add_getD (monthLengths (isLeapYear d.year)) (d.month - 1)
  rwa [Nat.sub_add_cancel h] at hmonths

theorem month_le_and_day_le (h : d.IsValid) : d.month ≤ 12 ∧ d.day ≤ 31 := by
  obtain ⟨hmonth, hday, hlast⟩ := h
  have hlongest : ∀ leap, ∀ month < 12, (monthLengths leap).getD month 0 ≤ 31 := by decide
  rcases Nat.lt_or_ge (d.month - 1) 12 with hinside | hbehind
  · exact ⟨by omega, Nat.le_trans hlast (hlongest _ _ hinside)⟩
  · have hnone : d.monthLength = 0 := List.getD_eq_default _ _ hbehind
    omega

theorem inYear_dayNumber (h : d.IsValid) : InYear (d.dayNumber + epochDay) d.year := by
  obtain ⟨hmonth, hday, hlast⟩ := h
  have hmonths := daysBeforeMonth_add_monthLength hmonth
  have hwhole := sum_take_le (monthLengths (isLeapYear d.year)) d.month
  rw [sum_monthLengths] at hwhole
  rw [InYear, daysBeforeYear_succ, dayNumber_eq]
  omega

theorem isValid_ofDayNumber (n : Int) :
    (ofDayNumber n).IsValid ∧ (ofDayNumber n).dayNumber = n := by
  obtain ⟨hstarted, hnotOver⟩ := inYear_yearOfDay (n + epochDay)
  rw [daysBeforeYear_succ] at hnotOver
  have hday : (n + epochDay - daysBeforeYear (yearOfDay (n + epochDay))).toNat <
      (monthLengths (isLeapYear (yearOfDay (n + epochDay)))).sum := by
    rw [sum_monthLengths]
    omega
  obtain ⟨hleft, hsum⟩ := monthOfDay_spec hday
  constructor
  · exact ⟨Nat.le_add_left 1 _, Nat.le_add_left 1 _, hleft⟩
  · simp only [dayNumber_eq, daysBeforeMonth, ofDayNumber, Nat.add_sub_cancel]
    omega

theorem ofDayNumber_dayNumber (h : d.IsValid) : ofDayNumber d.dayNumber = d := by
  have hyear : yearOfDay (d.dayNumber + epochDay) = d.year :=
    (inYear_yearOfDay _).unique (inYear_dayNumber h)
  obtain ⟨hmonth, hday, hlast⟩ := h
  have hrest : (d.dayNumber + epochDay - daysBeforeYear d.year).toNat =
      d.daysBeforeMonth + (d.day - 1) := by
    rw [dayNumber_eq]
    omega
  have hfound : monthOfDay (monthLengths (isLeapYear d.year)) (d.daysBeforeMonth + (d.day - 1)) =
      (d.month - 1, d.day - 1) := by
    apply monthOfDay_sum_take
    show d.day - 1 < d.monthLength
    omega
  rw [ofDayNumber]
  dsimp only
  rw [hyear, hrest, hfound, Nat.sub_add_cancel hmonth, Nat.sub_add_cancel hday]

theorem ofDayNumber_eq_iff : ofDayNumber n = d ↔ d.IsValid ∧ d.dayNumber = n := by
  constructor
  · rintro rfl
    exact isValid_ofDayNumber n
  · rintro ⟨hvalid, rfl⟩
    exact ofDayNumber_dayNumber hvalid

theorem dayNumber_next (h : d.IsValid) : d.next.dayNumber = d.dayNumber + 1 := by
  obtain ⟨hmonth, hday, hlast⟩ := h
  have hmonths := daysBeforeMonth_add_monthLength hmonth
  unfold next
  split
  next hless =>
    simp only [dayNumber_eq, daysBeforeMonth]
    omega
  next hfull =>
    have hend : d.day = d.monthLength := Nat.le_antisymm hlast (Nat.not_lt.mp hfull)
    rw [← hend] at hmonths
    split
    next hsameYear =>
      have hnext : (Date.mk d.year (d.month + 1) 1).daysBeforeMonth = d.daysBeforeMonth + d.day :=
        hmonths.symm
      rw [dayNumber_eq, dayNumber_eq, hnext]
      dsimp only
      omega
    next hlastMonth =>
      rw [List.take_of_length_le (Nat.not_lt.mp hlastMonth), sum_monthLengths] at hmonths
      have hnext : (Date.mk (d.year + 1) 1 1).daysBeforeMonth = 0 := rfl
      rw [dayNumber_eq, dayNumber_eq, hnext, daysBeforeYear_succ]
      dsimp only
      omega

theorem isValid_next (h : d.IsValid) : d.next.IsValid := by
  have hlong : ∀ leap, ∀ month < 12, 1 ≤ (monthLengths leap).getD month 0 := by decide
  unfold next
  split
  next hless => exact ⟨h.1, Nat.le_add_left 1 _, hless⟩
  next =>
    split
    next hsameYear => exact ⟨Nat.le_add_left 1 _, Nat.le_refl 1, hlong _ d.month hsameYear⟩
    next => exact ⟨Nat.le_refl 1, Nat.le_refl 1, hlong _ 0 (by decide)⟩

end DayNumbers

/-- A count of days from the first of January 1970 on, in both directions. -/
structure CountsDays (number : Date → Int) : Prop where
  epoch : number ⟨1970, 1, 1⟩ = 0
  next : ∀ d : Date, d.IsValid → d.next.IsValid ∧ number d.next = number d + 1
  unique : ∀ n, ∃! d : Date, d.IsValid ∧ number d = n

theorem countsDays_dayNumber : CountsDays dayNumber where
  epoch := by decide
  next d h := ⟨isValid_next h, dayNumber_next h⟩
  unique n := ⟨ofDayNumber n, isValid_ofDayNumber n, fun _ h => (ofDayNumber_eq_iff.mpr h).symm⟩

end Date

end HttpTelemetry.Calendar
