/-!
# Dates of the proleptic Gregorian calendar

Dates and day numbers. Day 0 is the first of January 1970; years before 1 count down from 0. The
year of a day is found by a first guess, which the mean length of a year puts within one year of
the answer.
-/

set_option autoImplicit false

namespace HttpTelemetry.Calendar

/-- Every fourth year is a leap year, of the hundredth years only every fourth. -/
def isLeapYear (year : Int) : Bool :=
  year % 4 == 0 && (year % 100 != 0 || year % 400 == 0)

/-- Days from the first of January of year 1 to the first of January of a year. -/
def daysBeforeYear (year : Int) : Int :=
  let past := year - 1
  365 * past + past / 4 - past / 100 + past / 400

/-- The number of 1970-01-01, counted from 0001-01-01. -/
def epochDay : Int := 719162

def monthLengths (leap : Bool) : List Nat :=
  [31, if leap then 29 else 28, 31, 30, 31, 30, 31, 31, 30, 31, 30, 31]

/-- The year that contains a day, counted from 0001-01-01: 400 years have 146097 days. -/
def yearOfDay (day : Int) : Int :=
  let guess := day * 400 / 146097 + 1
  if day < daysBeforeYear guess then guess - 1
  else if daysBeforeYear (guess + 1) ≤ day then guess + 1
  else guess

/-- Goes through the months until the days left fit into one; both results count from 0. -/
def monthOfDay : List Nat → Nat → Nat × Nat
  | [], day => (0, day)
  | length :: rest, day =>
    if day < length then (0, day)
    else
      let (month, left) := monthOfDay rest (day - length)
      (month + 1, left)

/-- A year, month and day; months and days count from 1. -/
structure Date where
  year : Int
  month : Nat
  day : Nat
  deriving DecidableEq, Repr

def Date.ofDayNumber (n : Int) : Date :=
  let day := n + epochDay
  let year := yearOfDay day
  let (month, left) := monthOfDay (monthLengths (isLeapYear year)) (day - daysBeforeYear year).toNat
  ⟨year, month + 1, left + 1⟩

def Date.dayNumber (d : Date) : Int :=
  let before : Nat := ((monthLengths (isLeapYear d.year)).take (d.month - 1)).foldr (· + ·) 0
  daysBeforeYear d.year + before + (d.day - 1 : Nat) - epochDay

end HttpTelemetry.Calendar
