import HttpTelemetry.Calendar.Date
import HttpTelemetry.Calendar.Instant
import HttpTelemetry.Decimal.Numeral

/-!
# Timestamps as text

RFC 3339 timestamps in UTC: a date, a time of day and a `Z`. The fraction of a second is left out
or has three, six or nine digits, as few as the instant needs.
-/

set_option autoImplicit false

namespace HttpTelemetry.Calendar

open Decimal (padded)

/-- Years from 0 to 9999 have four digits; all others have a sign and at least four digits. -/
def yearText (year : Int) : String :=
  if 0 ≤ year ∧ year ≤ 9999 then padded 4 year.toNat
  else if year < 0 then "-" ++ padded 4 year.natAbs
  else "+" ++ padded 4 year.toNat

def Date.text (d : Date) : String :=
  yearText d.year ++ "-" ++ padded 2 d.month ++ "-" ++ padded 2 d.day

def timeText (second : Nat) : String :=
  padded 2 (second / 3600) ++ ":" ++ padded 2 (second / 60 % 60) ++ ":" ++ padded 2 (second % 60)

/-- The fraction of a second in groups of three digits; the last group is never all zeros. -/
def fractionText (nanos : Nat) : String :=
  if nanos = 0 then ""
  else if nanos % 1000000 = 0 then "." ++ padded 3 (nanos / 1000000)
  else if nanos % 1000 = 0 then "." ++ padded 6 (nanos / 1000)
  else "." ++ padded 9 nanos

def secondsPerDay : Nat := 86400

def Instant.text (t : Instant) : String :=
  (Date.ofDayNumber (t.seconds / secondsPerDay)).text ++ "T" ++
    timeText (t.seconds % secondsPerDay).toNat ++ fractionText t.subsecond ++ "Z"

end HttpTelemetry.Calendar
