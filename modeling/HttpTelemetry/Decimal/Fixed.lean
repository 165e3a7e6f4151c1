import HttpTelemetry.Decimal.Binary

/-!
# Decimal texts with a fixed number of places

The exact value of a double is scaled by a power of ten, rounded once with halves going to the even
neighbour, and written with a point in front of the last places.
-/

set_option autoImplicit false

namespace HttpTelemetry.Decimal

/-- `significand * 2 ^ exponent` in units of `10 ^ -places`, rounded. -/
def scaled (places significand : Nat) (exponent : Int) : Nat :=
  if 0 ≤ exponent then significand * Nat.pow 2 exponent.toNat * Nat.pow 10 places
  else roundHalfEven (significand * Nat.pow 10 places) (Nat.pow 2 (-exponent).toNat)

/-- A count of units of `10 ^ -places`, written with a decimal point. -/
def pointed (places units : Nat) : String :=
  padded 1 (units / Nat.pow 10 places) ++ "." ++ padded places (units % Nat.pow 10 places)

/-- A double with the given number of places after the point. Zero keeps its sign. -/
def fixed (places : Nat) (x : Float) : String :=
  match Binary.ofFloat x with
  | .nan => "NaN"
  | .infinite negative => (if negative then "-" else "") ++ "inf"
  | .finite negative significand exponent =>
    (if negative then "-" else "") ++ pointed places (scaled places significand exponent)

end HttpTelemetry.Decimal
