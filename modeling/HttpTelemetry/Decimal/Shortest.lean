import HttpTelemetry.Decimal.Binary

/-!
# Shortest decimals

The decimal with the fewest digits that reads back as a given double. The numbers that read back
as a double form an interval around it; the coarsest decimal grid that has a point in the interval
is found by going from coarse to fine, and of the grid's points next to the double the nearer one
that lies in the interval is taken.
-/

set_option autoImplicit false

namespace HttpTelemetry.Decimal

/-- The numbers that round to one double: between `low` and `high`, in units of `2 ^ exponent`
around `centre`. The ends belong to the interval iff `closed`. -/
structure Interval where
  low : Nat
  centre : Nat
  high : Nat
  exponent : Int
  closed : Bool
  deriving DecidableEq, Repr

/-- The interval of a positive double. Below a power of two the doubles lie twice as close. -/
def Interval.around (significand : Nat) (exponent : Int) : Interval where
  low :=
    if significand = Binary.implicitBit ∧ Binary.leastExponent < exponent then 4 * significand - 1
    else 4 * significand - 2
  centre := 4 * significand
  high := 4 * significand + 2
  exponent := exponent - 2
  closed := significand % 2 == 0

/-- The point `digits * 10 ^ power` of a decimal grid. -/
structure GridPoint where
  digits : Nat
  power : Int
  deriving DecidableEq, Repr

/-- The factors that bring units of `2 ^ exponent` and of `10 ^ power` to a common unit. -/
def commonUnit (exponent power : Int) : Nat × Nat :=
  (Nat.pow 2 exponent.toNat * Nat.pow 10 (-power).toNat,
    Nat.pow 10 power.toNat * Nat.pow 2 (-exponent).toNat)

/-- The point of the grid of multiples of `10 ^ power` that lies in the interval and is nearest to
its centre; of two equally near ones the even one. -/
def Interval.nearest? (i : Interval) (power : Int) : Option GridPoint :=
  let (two, ten) := commonUnit i.exponent power
  let below := i.centre * two / ten
  let above := below + 1
  let inside (d : Nat) : Bool :=
    if i.closed then i.low * two ≤ d * ten && d * ten ≤ i.high * two
    else i.low * two < d * ten && d * ten < i.high * two
  let toBelow := i.centre * two - below * ten
  let toAbove := above * ten - i.centre * two
  let belowFirst := toBelow < toAbove || (toBelow == toAbove && below % 2 == 0)
  match inside below, inside above with
  | true, true => some ⟨if belowFirst then below else above, power⟩
  | true, false => some ⟨below, power⟩
  | false, true => some ⟨above, power⟩
  | false, false => none

/-- Goes through the given number of grids, each ten times finer than the one before it. -/
def Interval.search (i : Interval) : Nat → Int → Option GridPoint
  | 0, _ => none
  | grids + 1, power =>
    match i.nearest? power with
    | some d => some d
    | none => i.search grids (power - 1)

/-- The shortest decimal of a positive double. No double needs a grid coarser than `10 ^ 309` or
finer than `10 ^ -324`. -/
def shortest (significand : Nat) (exponent : Int) : GridPoint :=
  ((Interval.around significand exponent).search 634 309).getD ⟨0, 0⟩

end HttpTelemetry.Decimal
