import HttpTelemetry.Decimal.Numeral

/-!
# Binary floating-point values as exact numbers

A double is a sign and a whole number times a power of two, or no finite number. Every decimal text
of a double in this library is computed from this exact form.
-/

set_option autoImplicit false

namespace HttpTelemetry.Decimal

/-- The number that a double stands for: `significand * 2 ^ exponent` with a sign, where zero keeps
its sign too. -/
inductive Binary where
  | nan
  | infinite (negative : Bool)
  | finite (negative : Bool) (significand : Nat) (exponent : Int)
  deriving DecidableEq, Repr

/-- The exponent of the smallest positive double, shared by all doubles below the normal range. -/
def Binary.leastExponent : Int := -1074

def Binary.implicitBit : Nat := Nat.pow 2 52

/-- Reads sign, exponent of 11 bits and fraction off the 64 bits. -/
def Binary.ofBits (bits : UInt64) : Binary :=
  let n := bits.toNat
  let negative := n / Nat.pow 2 63 == 1
  let exponent := n / implicitBit % 2048
  let fraction := n % implicitBit
  if exponent = 2047 then
    if fraction = 0 then .infinite negative else .nan
  else if exponent = 0 then .finite negative fraction leastExponent
  else .finite negative (fraction + implicitBit) (Int.ofNat exponent + leastExponent - 1)

def Binary.ofFloat (x : Float) : Binary := .ofBits x.toBits

/-- The whole number nearest to a quotient; a half goes to the even neighbour. -/
def roundHalfEven (num den : Nat) : Nat :=
  let q := num / den
  let r := num % den
  if 2 * r < den ∨ 2 * r = den ∧ q % 2 = 0 then q else q + 1

end HttpTelemetry.Decimal
