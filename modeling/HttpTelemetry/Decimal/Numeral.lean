/-!
# Unsigned numerals

Decimal numerals with an upper limit: how they are written, and how settings and addresses read
them. Reading goes from left to right and stops at the first thing that is wrong.
-/

set_option autoImplicit false

namespace HttpTelemetry.Decimal

inductive NumeralError where
  | empty
  | invalidDigit
  | tooLarge
  deriving DecidableEq, Repr

def NumeralError.message : NumeralError → String
  | .empty => "cannot parse integer from empty string"
  | .invalidDigit => "invalid digit found in string"
  | .tooLarge => "number too large to fit in target type"

def digit? (c : Char) : Option Nat :=
  if c.isDigit then some (c.toNat - '0'.toNat) else none

/-- Reads digits after a value already read, as long as the value stays within the limit. -/
def digitsUpTo (limit value : Nat) : List Char → Except NumeralError Nat
  | [] => .ok value
  | c :: rest =>
    match digit? c with
    | none => .error .invalidDigit
    | some d =>
      if value * 10 + d ≤ limit then digitsUpTo limit (value * 10 + d) rest
      else .error .tooLarge

/-- A numeral is one or more digits, with at most one plus sign in front. -/
def numeralUpTo (limit : Nat) (s : String) : Except NumeralError Nat :=
  match s.toList with
  | [] => .error .empty
  | ['+'] => .error .invalidDigit
  | '+' :: rest => digitsUpTo limit 0 rest
  | cs => digitsUpTo limit 0 cs

def padded (width n : Nat) : String :=
  let digits := Nat.toDigits 10 n
  String.ofList (List.replicate (width - digits.length) '0' ++ digits)

end HttpTelemetry.Decimal
