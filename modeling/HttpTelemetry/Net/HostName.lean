import HttpTelemetry.Net.IpAddress
import HttpTelemetry.Text.Pieces

/-!
# Names of hosts

What stands for a host in an address: a name that can be looked up, or an IPv4 address in one of its
shorter forms, in which the last number fills all octets that are left.
-/

set_option autoImplicit false

namespace HttpTelemetry.Net.HostName

open Text (hexDigit?)

/-- The value of digits in a base; all of them have to be digits of it, and there is one at
least. -/
def digitsIn? (base : Nat) (cs : List Char) : Option Nat :=
  match cs with
  | [] => none
  | _ => do
    let digits ← cs.mapM hexDigit?
    if digits.all (· < base) then some (digits.foldl (fun n d => n * base + d) 0) else none

/-- Reads a number: hexadecimal after `0x`, octal after a zero, and decimal otherwise. -/
def number? (cs : List Char) : Option Nat :=
  match cs with
  | '0' :: 'x' :: rest | '0' :: 'X' :: rest => digitsIn? 16 rest
  | '0' :: _ => digitsIn? 8 cs
  | _ => digitsIn? 10 cs

/-- The octets of an address: those given one by one, and those that the last number fills. -/
def octets? (numbers : List Nat) : Option (Vector UInt8 4) :=
  let given := numbers.dropLast
  match numbers.getLast? with
  | none => none
  | some last =>
    let places := 4 - given.length
    if given.length < 4 ∧ given.all (· < 256) ∧ last < Nat.pow 256 places then
      let rest := (List.range places).map fun i => last / Nat.pow 256 (places - 1 - i) % 256
      let all := given ++ rest
      some (Vector.ofFn fun i => (all.getD i.val 0).toUInt8)
    else none

/-- Reads an IPv4 address of one to four numbers with points between them. -/
def numeric? (name : String) : Option IpAddress := do
  let numbers ← (name.toList.splitOn '.').mapM number?
  return .v4 (← octets? numbers)

/-- Reads an IPv6 address. -/
def groups? (name : String) : Option IpAddress :=
  match IpAddress.readV6 name.toList with
  | some (groups, []) => some (.v6 groups)
  | _ => none

def isLabelChar (c : Char) : Bool := c.isAlphanum || c == '-' || c == '_'

def isLabel (cs : List Char) : Bool := !cs.isEmpty && cs.length ≤ 63 && cs.all isLabelChar

/-- The longest name, without a point at its end. -/
def longest : Nat := 253

/-- Whether a text can be looked up: labels with points between them, and perhaps one at the end.
The first label does not begin with a hyphen. The root has no label. -/
def isName (name : String) : Bool :=
  let cs := name.toList
  let cs := if cs.getLast? = some '.' then cs.dropLast else cs
  name = "." ||
    (cs.length ≤ longest && cs.head? != some '-' && (cs.splitOn '.').all isLabel)

end HttpTelemetry.Net.HostName
