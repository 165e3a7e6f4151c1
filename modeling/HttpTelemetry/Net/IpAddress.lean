import HttpTelemetry.Decimal.Numeral
import HttpTelemetry.Text.Hex

/-!
# IP addresses

Addresses of both families with their usual texts. Reading works on the front of a text and returns
what follows, so that addresses can be read inside longer texts.
-/

set_option autoImplicit false

namespace HttpTelemetry.Net

/-- An IPv4 address is four octets, an IPv6 address eight groups of sixteen bits. -/
inductive IpAddress where
  | v4 (octets : Vector UInt8 4)
  | v6 (groups : Vector UInt16 8)
  deriving DecidableEq

namespace IpAddress

/-! ### Reading -/

def expect (c : Char) : List Char → Option (List Char)
  | [] => none
  | d :: rest => if d = c then some rest else none

/-- Reads a decimal number up to a limit, of any length. -/
def readDecimal (limit : Nat) (cs : List Char) : Option (Nat × List Char) :=
  let digits := cs.takeWhile Char.isDigit
  match digits, Decimal.digitsUpTo limit 0 digits with
  | _ :: _, .ok n => some (n, cs.dropWhile Char.isDigit)
  | _, _ => none

/-- Reads an octet in decimal: at most three digits, and no zero in front of another digit. -/
def readOctet (cs : List Char) : Option (UInt8 × List Char) :=
  let digits := cs.takeWhile Char.isDigit
  if digits.length ≤ 3 ∧ ¬(digits.length > 1 ∧ digits.head? = some '0') then
    (readDecimal 255 cs).map fun (n, rest) => (n.toUInt8, rest)
  else none

def readV4 (cs : List Char) : Option (Vector UInt8 4 × List Char) := do
  let (a, cs) ← readOctet cs
  let (b, cs) ← readOctet (← expect '.' cs)
  let (c, cs) ← readOctet (← expect '.' cs)
  let (d, cs) ← readOctet (← expect '.' cs)
  return (#v[a, b, c, d], cs)

/-- Reads a group: one to four hexadecimal digits. -/
def readGroup (cs : List Char) : Option (UInt16 × List Char) :=
  let digits := (cs.takeWhile fun c => (Text.hexDigit? c).isSome).filterMap Text.hexDigit?
  if digits.isEmpty ∨ digits.length > 4 then none
  else some ((digits.foldl (fun n d => n * 16 + d) 0).toUInt16, cs.drop digits.length)

def groupOf (high low : UInt8) : UInt16 := high.toUInt16 * 256 + low.toUInt16

def groupsOfOctets (octets : Vector UInt8 4) : List UInt16 :=
  [groupOf octets[0] octets[1], groupOf octets[2] octets[3]]

/-- What a run of groups gave: the groups, whether an IPv4 address ended it, and the rest. -/
structure GroupRun where
  groups : List UInt16
  endedByV4 : Bool
  rest : List Char

/-- Reads groups with colons between them, up to a number of them. An IPv4 address fills two places
and ends the run. What does not continue the run is left in the rest. -/
def readGroups : Nat → Bool → List Char → GroupRun
  | 0, _, cs => ⟨[], false, cs⟩
  | places + 1, first, cs =>
    match if first then some cs else expect ':' cs with
    | none => ⟨[], false, cs⟩
    | some here =>
      match if places = 0 then none else readV4 here with
      | some (octets, rest) => ⟨groupsOfOctets octets, true, rest⟩
      | none =>
        match readGroup here with
        | none => ⟨[], false, cs⟩
        | some (g, rest) =>
          let run := readGroups places false rest
          ⟨g :: run.groups, run.endedByV4, run.rest⟩

def fillGap (front back : List UInt16) : Vector UInt16 8 :=
  Vector.ofFn fun i =>
    if i.val < front.length then front.getD i 0
    else if 8 - back.length ≤ i.val then back.getD (i.val - (8 - back.length)) 0
    else 0

/-- Reads an IPv6 address: eight groups, or fewer with one `::` in place of one or more zeros. -/
def readV6 (cs : List Char) : Option (Vector UInt16 8 × List Char) := do
  let front := readGroups 8 true cs
  if front.groups.length = 8 then return (fillGap front.groups [], front.rest)
  if front.endedByV4 then none
  let rest ← expect ':' (← expect ':' front.rest)
  let back := readGroups (7 - front.groups.length) true rest
  return (fillGap front.groups back.groups, back.rest)

/-! ### Writing -/

structure Span where
  start : Nat
  length : Nat
  deriving DecidableEq

/-- The first of the longest runs of zeros in the groups, which start at a position; `current` is
the run that ends just before them and `best` the longest one so far. -/
def longestZeros : List UInt16 → Nat → Span → Span → Span
  | [], _, _, best => best
  | g :: rest, position, current, best =>
    if g = 0 then
      let start := if current.length = 0 then position else current.start
      let current : Span := ⟨start, current.length + 1⟩
      longestZeros rest (position + 1) current
        (if best.length < current.length then current else best)
    else longestZeros rest (position + 1) ⟨0, 0⟩ best

/-- Groups have no leading zeros. -/
def groupsText (groups : List UInt16) : String :=
  String.intercalate ":" (groups.map fun g => Text.hex 1 g.toNat)

def octetsText (octets : Vector UInt8 4) : String :=
  String.intercalate "." (octets.toList.map fun b => toString b.toNat)

/-- The IPv4 address inside an IPv4-mapped IPv6 address. -/
def mappedOctets? (groups : Vector UInt16 8) : Option (Vector UInt8 4) :=
  if groups.toList.take 6 = [0, 0, 0, 0, 0, 0xffff] then
    some #v[(groups[6] / 256).toUInt8, groups[6].toUInt8,
      (groups[7] / 256).toUInt8, groups[7].toUInt8]
  else none

/-- IPv4-mapped addresses show the IPv4 address; otherwise the first longest run of two or more
zeros is written `::`. -/
def text : IpAddress → String
  | .v4 octets => octetsText octets
  | .v6 groups =>
    match mappedOctets? groups with
    | some octets => "::ffff:" ++ octetsText octets
    | none =>
      let zeros := longestZeros groups.toList 0 ⟨0, 0⟩ ⟨0, 0⟩
      if 1 < zeros.length then
        groupsText (groups.toList.take zeros.start) ++ "::" ++
          groupsText (groups.toList.drop (zeros.start + zeros.length))
      else groupsText groups.toList

end IpAddress

end HttpTelemetry.Net
