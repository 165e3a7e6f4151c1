import HttpTelemetry.Json.Basic
import HttpTelemetry.Text.Hex

/-!
# Reading JSON text

Whole numbers that fit into 64 bits, signed or unsigned, are kept exactly; every other number is the
nearest double. Of two members of one name the later one counts. Each reading function returns what
it has read together with the characters that follow.
-/

set_option autoImplicit false

namespace HttpTelemetry.Json

def isLayout (c : Char) : Bool := c == ' ' || c == '\t' || c == '\n' || c == '\r'

def skipLayout (cs : List Char) : List Char := cs.dropWhile isLayout

def readWord : List Char → List Char → Option (List Char)
  | [], cs => some cs
  | w :: word, c :: cs => if w = c then readWord word cs else none
  | _ :: _, [] => none

/-! ### Numbers -/

def digitsValue (digits : List Char) : Nat :=
  digits.foldl (fun n c => n * 10 + (c.toNat - '0'.toNat)) 0

def readDigits (cs : List Char) : Option (List Char × List Char) :=
  match cs.takeWhile Char.isDigit with
  | [] => none
  | digits => some (digits, cs.dropWhile Char.isDigit)

/-- Reads the digits after a point, if there is one. -/
def readFraction : List Char → Option (Option (List Char) × List Char)
  | '.' :: cs => (readDigits cs).map fun (digits, rest) => (some digits, rest)
  | cs => some (none, cs)

/-- Reads an exponent, if there is one. -/
def readExponent : List Char → Option (Option Int × List Char)
  | c :: cs =>
    if c = 'e' ∨ c = 'E' then
      let (negative, digits) := match cs with
        | '-' :: rest => (true, rest)
        | '+' :: rest => (false, rest)
        | rest => (false, rest)
      (readDigits digits).map fun (digits, rest) =>
        let n : Int := digitsValue digits
        (some (if negative then -n else n), rest)
    else some (none, c :: cs)
  | [] => some (none, [])

/-- Whole numbers from `-2 ^ 63` to `2 ^ 64 - 1` are exact. -/
def isExact (n : Int) : Bool := -9223372036854775808 ≤ n && n < 18446744073709551616

/-- The double nearest to `digits * 10 ^ power`. -/
def nearestDouble (negative : Bool) (digits : Nat) (power : Int) : Float :=
  let x := Float.ofScientific digits (power < 0) power.natAbs
  if negative then -x else x

def readNumber (negative : Bool) (cs : List Char) : Option (Json × List Char) := do
  let (whole, cs) ← readDigits cs
  if whole.length > 1 ∧ whole.head? = some '0' then none
  let (fraction, cs) ← readFraction cs
  let (exponent, cs) ← readExponent cs
  let n := digitsValue whole
  let signed : Int := if negative then -n else n
  match fraction, exponent with
  | none, none =>
    if isExact signed && !(negative && n == 0) then return (.int signed, cs)
    else return (.float (nearestDouble negative n 0), cs)
  | _, _ =>
    let fraction := fraction.getD []
    let digits := digitsValue (whole ++ fraction)
    return (.float (nearestDouble negative digits (exponent.getD 0 - fraction.length)), cs)

/-! ### Texts -/

def readHex4 : List Char → Option (Nat × List Char)
  | a :: b :: c :: d :: rest => do
    let digits ← [a, b, c, d].mapM Text.hexDigit?
    return (digits.foldl (fun n digit => n * 16 + digit) 0, rest)
  | _ => none

/-- Reads what follows `\u`: one unit, or a pair of surrogates. -/
def readUnit (cs : List Char) : Option (Char × List Char) := do
  let (unit, rest) ← readHex4 cs
  if 0xD800 ≤ unit ∧ unit < 0xDC00 then
    let (low, rest) ← readHex4 (← readWord ['\\', 'u'] rest)
    if 0xDC00 ≤ low ∧ low < 0xE000 then
      return (Char.ofNat (0x10000 + (unit - 0xD800) * 0x400 + (low - 0xDC00)), rest)
    else none
  else if 0xDC00 ≤ unit ∧ unit < 0xE000 then none
  else return (Char.ofNat unit, rest)

def readEscape : List Char → Option (Char × List Char)
  | '"' :: cs => some ('"', cs)
  | '\\' :: cs => some ('\\', cs)
  | '/' :: cs => some ('/', cs)
  | 'b' :: cs => some ('\x08', cs)
  | 'f' :: cs => some ('\x0c', cs)
  | 'n' :: cs => some ('\n', cs)
  | 'r' :: cs => some ('\r', cs)
  | 't' :: cs => some ('\t', cs)
  | 'u' :: cs => readUnit cs
  | _ => none

/-- Reads the rest of a text after its opening quote; `read` holds its characters so far, the last
one first. The first argument bounds the number of characters. -/
def readText : Nat → List Char → List Char → Option (String × List Char)
  | _, read, '"' :: cs => some (String.ofList read.reverse, cs)
  | n + 1, read, '\\' :: cs =>
    match readEscape cs with
    | some (c, rest) => readText n (c :: read) rest
    | none => none
  | n + 1, read, c :: cs => if c.toNat < 0x20 then none else readText n (c :: read) cs
  | _, _, _ => none

/-! ### Values -/

mutual

/-- Reads a value. The first argument bounds the number of values and members, which is at most the
number of characters. -/
def readValue : Nat → List Char → Option (Json × List Char)
  | 0, _ => none
  | n + 1, cs =>
    match skipLayout cs with
    | '"' :: rest => (readText rest.length [] rest).map fun (s, rest) => (.text s, rest)
    | '[' :: rest =>
      match skipLayout rest with
      | ']' :: rest => some (.list [], rest)
      | rest => (readItems n rest).map fun (items, rest) => (.list items, rest)
    | '\x7b' :: rest =>
      match skipLayout rest with
      | '\x7d' :: rest => some (.object [], rest)
      | rest => (readMembers n rest).map fun (ms, rest) => (.object (Fields.ofList ms), rest)
    | '-' :: rest => readNumber true rest
    | 't' :: rest => (readWord ['r', 'u', 'e'] rest).map fun rest => (.bool true, rest)
    | 'f' :: rest => (readWord ['a', 'l', 's', 'e'] rest).map fun rest => (.bool false, rest)
    | 'n' :: rest => (readWord ['u', 'l', 'l'] rest).map fun rest => (.null, rest)
    | rest => readNumber false rest

def readItems : Nat → List Char → Option (List Json × List Char)
  | 0, _ => none
  | n + 1, cs =>
    match readValue n cs with
    | none => none
    | some (item, rest) =>
      match skipLayout rest with
      | ',' :: rest => (readItems n rest).map fun (items, rest) => (item :: items, rest)
      | ']' :: rest => some ([item], rest)
      | _ => none

def readMembers : Nat → List Char → Option (List (String × Json) × List Char)
  | 0, _ => none
  | n + 1, cs =>
    match skipLayout cs with
    | '"' :: rest =>
      match readText rest.length [] rest with
      | none => none
      | some (name, rest) =>
        match skipLayout rest with
        | ':' :: rest =>
          match readValue n rest with
          | none => none
          | some (value, rest) =>
            match skipLayout rest with
            | ',' :: rest => (readMembers n rest).map fun (ms, rest) => ((name, value) :: ms, rest)
            | '\x7d' :: rest => some ([(name, value)], rest)
            | _ => none
        | _ => none
    | _ => none

end

/-- The value that a text denotes; `none` if the text is not JSON. -/
def parse? (s : String) : Option Json :=
  let cs := s.toList
  match readValue (cs.length + 1) cs with
  | some (value, rest) => if (skipLayout rest).isEmpty then some value else none
  | none => none

end HttpTelemetry.Json
