import HttpTelemetry.Json.Basic
import HttpTelemetry.Decimal.Shortest
import HttpTelemetry.Text.Hex

/-!
# JSON text

The compact text of a JSON value: no blanks, members in the order in which they stand, and every
double as the shortest decimal that reads back.
-/

set_option autoImplicit false

namespace HttpTelemetry.Json

open Decimal (padded)

/-- Quotes, backslashes and control characters are escaped; all other characters stand as they
are. -/
def escapeChar (c : Char) : String :=
  if c = '"' then "\\\""
  else if c = '\\' then "\\\\"
  else if c = '\x08' then "\\b"
  else if c = '\x0c' then "\\f"
  else if c = '\n' then "\\n"
  else if c = '\r' then "\\r"
  else if c = '\t' then "\\t"
  else if c.toNat < 0x20 then "\\u" ++ Text.hex 4 c.toNat
  else c.toString

def quote (s : String) : String :=
  "\"" ++ String.join (s.toList.map escapeChar) ++ "\""

/-- A decimal of `digits * 10 ^ power` as a JSON number. Positions are written out from `0.00001` up
to sixteen digits before the point, and such a number always shows a fraction; all others have an
exponent, which always shows its sign. -/
def decimalText (digits : String) (power : Int) : String :=
  let size : Int := digits.length
  let point := size + power
  if 0 ≤ power ∧ point ≤ 16 then
    digits ++ String.ofList (List.replicate power.toNat '0') ++ ".0"
  else if 0 < point ∧ point ≤ 16 then
    String.ofList (digits.toList.take point.toNat) ++ "." ++
      String.ofList (digits.toList.drop point.toNat)
  else if -5 < point ∧ point ≤ 0 then
    "0." ++ String.ofList (List.replicate point.natAbs '0') ++ digits
  else
    let whole := String.ofList (digits.toList.take 1)
    let fraction := String.ofList (digits.toList.drop 1)
    let exponent := point - 1
    whole ++ (if fraction = "" then "" else "." ++ fraction) ++
      (if 0 ≤ exponent then "e+" else "e-") ++ toString exponent.natAbs

/-- A double as a JSON number; a value that is no finite number reads `null`. -/
def floatText (x : Float) : String :=
  match Decimal.Binary.ofFloat x with
  | .finite negative significand exponent =>
    let shown :=
      if significand = 0 then "0.0"
      else
        let d := Decimal.shortest significand exponent
        decimalText (padded 1 d.digits) d.power
    (if negative then "-" else "") ++ shown
  | _ => "null"

def commaSeparated (items : List String) : String := String.intercalate "," items

mutual

def render : Json → String
  | .null => "null"
  | .bool b => if b then "true" else "false"
  | .int n => toString n
  | .float x => floatText x
  | .text s => quote s
  | .list items => "[" ++ commaSeparated (renderItems items) ++ "]"
  | .object members => "\x7b" ++ commaSeparated (renderMembers members) ++ "\x7d"

def renderItems : List Json → List String
  | [] => []
  | item :: rest => render item :: renderItems rest

def renderMembers : List (String × Json) → List String
  | [] => []
  | (name, value) :: rest => (quote name ++ ":" ++ render value) :: renderMembers rest

end

def asFloat? : Json → Option Float
  | .int n => some (Float.ofInt n)
  | .float x => some x
  | _ => none

end HttpTelemetry.Json
