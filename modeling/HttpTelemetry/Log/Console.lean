import HttpTelemetry.Json.Printer
import HttpTelemetry.Log.Event

/-!
# Console lines

How an event is written for readers: as a line of text, or as a JSON object on a line of its own.
The time and, in text, the thread stand in front of it; they are left to whoever writes the line.
-/

set_option autoImplicit false

namespace HttpTelemetry.Log.Console

/-- Characters that steer a terminal are written as escapes; all others stand as they are. -/
def harmless (c : Char) : String :=
  if c = '\x1b' then "\\x1b"
  else if c = '\x07' then "\\x07"
  else if c = '\x08' then "\\x08"
  else if c = '\x0c' then "\\x0c"
  else if c = '\x7f' then "\\x7f"
  else if 0x80 ≤ c.toNat ∧ c.toNat ≤ 0x9f then
    "\\u\x7b" ++ Text.hex 1 c.toNat ++ "\x7d"
  else c.toString

def messageText (s : String) : String := String.join (s.toList.map harmless)

def valueText : Value → String
  | .text s => Json.quote s
  | .shown s => s
  | .nat n => toString n
  | .bool b => if b then "true" else "false"
  | .float x => Json.floatText x

/-- An event in a line of text: level, target and message, then the values by name. -/
def line (e : Event) : String :=
  e.level.text ++ " " ++ e.target ++ ": " ++ messageText e.message ++
    String.join (e.values.map fun (name, v) => " " ++ name ++ "=" ++ valueText v)

def valueJson : Value → Json
  | .text s | .shown s => .text s
  | .nat n => .int n
  | .bool b => .bool b
  | .float x => .float x

/-- An event as a JSON object, with its values beside its level, message and target. -/
def object (e : Event) : Json :=
  .object
    ([("level", .text e.level.text), ("message", .text e.message)] ++
      e.values.map (fun (name, v) => (name, valueJson v)) ++ [("target", .text e.target)])

end HttpTelemetry.Log.Console
