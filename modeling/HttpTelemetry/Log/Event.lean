/-!
# Log events

What the library itself says while it works. An event has a level, a target that names the part of
the library that speaks, a message, and named values.
-/

set_option autoImplicit false

namespace HttpTelemetry.Log

inductive Level where
  | error
  | warn
  | info
  | debug
  | trace
  deriving DecidableEq, Repr, Inhabited

namespace Level

def text : Level → String
  | .error => "ERROR"
  | .warn => "WARN"
  | .info => "INFO"
  | .debug => "DEBUG"
  | .trace => "TRACE"

/-- Grows with the detail that a level adds. -/
def detail : Level → Nat
  | .error => 1
  | .warn => 2
  | .info => 3
  | .debug => 4
  | .trace => 5

def all : List Level := [.error, .warn, .info, .debug, .trace]

/-- Reads exactly the written forms. -/
def parse? (s : String) : Option Level := all.find? fun l => l.text == s

end Level

/-- A named value of an event. Text that was rendered for the event is kept apart from text that is
the value itself, because a console shows only the latter in quotes. -/
inductive Value where
  | text (s : String)
  | shown (s : String)
  | nat (n : Nat)
  | bool (b : Bool)
  | float (x : Float)

/-- A log event; its values stand in the order in which they were given. -/
structure Event where
  level : Level
  target : String
  message : String
  values : List (String × Value) := []

/-- The name that the message of an event has among its values. -/
def messageName : String := "message"

def Event.has (e : Event) (name : String) : Bool :=
  name == messageName || e.values.any fun (n, _) => n == name

abbrev Logged := StateM (List Event)

def emit (e : Event) : Logged Unit := modify (· ++ [e])

/-- The result of a computation and the events that it logged, in order. -/
def Logged.run {α : Type} (x : Logged α) : α × List Event := StateT.run x []

end HttpTelemetry.Log
