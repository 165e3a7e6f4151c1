import HttpTelemetry.Config.Environment
import HttpTelemetry.Decimal.Numeral

/-!
# Threads of the demo

A run starts the threads that serve requests before it does anything else. Variables of the process
tell how many they are and how large their stacks are; a settings file is read too late for that.
-/

set_option autoImplicit false

namespace HttpTelemetry.Demo

open Config Decimal

inductive ThreadError where
  /-- The count is no text, no numeral that fits into a machine word, or zero. -/
  | invalidCount
  /-- There is no list of so many threads. -/
  | excessiveCount
  | outOfMemory
  /-- No thread can have such a stack. -/
  | excessiveStack
  deriving DecidableEq, Repr

namespace Threads

def countVariable : String := "TOKIO_WORKER_THREADS"

/-- The variable that tells how many octets the stack of a thread takes. -/
def stackVariable : String := "RUST_MIN_STACK"

def greatestWord : Nat := 0xFFFFFFFFFFFFFFFF

/-- The greatest length of a list of addresses. -/
def greatestLength : Nat := 0xFFFFFFFFFFFFFFF

/-- The octets that a run can have on its host. -/
def memory : Nat := 0x800000000

/-- The octets that it takes to keep track of a thread. -/
def upkeep : Nat := 4096

def allot (count : Nat) : Except ThreadError Unit :=
  if count = 0 then .error .invalidCount
  else if greatestLength < count then .error .excessiveCount
  else if memory < count * upkeep then .error .outOfMemory
  else .ok ()

/-- Sets up as many threads as the variable tells, or as suits the host. -/
def setUp (env : Environment) : Except ThreadError Unit :=
  match env.value? countVariable with
  | none => .ok ()
  | some value =>
    match (Bytes.toText? value).map (numeralUpTo greatestWord) with
    | some (.ok count) => allot count
    | _ => .error .invalidCount

/-- Gives the threads their stacks. A variable that holds no numeral counts as unset. -/
def giveStacks (env : Environment) : Except ThreadError Unit :=
  match (env.text? stackVariable).map (numeralUpTo greatestWord) with
  | some (.ok size) => if size ≤ memory then .ok () else .error .excessiveStack
  | _ => .ok ()

def start (env : Environment) : Except ThreadError Unit := do
  setUp env
  giveStacks env

end Threads

end HttpTelemetry.Demo
