import HttpTelemetry.Http.Status

/-!
# Captured responses

What is remembered of a response while it is sent: its status and the octets of its body. The first
status counts, and body data that comes before any status fixes it at 200.
-/

set_option autoImplicit false

namespace HttpTelemetry

open Http (Status)

/-- Sizes are counted up to this one. -/
def ResponseCapture.largestSize : Nat := Nat.pow 2 64 - 1

structure ResponseCapture where
  known : Option Status := none
  size : Nat := 0
  size_le : size ≤ ResponseCapture.largestSize := by exact Nat.zero_le _
  deriving DecidableEq

namespace ResponseCapture

def empty : ResponseCapture := {}

/-- A status that is not known yet reads as 200. -/
def status (c : ResponseCapture) : Status := c.known.getD Status.ok

def writeHead (c : ResponseCapture) (status : Status) : ResponseCapture :=
  { c with known := some (c.known.getD status) }

def write (c : ResponseCapture) (octets : Nat) : ResponseCapture :=
  { known := some c.status
    size := min (c.size + octets) largestSize
    size_le := Nat.min_le_right _ _ }

inductive Step where
  | head (status : Status)
  | data (octets : Nat)
  deriving DecidableEq

def apply (c : ResponseCapture) : Step → ResponseCapture
  | .head s => c.writeHead s
  | .data n => c.write n

def run (c : ResponseCapture) (steps : List Step) : ResponseCapture := steps.foldl apply c

end ResponseCapture

end HttpTelemetry
