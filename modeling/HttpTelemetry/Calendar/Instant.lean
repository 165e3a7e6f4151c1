/-!
# Instants

Points in time as nanoseconds since the start of 1970 in UTC, within the years that calendar dates
are kept for. Leaving that range is an outcome of its own, never a wrapped value.
-/

set_option autoImplicit false

namespace HttpTelemetry.Calendar

def nanosPerSecond : Nat := 1000000000

/-- The first second of the year -262143. -/
def Instant.firstSecond : Int := -8334601228800

/-- The last second of the year 262142. -/
def Instant.lastSecond : Int := 8210266876799

/-- A nanosecond between the first and the last supported second. -/
def Instant.InRange (nanos : Int) : Prop :=
  Instant.firstSecond * nanosPerSecond ≤ nanos ∧
    nanos < (Instant.lastSecond + 1) * nanosPerSecond

instance (nanos : Int) : Decidable (Instant.InRange nanos) :=
  inferInstanceAs (Decidable (_ ∧ _))

/-- A point in time, in nanoseconds since the start of 1970 in UTC. -/
structure Instant where
  nanos : Int
  inRange : Instant.InRange nanos
  deriving DecidableEq

namespace Instant

@[ext] theorem ext {s t : Instant} (h : s.nanos = t.nanos) : s = t := by
  cases s; cases t; cases h; rfl

/-- The start of 1970. -/
def epoch : Instant := ⟨0, by decide⟩

instance : Inhabited Instant := ⟨epoch⟩

/-- The instant of a count of nanoseconds; `none` if it lies outside the supported years. -/
def ofNanos? (nanos : Int) : Option Instant :=
  if h : InRange nanos then some ⟨nanos, h⟩ else none

def ofSeconds? (seconds : Int) (part : Nat) : Option Instant :=
  ofNanos? (seconds * nanosPerSecond + part)

/-- The instant a number of nanoseconds later; `none` if it lies outside the supported years. -/
def later? (t : Instant) (nanos : Int) : Option Instant := ofNanos? (t.nanos + nanos)

def seconds (t : Instant) : Int := t.nanos / nanosPerSecond

/-- The nanoseconds since the start of that second. -/
def subsecond (t : Instant) : Nat := (t.nanos % nanosPerSecond).toNat

theorem subsecond_lt (t : Instant) : t.subsecond < nanosPerSecond := by
  unfold subsecond nanosPerSecond; omega

theorem seconds_subsecond (t : Instant) :
    t.seconds * nanosPerSecond + t.subsecond = t.nanos := by
  unfold seconds subsecond nanosPerSecond; omega

end Instant

end HttpTelemetry.Calendar
