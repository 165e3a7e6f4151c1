/-!
# Status codes
-/

set_option autoImplicit false

namespace HttpTelemetry.Http

/-- A status code has three digits, the first of which is not zero. -/
structure Status where
  code : Nat
  least : 100 ≤ code := by decide
  most : code ≤ 999 := by decide
  deriving DecidableEq

namespace Status

@[ext] theorem ext {s t : Status} (h : s.code = t.code) : s = t := by
  cases s; cases t; cases h; rfl

def ok : Status := { code := 200 }
def unauthorized : Status := { code := 401 }
def notFound : Status := { code := 404 }
def methodNotAllowed : Status := { code := 405 }
def internalServerError : Status := { code := 500 }

instance : Inhabited Status := ⟨ok⟩

/-- The status of a code, if the code is one. -/
def ofNat? (n : Nat) : Option Status :=
  if h : 100 ≤ n ∧ n ≤ 999 then some ⟨n, h.1, h.2⟩ else none

def invalidMessage : String := "invalid status code"

def text (s : Status) : String := toString s.code

end Status

end HttpTelemetry.Http
