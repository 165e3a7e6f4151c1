import HttpTelemetry.Http.Method

/-!
# Header fields

Header lists keep the order in which fields were added. Names are compared in lower case, and a
look-up gives the first value of a name.
-/

set_option autoImplicit false

namespace HttpTelemetry.Http

/-- A header field, with its name in lower case. -/
structure Header where
  name : String
  value : Bytes
  deriving DecidableEq

abbrev Headers := List Header

inductive HeaderError where
  | name
  | value
  deriving DecidableEq, Repr

def HeaderError.message : HeaderError → String
  | .name => "invalid HTTP header name"
  | .value => "failed to parse header value"

namespace Header

def longestName : Nat := 65535

/-- Tabs, printable ASCII and all octets above 127. -/
def isValueByte (b : UInt8) : Bool := b == 9 || (0x20 ≤ b && b != 0x7F)

def lowerByte (b : UInt8) : UInt8 := if 0x41 ≤ b ∧ b ≤ 0x5A then b + 0x20 else b

/-- A field's name: a token of limited length, put in lower case. -/
def parseName? (b : Bytes) : Option String :=
  if !b.isEmpty && b.length ≤ longestName && b.all isTokenByte then
    some (asciiText (b.map lowerByte))
  else none

/-- Checks the name before the value. -/
def parse (name value : Bytes) : Except HeaderError Header :=
  match parseName? name with
  | none => .error .name
  | some n => if value.all isValueByte then .ok ⟨n, value⟩ else .error .value

end Header

namespace Headers

def values (headers : Headers) (name : String) : List Bytes :=
  (headers.filter fun h => h.name == name).map Header.value

/-- The first value of a name. -/
def first? (headers : Headers) (name : String) : Option Bytes :=
  (headers.find? fun h => h.name == name).map Header.value

/-- The first value of a name, if it is readable text. -/
def readable? (headers : Headers) (name : String) : Option String :=
  (headers.first? name).bind Bytes.readable?

/-- The fields of all other names. -/
def without (headers : Headers) (name : String) : Headers := headers.filter fun h => h.name != name

/-- The fields with all others of the new field's name replaced by it. -/
def set (headers : Headers) (name value : String) : Headers :=
  headers.without name ++ [⟨name, Bytes.ofText value⟩]

theorem first?_eq_head? (headers : Headers) (name : String) :
    headers.first? name = (headers.values name).head? := by
  simp [first?, values, List.head?_map, List.head?_filter]

end Headers

/-! ### Names of the fields that the library reads or writes -/

namespace Field

def host : String := "host"
def referer : String := "referer"
def userAgent : String := "user-agent"
def forwardedFor : String := "x-forwarded-for"
def realIp : String := "x-real-ip"
def authorization : String := "authorization"
def authenticate : String := "www-authenticate"
def contentType : String := "content-type"
def contentLength : String := "content-length"
def allow : String := "allow"

end Field

end HttpTelemetry.Http
