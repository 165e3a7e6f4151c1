import HttpTelemetry.Text.Bytes

/-!
# Methods and versions

The request line's method and protocol version. A method is any token; upper and lower case are
different methods.
-/

set_option autoImplicit false

namespace HttpTelemetry.Http

def isTokenByte (b : UInt8) : Bool :=
  (0x61 ≤ b && b ≤ 0x7A) || (0x41 ≤ b && b ≤ 0x5A) || (0x30 ≤ b && b ≤ 0x39) ||
    (Bytes.ofText "!#$%&'*+-.^_`|~").contains b

/-- Text of octets below 128. -/
def asciiText (b : Bytes) : String := String.ofList (b.map Char.ofUInt8)

structure Method where
  name : String
  deriving DecidableEq, Inhabited

namespace Method

def get : Method := ⟨"GET"⟩
def head : Method := ⟨"HEAD"⟩
def connect : Method := ⟨"CONNECT"⟩

/-- A method is a token that is not empty. -/
def parse? (b : Bytes) : Option Method :=
  if !b.isEmpty && b.all isTokenByte then some ⟨asciiText b⟩ else none

end Method

inductive Version where
  | http09
  | http10
  | http11
  | http2
  | http3
  deriving DecidableEq, Repr, Inhabited

namespace Version

def text : Version → String
  | .http09 => "HTTP/0.9"
  | .http10 => "HTTP/1.0"
  | .http11 => "HTTP/1.1"
  | .http2 => "HTTP/2.0"
  | .http3 => "HTTP/3.0"

def all : List Version := [.http09, .http10, .http11, .http2, .http3]

/-- Reads exactly the written forms. -/
def parse? (s : String) : Option Version := all.find? fun v => v.text == s

end Version

end HttpTelemetry.Http
