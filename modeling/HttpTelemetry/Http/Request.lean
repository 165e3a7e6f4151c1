import HttpTelemetry.Http.Header
import HttpTelemetry.Http.Target
import HttpTelemetry.Net.SocketAddress

/-!
# Requests

A request head as the library sees it, and how it is read from what arrived on the wire. Bodies of
requests play no part.
-/

set_option autoImplicit false

namespace HttpTelemetry.Http

open Net (SocketAddress)

/-- A request head, with the address of the connection's other end if the server knows it. -/
structure Request where
  method : Method
  version : Version
  target : Target
  headers : Headers
  peer : Option SocketAddress
  deriving DecidableEq

structure RawRequest where
  method : Bytes := Bytes.ofText "GET"
  version : String := "HTTP/1.1"
  target : Bytes := [Target.slash]
  headers : List (Bytes × Bytes) := []
  peer : Option String := none

inductive RequestError where
  | method
  | version
  | target (cause : TargetError)
  | header (cause : HeaderError)
  | peer
  deriving DecidableEq, Repr

def RequestError.message : RequestError → String
  | .method => "invalid HTTP method"
  | .version => "version"
  | .target cause => cause.message
  | .header cause => cause.message
  | .peer => "peer"

namespace Request

/-- The request without its fields of a name. -/
def without (r : Request) (name : String) : Request :=
  { r with headers := r.headers.without name }

@[simp] theorem target_without (r : Request) (name : String) :
    (r.without name).target = r.target := rfl

@[simp] theorem method_without (r : Request) (name : String) :
    (r.without name).method = r.method := rfl

def parseHeaders (raw : List (Bytes × Bytes)) : Except HeaderError Headers :=
  raw.mapM fun (name, value) => Header.parse name value

/-- Reads a request head; the first refused part decides the error. -/
def parse (raw : RawRequest) : Except RequestError Request := do
  let some method := Method.parse? raw.method | throw .method
  let some version := Version.parse? raw.version | throw .version
  let target ← (Target.parse raw.target).mapError .target
  let headers ← (parseHeaders raw.headers).mapError .header
  match raw.peer with
  | none => return ⟨method, version, target, headers, none⟩
  | some text =>
    let some address := SocketAddress.parse? text | throw .peer
    return ⟨method, version, target, headers, some address⟩

end Request

end HttpTelemetry.Http
