import HttpTelemetry.Net.IpAddress

/-!
# Socket addresses

An IP address with a port; an IPv6 address may name the interface it is meant for by a scope.
-/

set_option autoImplicit false

namespace HttpTelemetry.Net

/-- A transport address. IPv4 addresses have no scope, which is then 0. -/
structure SocketAddress where
  ip : IpAddress
  port : UInt16
  scope : UInt32 := 0
  deriving DecidableEq

namespace SocketAddress

open IpAddress (expect readDecimal readV4 readV6)

def portAtEnd? (cs : List Char) : Option UInt16 := do
  let (port, rest) ← readDecimal 65535 (← expect ':' cs)
  if rest.isEmpty then some port.toUInt16 else none

def readScope (cs : List Char) : Option (UInt32 × List Char) :=
  match cs with
  | '%' :: rest => (readDecimal 4294967295 rest).map fun (n, rest) => (n.toUInt32, rest)
  | _ => some (0, cs)

def parseV4? (cs : List Char) : Option SocketAddress := do
  let (octets, rest) ← readV4 cs
  return ⟨.v4 octets, ← portAtEnd? rest, 0⟩

/-- An IPv6 address stands in brackets, together with its scope. -/
def parseV6? (cs : List Char) : Option SocketAddress := do
  let (groups, rest) ← readV6 (← expect '[' cs)
  let (scope, rest) ← readScope rest
  return ⟨.v6 groups, ← portAtEnd? (← expect ']' rest), scope⟩

/-- Reads `a.b.c.d:port`, `[groups]:port` or `[groups%scope]:port`. -/
def parse? (s : String) : Option SocketAddress :=
  (parseV4? s.toList).or (parseV6? s.toList)

def text (a : SocketAddress) : String :=
  let port := toString a.port.toNat
  match a.ip with
  | .v4 _ => a.ip.text ++ ":" ++ port
  | .v6 _ =>
    let scope := if a.scope = 0 then "" else "%" ++ toString a.scope.toNat
    "[" ++ a.ip.text ++ scope ++ "]:" ++ port

end SocketAddress

end HttpTelemetry.Net
