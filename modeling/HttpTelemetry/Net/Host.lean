import HttpTelemetry.Files.Tree
import HttpTelemetry.Net.HostName
import HttpTelemetry.Net.SocketAddress

/-!
# Hosts

The host that the application runs on: which addresses it can send to and listen on, which ports
are in use, which names are known, and its files.
-/

set_option autoImplicit false

namespace HttpTelemetry.Net

/-- A host. Ports below 1024 are kept for privileged programs, and the application is none. -/
structure Host where
  /-- Why datagrams cannot be sent to an address. -/
  sendFault : SocketAddress → Option OsError
  /-- Why nothing can listen on an address, whatever its port. -/
  bindFault : SocketAddress → Option OsError
  /-- Ports that other programs listen on. -/
  portsInUse : List UInt16 := []
  /-- Names of hosts, in lower case, with their addresses. -/
  names : List (String × IpAddress) := []
  files : Files.Tree := {}

namespace Host

/-! ### Hosts without a network -/

/-- Whether an IPv6 address belongs to no program in particular. -/
def isMulticast (groups : Vector UInt16 8) : Bool := groups[0] / 256 == 0xff

/-- Whether an IPv6 address means something only together with an interface. -/
def needsScope (groups : Vector UInt16 8) : Bool :=
  let kind := groups[0] % 16
  groups[0] / 64 == 0x3fa || (isMulticast groups && (kind == 1 || kind == 2))

def isUnspecified (groups : Vector UInt16 8) : Bool := groups.toList.all (· == 0)

/-- The number of the only interface, which leads back to the host. -/
def loopbackScope : UInt32 := 1

/-- Without a route no datagram can be sent, and for an IPv6 address there is no address to send it
from either. -/
def isolatedSendFault (a : SocketAddress) : Option OsError :=
  match a.ip with
  | .v4 _ => some .networkUnreachable
  | .v6 groups =>
    if (IpAddress.mappedOctets? groups).isSome then some .networkUnreachable
    else if needsScope groups && a.scope == 0 then some .invalidArgument
    else some .cannotAssignAddress

/-- As long as no interface is up, all IPv4 addresses count as the host's own, and of the IPv6
addresses only the unspecified one and those that stand for an IPv4 address. -/
def isolatedBindFault (a : SocketAddress) : Option OsError :=
  match a.ip with
  | .v4 _ => none
  | .v6 groups =>
    if isUnspecified groups || (IpAddress.mappedOctets? groups).isSome then none
    else if needsScope groups && a.scope == 0 then some .invalidArgument
    else if needsScope groups && a.scope != loopbackScope then some .noSuchDevice
    else some .cannotAssignAddress

/-- A host without any network, on which not even local datagrams can be sent. -/
def isolated (portsInUse : List UInt16) (files : Files.Tree) : Host where
  sendFault := isolatedSendFault
  bindFault := isolatedBindFault
  portsInUse := portsInUse
  names := [("localhost", .v4 #v[127, 0, 0, 1])]
  files := files

def connected : Host where
  sendFault := fun _ => none
  bindFault := fun _ => none

/-! ### Addresses -/

inductive LookupError where
  | zeroCharacter
  | noAnswer
  | notAName
  deriving DecidableEq, Repr

def LookupError.message : LookupError → String
  | .zeroCharacter => "file name contained an unexpected NUL byte"
  | .noAnswer => "failed to lookup address information: Temporary failure in name resolution"
  | .notAName => "failed to lookup address information: Name or service not known"

/-- The address of a host that is given by an address or by a name. There is nobody to ask about
names that are not known. -/
def lookup (host : Host) (name : String) : Except LookupError IpAddress :=
  if name.toList.contains '\x00' then .error .zeroCharacter
  else
    match ((HostName.numeric? name).or (HostName.groups? name)).or
        (host.names.lookup (Text.lowerAscii name)) with
    | some ip => .ok ip
    | none => .error (if HostName.isName name then .noAnswer else .notAName)

/-- The addresses that a text stands for: an address with its port, or a host and a port after the
last colon. The error is its message. -/
def resolve (host : Host) (s : String) : Except String (List SocketAddress) :=
  match SocketAddress.parse? s with
  | some address => .ok [address]
  | none =>
    match Text.cutLast? ':' s with
    | none => .error "invalid socket address"
    | some (name, port) =>
      match Decimal.numeralUpTo 65535 port with
      | .error _ => .error "invalid port value"
      | .ok n =>
        match host.lookup name with
        | .ok ip => .ok [⟨ip, n.toUInt16, 0⟩]
        | .error e => .error e.message

/-! ### Sockets -/

/-- The largest datagram that can be sent, in octets. -/
def largestDatagram : Nat := 65507

/-- Why a socket cannot be connected for datagrams; `none` if it can. -/
def connectDatagrams (host : Host) (address : SocketAddress) : Option OsError :=
  host.sendFault address

/-- Connections are made to one program, so that nothing can listen on a multicast address. -/
def isShared (a : SocketAddress) : Bool :=
  match a.ip with
  | .v4 _ => false
  | .v6 groups => isMulticast groups

/-- Why a program cannot listen on an address; `none` if it can. -/
def listen (host : Host) (address : SocketAddress) : Option OsError :=
  if isShared address then some .invalidArgument
  else if 0 < address.port ∧ address.port < 1024 then some .permissionDenied
  else
    match host.bindFault address with
    | some e => some e
    | none => if host.portsInUse.contains address.port then some .addressInUse else none

def occupy (host : Host) (port : UInt16) : Host :=
  { host with portsInUse := port :: host.portsInUse }

end Host

end HttpTelemetry.Net
