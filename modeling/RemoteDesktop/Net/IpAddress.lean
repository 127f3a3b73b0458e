import RemoteDesktop.Net.SocketAddress

/-!
# IP addresses

An IP address of either family, as it is named apart from any port and scope. Its text is that of its family, without
brackets.
-/

namespace RemoteDesktop.Net

/-- An IP address of either family. -/
inductive IpAddress where
  | v4 (ip : Ipv4)
  | v6 (ip : Ipv6)
  deriving DecidableEq

namespace IpAddress

/-- The text of an address. -/
def write : IpAddress → List Char
  | v4 ip => ip.write
  | v6 ip => ip.write

/-- The address with a port, in no scope. -/
def withPort (port : UInt16) : IpAddress → SocketAddress
  | v4 ip => .v4 ip port
  | v6 ip => .v6 ip 0 port

def isV6 : IpAddress → Bool
  | v4 _ => false
  | v6 _ => true

end IpAddress

namespace SocketAddress

/-- The IP address alone. -/
def ip : SocketAddress → IpAddress
  | v4 ip _ => .v4 ip
  | v6 ip _ _ => .v6 ip

/-- The scope of the address; an IPv4 address has none. -/
def scope : SocketAddress → UInt32
  | v4 .. => 0
  | v6 _ scope _ => scope

@[simp] theorem ip_withPort (address : SocketAddress) (port : UInt16) : (address.withPort port).ip = address.ip := by
  cases address <;> rfl

@[simp] theorem scope_withPort (address : SocketAddress) (port : UInt16) :
    (address.withPort port).scope = address.scope := by
  cases address <;> rfl

@[simp] theorem port_withPort (address : SocketAddress) (port : UInt16) : (address.withPort port).port = port := by
  cases address <;> rfl

end SocketAddress

end RemoteDesktop.Net
