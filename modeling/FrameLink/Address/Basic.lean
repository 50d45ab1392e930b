/-!
Internet addresses: IPv4 addresses of four octets, IPv6 addresses of eight 16-bit groups, and
socket addresses that add a port (and, for IPv6, a flow label and a scope). An IPv6 address of
the form `::ffff:a.b.c.d` is the IPv4 address `a.b.c.d` seen through IPv6; the canonical form
of an address undoes that view and leaves every other address as it is.
-/

namespace FrameLink

structure Ipv4 where
  octets : Vector UInt8 4
deriving DecidableEq, Repr

structure Ipv6 where
  groups : Vector UInt16 8
deriving DecidableEq, Repr

inductive IpAddr where
  | v4 (addr : Ipv4)
  | v6 (addr : Ipv6)
deriving DecidableEq, Repr

/-- An endpoint of a socket; an IPv6 one also has a flow label and a scope identifier. -/
inductive SocketAddr where
  | v4 (ip : Ipv4) (port : UInt16)
  | v6 (ip : Ipv6) (port : UInt16) (flowInfo : UInt32) (scopeId : UInt32)
deriving DecidableEq, Repr

namespace Ipv4

def ofOctets (a b c d : UInt8) : Ipv4 := ⟨#v[a, b, c, d]⟩

def loopback : Ipv4 := ofOctets 127 0 0 1

def unspecified : Ipv4 := ofOctets 0 0 0 0

/-- Whether the address is in the loopback block `127.0.0.0/8`. -/
def isLoopback (a : Ipv4) : Bool := a.octets[0]? = some 127

def broadcast : Ipv4 := ofOctets 255 255 255 255

/-- Whether the address is a multicast address, in `224.0.0.0/4`. -/
def isMulticast (a : Ipv4) : Bool := (a.octets[0]?.map (· &&& 0xf0)) = some 0xe0

end Ipv4

namespace Ipv6

def unspecified : Ipv6 := ⟨Vector.replicate 8 0⟩

def loopback : Ipv6 := ⟨#v[0, 0, 0, 0, 0, 0, 0, 1]⟩

/-- Whether the address is in the link-local block `fe80::/10`. -/
def isUnicastLinkLocal (a : Ipv6) : Bool := (a.groups[0]?.map (· &&& 0xffc0)) = some 0xfe80

/-- Whether the address is a multicast address, in `ff00::/8`. -/
def isMulticast (a : Ipv6) : Bool := (a.groups[0]?.map (· &&& 0xff00)) = some 0xff00

/-- The scope of a multicast address: the low four bits of its first group. -/
def multicastScope (a : Ipv6) : UInt16 := (a.groups[0]?.getD 0) &&& 0xf

/-- Whether a socket must be given an interface to use the address: link-local unicast, or
multicast of interface or link scope. -/
def needsInterface (a : Ipv6) : Bool :=
  a.isUnicastLinkLocal || (a.isMulticast && (a.multicastScope == 1 || a.multicastScope == 2))

/-- The IPv4 address an IPv6 address stands for when it has the form `::ffff:a.b.c.d`. -/
def toIpv4Mapped? (a : Ipv6) : Option Ipv4 :=
  let g := a.groups
  if g[0] = 0 ∧ g[1] = 0 ∧ g[2] = 0 ∧ g[3] = 0 ∧ g[4] = 0 ∧ g[5] = 0xffff then
    some (Ipv4.ofOctets (g[6] >>> 8).toUInt8 g[6].toUInt8 (g[7] >>> 8).toUInt8 g[7].toUInt8)
  else none

end Ipv6

namespace IpAddr

/-- The address with an IPv4-mapped IPv6 address replaced by the IPv4 address it maps. -/
def canonical : IpAddr → IpAddr
  | .v4 a => .v4 a
  | .v6 a =>
    match a.toIpv4Mapped? with
    | some b => .v4 b
    | none => .v6 a

def isV4 : IpAddr → Bool
  | .v4 _ => true
  | .v6 _ => false

end IpAddr

namespace SocketAddr

def ip : SocketAddr → IpAddr
  | .v4 a _ => .v4 a
  | .v6 a _ _ _ => .v6 a

def port : SocketAddr → UInt16
  | .v4 _ p => p
  | .v6 _ p _ _ => p

/-- The endpoint of an address and a port, with no flow label or scope. -/
def ofIp : IpAddr → UInt16 → SocketAddr
  | .v4 a, p => .v4 a p
  | .v6 a, p => .v6 a p 0 0

end SocketAddr

end FrameLink
