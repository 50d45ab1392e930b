import FrameLink.Address.Basic
import FrameLink.Error

/-!
The host a server or client runs on, as far as its network answers them: which local addresses
a socket can bind, which endpoints it can connect to or send a datagram to, and the ephemeral
ports it hands out for port `0`.

The host the transport is run on has its network down: no interface is up and no address is
assigned, though an IPv4 address may be bound without being local. So every IPv4 address binds,
and so does one seen through IPv6; of the other IPv6 addresses only the unspecified one and
multicast addresses bind, and a multicast address binds a datagram socket only, and only when it
needs no interface. No connection is ever made: IPv4 finds no route, IPv6 finds no source
address, and an address that needs an interface is refused without one. A datagram to the
unspecified IPv4 address is meant for the host itself and is sent, to be lost on the loopback
interface that is down; every other datagram fails like a connection, and an IPv4 socket cannot
send to an IPv6 endpoint at all.
-/

namespace FrameLink

inductive SocketKind where
  | stream
  | datagram
deriving DecidableEq, Repr

/-- A host: why it refuses to bind, to connect, or to send a datagram, and the next ephemeral port
it hands out. -/
structure Host where
  bindFailure : SocketKind → IpAddr → Option IoError
  connectFailure : SocketKind → SocketAddr → Option IoError
  sendFailure : SocketAddr → SocketAddr → Option IoError
  nextPort : Nat

/-- The IPv4 address an endpoint is reached at through IPv4, an IPv4-mapped IPv6 one included. -/
def SocketAddr.viaIpv4? : SocketAddr → Option Ipv4
  | .v4 a _ => some a
  | .v6 a _ _ _ => a.toIpv4Mapped?

namespace Host

def offlineBindFailure (kind : SocketKind) : IpAddr → Option IoError
  | .v4 _ => none
  | .v6 a =>
    if a == Ipv6.unspecified || a.toIpv4Mapped?.isSome then none
    else if a.isMulticast then
      if kind == .stream || a.needsInterface then some (.os .invalidArgument) else none
    else if a.isUnicastLinkLocal then some (.os .invalidArgument)
    else some (.os .addressNotAvailable)

/-- Why a host with its network down cannot connect a socket to an endpoint: a multicast endpoint
for a stream socket, or one that needs an interface and names none, is refused outright. -/
def offlineConnectFailure (kind : SocketKind) : SocketAddr → IoError
  | .v4 _ _ => .os .networkUnreachable
  | .v6 a _ _ scopeId =>
    if a.toIpv4Mapped?.isSome then .os .networkUnreachable
    else
      match kind with
      | .stream =>
        if a.isMulticast then .os .networkUnreachable
        else if a.isUnicastLinkLocal && scopeId == 0 then .os .invalidArgument
        else .os .addressNotAvailable
      | .datagram =>
        if a.needsInterface && scopeId == 0 then .os .invalidArgument
        else .os .addressNotAvailable

/-- The IPv4 address a datagram from an IPv6 socket bound at `b` goes to, if it goes through IPv4. -/
def ipv4Destination? (b : Ipv6) (target : SocketAddr) : Option Ipv4 :=
  match target.viaIpv4? with
  | some d => some d
  | none =>
    if b.toIpv4Mapped?.isSome && target.ip == .v6 Ipv6.unspecified then some Ipv4.loopback
    else none

/-- Why a host with its network down does not send a datagram: only one to the unspecified IPv4
address goes, and from an IPv6 socket only when it is bound to no particular address. -/
def offlineSendFailure (source target : SocketAddr) : Option IoError :=
  match source with
  | .v4 _ _ =>
    match target with
    | .v4 d _ => if d == Ipv4.unspecified then none else some (.os .networkUnreachable)
    | .v6 _ _ _ _ => some (.os .addressFamilyNotSupported)
  | .v6 b _ _ _ =>
    match ipv4Destination? b target, b.toIpv4Mapped? with
    | some d, some m =>
      if m.isMulticast || m == Ipv4.broadcast then some (.os .invalidArgument)
      else if m == Ipv4.unspecified && d == Ipv4.unspecified then none
      else some (.os .networkUnreachable)
    | some d, none =>
      if b == Ipv6.unspecified && d == Ipv4.unspecified then none
      else some (.os .networkUnreachable)
    | none, some _ => some (.os .networkUnreachable)
    | none, none => some (.os .addressNotAvailable)

/-- The host the transport runs on: its network is down, and its ephemeral ports start at 32768. -/
def isolated : Host :=
  ⟨offlineBindFailure, fun kind target => some (offlineConnectFailure kind target),
    offlineSendFailure, 32768⟩

/-- Bind a local endpoint for a kind of socket, with an ephemeral port for port `0`. -/
def bind (h : Host) (kind : SocketKind) (ip : IpAddr) (port : UInt16) :
    Except IoError (SocketAddr × Host) :=
  match h.bindFailure kind ip with
  | some e => .error e
  | none =>
    if port = 0 then .ok (SocketAddr.ofIp ip (UInt16.ofNat h.nextPort), { h with nextPort := h.nextPort + 1 })
    else .ok (SocketAddr.ofIp ip port, h)

def connect (h : Host) (kind : SocketKind) (target : SocketAddr) : Except IoError Unit :=
  match h.connectFailure kind target with
  | some e => .error e
  | none => .ok ()

def send (h : Host) (source target : SocketAddr) : Except IoError Unit :=
  match h.sendFailure source target with
  | some e => .error e
  | none => .ok ()

end Host

end FrameLink
