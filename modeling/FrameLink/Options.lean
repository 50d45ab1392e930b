import FrameLink.Address.Basic
import FrameLink.Error

/-!
Transports and options. A server or client uses the stream transport, the datagram transport,
or both. Options come with defaults; validation reports the first field the instance cannot run
with, in a fixed order. Durations are counted in nanoseconds.
-/

namespace FrameLink

inductive Protocol where
  | tcp
  | udp
  | both
deriving DecidableEq, Repr

namespace Protocol

/-- Both transports, when nothing else is chosen. -/
def default : Protocol := .both

def display : Protocol → String
  | .tcp => "TCP"
  | .udp => "UDP"
  | .both => "TCP+UDP"

def usesTcp : Protocol → Bool
  | .tcp | .both => true
  | .udp => false

def usesUdp : Protocol → Bool
  | .udp | .both => true
  | .tcp => false

/-- Whether an instance configured for `configured` offers `transport`: each single transport when
it is used, both only when both are configured. -/
def offers (configured transport : Protocol) : Bool :=
  match transport with
  | .tcp => configured.usesTcp
  | .udp => configured.usesUdp
  | .both => configured = .both

end Protocol

inductive FailedOperation where
  | connectTcp
  | sendTcp
  | receiveTcp
  | sendUdp
  | receiveUdp
deriving DecidableEq, Repr

def FailedOperation.display : FailedOperation → String
  | .connectTcp => "connect (TCP)"
  | .sendTcp => "send (TCP)"
  | .receiveTcp => "receive (TCP)"
  | .sendUdp => "send (UDP)"
  | .receiveUdp => "receive (UDP)"

def FailedOperation.all : List FailedOperation :=
  [.connectTcp, .sendTcp, .receiveTcp, .sendUdp, .receiveUdp]

/-- The time between two drains of a dispatch queue when none is given: 30 ms. -/
def defaultRefreshInterval : Nat := 30000000

/-- The socket buffer size when none is given. -/
def defaultBufferSize : Nat := 8192

structure ServerOptions where
  address : IpAddr := .v4 Ipv4.unspecified
  port : UInt16 := 0
  maxClients : Nat := 100
  receiveBufferSize : Nat := defaultBufferSize
  sendBufferSize : Nat := defaultBufferSize
  receiveTimeout : Option Nat := none
  sendTimeout : Option Nat := none
  protocol : Protocol := .both
  refreshInterval : Nat := defaultRefreshInterval
  disconnectClientOnError : Bool := true
  requireClientIdInUdpData : Bool := true
  maxFrameLength : Nat := 16777216
deriving Repr

/-- Client options, for a server at `address` and `port`. -/
structure ClientOptions where
  address : IpAddr
  port : UInt16
  receiveBufferSize : Nat := defaultBufferSize
  sendBufferSize : Nat := defaultBufferSize
  receiveTimeout : Option Nat := none
  sendTimeout : Option Nat := none
  connectTimeout : Option Nat := none
  protocol : Protocol := .both
  refreshInterval : Nat := defaultRefreshInterval
  disconnectOnError : Bool := true
  maxFrameLength : Nat := 16777216
deriving Repr

def invalid (reason : String) : Except NetError Unit := .error (.invalidOptions reason)

/-- The checks servers and clients share: buffers, timeouts, refresh interval and frame limit must
not be zero, in this order. -/
def validateCommon (receiveBufferSize sendBufferSize : Nat) (receiveTimeout sendTimeout : Option Nat)
    (refreshInterval maxFrameLength : Nat) : Except NetError Unit :=
  if receiveBufferSize = 0 then invalid "receive_buffer_size cannot be 0"
  else if sendBufferSize = 0 then invalid "send_buffer_size cannot be 0"
  else if receiveTimeout = some 0 then invalid "receive_timeout cannot be 0"
  else if sendTimeout = some 0 then invalid "send_timeout cannot be 0"
  else if refreshInterval = 0 then invalid "refresh_interval cannot be 0"
  else if maxFrameLength = 0 then invalid "max_frame_length cannot be 0"
  else .ok ()

/-- Check server options: at least one client, the shared checks, and identities in datagrams only
where the stream transport hands them out. -/
def ServerOptions.validate (o : ServerOptions) : Except NetError Unit := do
  if o.maxClients = 0 then invalid "max_clients cannot be 0"
  validateCommon o.receiveBufferSize o.sendBufferSize o.receiveTimeout o.sendTimeout
    o.refreshInterval o.maxFrameLength
  if o.protocol = .udp ∧ o.requireClientIdInUdpData then
    invalid "require_client_id_in_udp_data needs the TCP transport to assign identities"

/-- Check client options: a port, a connect timeout that is not zero, then the shared checks. -/
def ClientOptions.validate (o : ClientOptions) : Except NetError Unit := do
  if o.port = 0 then invalid "port cannot be 0"
  if o.connectTimeout = some 0 then invalid "connect_timeout cannot be 0"
  validateCommon o.receiveBufferSize o.sendBufferSize o.receiveTimeout o.sendTimeout
    o.refreshInterval o.maxFrameLength

def ClientOptions.server (o : ClientOptions) : SocketAddr := SocketAddr.ofIp o.address o.port

end FrameLink
