import FrameLink.Session.Stream
import FrameLink.Dispatch.Queue
import FrameLink.Frame.Datagram
import FrameLink.Host

/-!
The client: at most one stream session and one datagram session to a server, the identity it
puts in front of its datagrams, and the queue that delivers its events to the application.

Connecting checks, in order, that the client uses the transport, that it has not been closed and
that the transport is not already connected. A failed stream connection is both returned and
reported to the application; a failed datagram association is only returned. Connecting both
transports closes the stream again when the datagram side fails, so the client is never left
half connected. Closing disconnects without telling the application and stops the queue for
good.
-/

namespace FrameLink

inductive ClientEvent where
  | connected (protocol : Protocol)
  | disconnected (protocol : Protocol)
  | data (payload : Packet)
  | failed (operation : FailedOperation) (error : NetError)

/-- A datagram socket associated with the server: its local endpoint, whether it is open, and the
datagrams waiting to be sent. -/
structure DatagramSession where
  localAddr : SocketAddr
  isOpen : Bool
  outgoing : List (List UInt8)
deriving Repr

namespace DatagramSession

/-- Queue a datagram; a closed session refuses it. -/
def send (d : DatagramSession) (data : List UInt8) : Except NetError DatagramSession :=
  if d.isOpen then .ok { d with outgoing := d.outgoing ++ [data] } else .error .notConnected

def close (d : DatagramSession) : Bool × DatagramSession :=
  (d.isOpen, { d with isOpen := false, outgoing := [] })

end DatagramSession

structure Client where
  options : ClientOptions
  id : ClientId
  queue : DispatchQueue (DispatchJob ClientEvent)
  stream : Option StreamSession
  datagram : Option DatagramSession
  closed : Bool

namespace Client

/-- A client with valid options, connected to nothing, with identity `0`. -/
def new (options : ClientOptions) : Except NetError Client := do
  options.validate
  let (_, queue) := DispatchQueue.start.execute .bind
  pure { options, id := 0, queue, stream := none, datagram := none, closed := false }

def dispatch (c : Client) (e : ClientEvent) : Client :=
  { c with queue := (c.queue.execute (.deliver e)).2 }

def require (c : Client) (transport : Protocol) : Except NetError Unit :=
  if c.options.protocol.offers transport then .ok ()
  else .error (.invalidProtocol
    ("client is configured for " ++ c.options.protocol.display ++ ", not " ++ transport.display))

def ensureOpen (c : Client) : Except NetError Unit :=
  if c.closed then .error (.invalidState "client has been closed") else .ok ()

def isTcpConnected (c : Client) : Bool := c.stream.any StreamSession.isConnected

def isUdpConnected (c : Client) : Bool := c.datagram.any DatagramSession.isOpen

def isConnected (c : Client) : Bool := c.isTcpConnected || c.isUdpConnected

/-- The stage of the stream session, `idle` before the first. -/
def tcpState (c : Client) : LinkState := (c.stream.map StreamSession.state).getD .idle

def localUdpAddr (c : Client) : Option SocketAddr := c.datagram.map DatagramSession.localAddr

def server (c : Client) : SocketAddr := c.options.server

def connectTcp (c : Client) (host : Host) : Except NetError Unit × Client :=
  match (do c.require .tcp; c.ensureOpen : Except NetError Unit) with
  | .error e => (.error e, c)
  | .ok () =>
    if c.isTcpConnected then (.error (.invalidState "TCP is already connected"), c)
    else
      match host.connect .stream c.server with
      | .error e => (.error (.io e), c.dispatch (.failed .connectTcp (.io e)))
      | .ok () =>
        let (_, session) := (StreamSession.new c.server).attach
        (.ok (), ({ c with stream := some session } : Client).dispatch (.connected .tcp))

/-- The unspecified address of the server's family, which the datagram socket binds. -/
def wildcard (c : Client) : IpAddr :=
  match c.server with
  | .v4 _ _ => .v4 Ipv4.unspecified
  | .v6 _ _ _ _ => .v6 Ipv6.unspecified

/-- Open the datagram session: bind an ephemeral port of the server's family and associate it. -/
def connectUdp (c : Client) (host : Host) : Except NetError Unit × Client × Host :=
  match (do c.require .udp; c.ensureOpen : Except NetError Unit) with
  | .error e => (.error e, c, host)
  | .ok () =>
    if c.isUdpConnected then (.error (.invalidState "UDP is already connected"), c, host)
    else
      match host.bind .datagram c.wildcard 0 with
      | .error e => (.error (.io e), c, host)
      | .ok (bound, host) =>
        match host.connect .datagram c.server with
        | .error e => (.error (.io e), c, host)
        | .ok () =>
          let session : DatagramSession := ⟨SocketAddr.ofIp c.server.ip bound.port, true, []⟩
          (.ok (), ({ c with datagram := some session } : Client).dispatch (.connected .udp), host)

def closeTcp (c : Client) : Client :=
  match c.stream with
  | none => c
  | some session =>
    let (closed, _) := session.close
    let c := { c with stream := none }
    if closed then c.dispatch (.disconnected .tcp) else c

def connect (c : Client) (host : Host) : Except NetError Unit × Client × Host :=
  let protocol := c.options.protocol
  let (tcp, c) := if protocol.usesTcp then c.connectTcp host else (.ok (), c)
  match tcp with
  | .error e => (.error e, c, host)
  | .ok () =>
    if protocol.usesUdp then
      match c.connectUdp host with
      | (.error e, c, host) => (.error e, if protocol.usesTcp then c.closeTcp else c, host)
      | (.ok (), c, host) => (.ok (), c, host)
    else (.ok (), c, host)

def sendTcp (c : Client) (p : Packet) : Except NetError Client := do
  c.require .tcp
  let session ← match c.stream with
    | some s => pure s
    | none => throw .notConnected
  let frame ← encodeFrame p
  let session ← session.send frame
  pure { c with stream := some session }

/-- Send a packet as a datagram, behind the client's identity when `includeId`. -/
def sendUdp (c : Client) (p : Packet) (includeId : Bool) : Except NetError Client := do
  c.require .udp
  let session ← match c.datagram with
    | some d => pure d
    | none => throw .notConnected
  let datagram ← encodeDatagram p (if includeId then some c.id else none)
  let session ← session.send datagram
  pure { c with datagram := some session }

/-- Close both transports, telling the application once when `notify`: whether anything was open. -/
def disconnectWith (c : Client) (notify : Bool) : Bool × Client :=
  let tcp := (c.stream.map fun s => s.close.1).getD false
  let udp := (c.datagram.map fun d => d.close.1).getD false
  let c := { c with stream := none, datagram := none }
  let closed := tcp || udp
  (closed, if closed && notify then c.dispatch (.disconnected .both) else c)

def disconnect (c : Client) : Bool × Client := c.disconnectWith true

/-- Close the client for good: disconnect without telling the application and stop the queue. -/
def close (c : Client) : Client :=
  if c.closed then c
  else
    let c := ({ c with closed := true } : Client).disconnectWith false |>.2
    { c with queue := c.queue.stop }

def enqueued (c : Client) : Nat := c.queue.stats.enqueued

end Client

end FrameLink
