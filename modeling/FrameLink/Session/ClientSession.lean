import FrameLink.Session.Stream
import FrameLink.Session.Binding

/-!
The server's session of one client: its identity, its stream session, the binding of its
datagram endpoint, data the application attached, and whether its teardown has begun. A
snapshot of it (`ClientInfo`) is what the application sees.
-/

namespace FrameLink

/-- What the application sees of a client, at one moment. -/
structure ClientInfo (α : Type) where
  id : ClientId
  tcpEndpoint : SocketAddr
  udpEndpoint : Option SocketAddr
  hasActiveTcp : Bool
  hasActiveUdp : Bool
  data : Option α
deriving Repr

/-- The server's session of one client, with application data of type `α`. -/
structure ClientSession (α : Type) where
  id : ClientId
  stream : StreamSession
  binding : DatagramBinding
  data : Option α
  tornDown : Bool
deriving Repr

namespace ClientSession

variable {α : Type}

def new (id : ClientId) (peer : SocketAddr) : ClientSession α :=
  ⟨id, StreamSession.new peer, DatagramBinding.empty, none, false⟩

/-- The snapshot of a session: the stream counts as active until it is disconnected, the datagram
side while an endpoint is bound. -/
def info (c : ClientSession α) : ClientInfo α :=
  { id := c.id
    tcpEndpoint := c.stream.peer
    udpEndpoint := c.binding.endpoint
    hasActiveTcp := c.stream.state != .disconnected
    hasActiveUdp := c.binding.endpoint.isSome
    data := c.data }

def beginTeardown (c : ClientSession α) : Bool × ClientSession α :=
  if c.tornDown then (false, c) else (true, { c with tornDown := true })

def checkSource (c : ClientSession α) (source : SocketAddr) : Admission × ClientSession α :=
  let (a, b) := c.binding.checkSource source c.stream.peer
  (a, { c with binding := b })

def clearBinding (c : ClientSession α) : Bool × ClientSession α :=
  let (was, b) := c.binding.clear
  (was, { c with binding := b })

def closeStream (c : ClientSession α) : Bool × ClientSession α :=
  let (closed, s) := c.stream.close
  (closed, { c with stream := s })

inductive Command (α : Type) where
  | checkSource (source : SocketAddr)
  | clearBinding
  | beginTeardown
  | streamState
  | streamIsConnected
  | closeStream
  | send (data : List UInt8)
  | setData (value : α)
  | info

inductive Reply (α : Type) where
  | admission (a : Admission)
  | flag (b : Bool)
  | state (s : LinkState)
  | sent (result : Except NetError Unit)
  | done
  | info (i : ClientInfo α)

def perform (c : ClientSession α) : Command α → ClientSession α × Reply α
  | .checkSource source =>
    let (a, next) := c.checkSource source
    (next, .admission a)
  | .clearBinding =>
    let (was, next) := c.clearBinding
    (next, .flag was)
  | .beginTeardown =>
    let (first, next) := c.beginTeardown
    (next, .flag first)
  | .streamState => (c, .state c.stream.state)
  | .streamIsConnected => (c, .flag c.stream.isConnected)
  | .closeStream =>
    let (closed, next) := c.closeStream
    (next, .flag closed)
  | .send data =>
    match c.stream.send data with
    | .ok s => ({ c with stream := s }, .sent (.ok ()))
    | .error e => (c, .sent (.error e))
  | .setData value => ({ c with data := some value }, .done)
  | .info => (c, .info c.info)

def performAll (c : ClientSession α) : List (Command α) → List (ClientSession α × Reply α)
  | [] => []
  | cmd :: rest =>
    let (next, reply) := c.perform cmd
    (next, reply) :: performAll next rest

end ClientSession

end FrameLink
