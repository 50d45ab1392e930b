import FrameLink.Session.ClientSession
import FrameLink.IdentityPool
import FrameLink.Options
import FrameLink.Dispatch.Queue
import FrameLink.Frame.Datagram

/-!
The server: its options, the pool of client identities, the table of client sessions, the
queue that delivers events to the application, its bound endpoints and its stage. Every event
goes through the dispatch queue, so the application sees them one at a time and in order.

Tearing a session down is the one way a session leaves the table: for the datagram side only
it forgets the bound endpoint; otherwise it closes the stream, forgets the endpoint, removes the
session, tells the application if asked, and only then frees the identity, so that a client
reusing the identity is announced after the old one has left.
-/

namespace FrameLink

inductive ServerEvent (α : Type) where
  /-- A connection waits for the application's verdict. -/
  | accept (info : ClientInfo α)
  | connected (info : ClientInfo α)
  | disconnected (info : ClientInfo α) (protocol : Protocol)
  /-- A frame from a client's stream, or the payload of its datagram. -/
  | data (id : ClientId) (payload : Packet)
  /-- A datagram, whole, when datagrams carry no identity. -/
  | unidentified (source : SocketAddr) (datagram : Packet)
  | failed (info : Option (ClientInfo α)) (operation : FailedOperation) (error : NetError)
  /-- A connection was refused because every identity is held. -/
  | serverFull

/-- A datagram waiting to be sent: its bytes, where to, and the client it is for, if any. -/
structure OutgoingDatagram where
  data : List UInt8
  target : SocketAddr
  client : Option ClientId
deriving Repr

structure Server (α : Type) where
  options : ServerOptions
  identities : IdentityPool
  /-- The sessions, in ascending order of identity. -/
  sessions : List (ClientSession α)
  queue : DispatchQueue (DispatchJob (ServerEvent α))
  tcpAddr : Option SocketAddr
  udpAddr : Option SocketAddr
  /-- Datagrams handed to the datagram socket and not yet sent. -/
  outgoing : List OutgoingDatagram
  listening : Bool
  stopped : Bool

namespace Server

variable {α : Type}

/-- A server with valid options: nothing bound yet, and a dispatch queue whose first job binds the
application. -/
def new (options : ServerOptions) : Except NetError (Server α) := do
  options.validate
  let (_, queue) := DispatchQueue.start.execute .bind
  pure { options, identities := IdentityPool.new options.maxClients, sessions := [], queue,
         tcpAddr := none, udpAddr := none, outgoing := [], listening := false, stopped := false }

def dispatch (s : Server α) (e : ServerEvent α) : Server α :=
  { s with queue := (s.queue.execute (.deliver e)).2 }

def session? (s : Server α) (id : ClientId) : Option (ClientSession α) :=
  s.sessions.find? (·.id = id)

/-- Put a session in the table, in place of one with the same identity. -/
def putSession (s : Server α) (c : ClientSession α) : Server α :=
  let rec put : List (ClientSession α) → List (ClientSession α)
    | [] => [c]
    | d :: rest =>
      if d.id = c.id then c :: rest
      else if c.id < d.id then c :: d :: rest
      else d :: put rest
  { s with sessions := put s.sessions }

def removeSession (s : Server α) (id : ClientId) : Server α :=
  { s with sessions := s.sessions.filter (·.id != id) }

def require (s : Server α) (transport : Protocol) : Except NetError Unit :=
  if s.options.protocol.offers transport then .ok ()
  else .error (.invalidProtocol
    ("server is configured for " ++ s.options.protocol.display ++ ", not " ++ transport.display))

/-- Tear down the session of `id`: only its datagram binding for `udp`, the whole session
otherwise. Whether anything changed. -/
def teardown (s : Server α) (id : ClientId) (protocol : Protocol) (notify : Bool) : Bool × Server α :=
  match s.session? id with
  | none => (false, s)
  | some c =>
    if protocol = .udp then
      let (was, c) := c.clearBinding
      if !was then (false, s)
      else
        let s := s.putSession c
        (true, if notify then s.dispatch (.disconnected c.info .udp) else s)
    else
      let (first, c) := c.beginTeardown
      if !first then (false, s.putSession c)
      else
        let (_, c) := c.closeStream
        let (_, c) := c.clearBinding
        let s := s.removeSession id
        let s := if notify then s.dispatch (.disconnected c.info protocol) else s
        (true, { s with identities := (s.identities.release id).2 })

def clientCount (s : Server α) : Nat := s.sessions.length

def clientIds (s : Server α) : List ClientId := s.sessions.map (·.id)

def clientInfo? (s : Server α) (id : ClientId) : Option (ClientInfo α) :=
  (s.session? id).map ClientSession.info

/-- Attach application data to a session: whether one holds the identity. -/
def setClientData (s : Server α) (id : ClientId) (value : α) : Bool × Server α :=
  match s.session? id with
  | some c => (true, s.putSession { c with data := some value })
  | none => (false, s)

/-- End a client's session, or only its datagram side for `udp`, telling the application; whether
anything changed. -/
def disconnectClient (s : Server α) (id : ClientId) (protocol : Protocol) : Bool × Server α :=
  s.teardown id protocol true

def enqueued (s : Server α) : Nat := s.queue.stats.enqueued

end Server

end FrameLink
