import FrameLink.Server.Lifecycle
import FrameLink.Server.Incoming

/-!
Operations on a server driven one after another, each with its answer, so that a sequence of
calls can be replayed. The calls follow each other with no time between them: datagrams handed
to the datagram socket wait for its sender, and the events the server dispatches wait in its
queue.
-/

namespace FrameLink

namespace Server

variable {α : Type}

inductive Command (α : Type) where
  | sendTcp (id : ClientId) (p : Packet)
  | sendUdp (id : ClientId) (p : Packet)
  | sendUdpTo (target : SocketAddr) (p : Packet)
  | sendTcpToAll (p : Packet) (except : Option ClientId)
  | sendUdpToAll (p : Packet) (except : Option ClientId)
  | disconnectClient (id : ClientId) (protocol : Protocol)
  | clientInfo (id : ClientId)
  | setClientData (id : ClientId) (value : α)
  | clientCount
  | clientIds
  | isListening
  | options
  | enqueued
  | listen
  | localAddrs
  | stop

inductive Reply (α : Type) where
  | result (r : Except NetError Unit)
  | flag (b : Bool)
  | info (i : Option (ClientInfo α))
  | count (n : Nat)
  | ids (ids : List ClientId)
  | options (o : ServerOptions)
  /-- The bound stream and datagram endpoints. -/
  | addrs (tcp udp : Option SocketAddr)
  | done

/-- The answer of an operation that may fail, and the server after it. -/
def attempt (s : Server α) (r : Except NetError (Server α)) : Server α × Reply α :=
  match r with
  | .ok s => (s, .result (.ok ()))
  | .error e => (s, .result (.error e))

def perform (s : Server α) (host : Host) : Command α → Server α × Host × Reply α
  | .sendTcp id p => let (s, r) := s.attempt (s.sendTcp id p); (s, host, r)
  | .sendUdp id p => let (s, r) := s.attempt (s.sendUdp id p); (s, host, r)
  | .sendUdpTo target p => let (s, r) := s.attempt (s.sendUdpTo target p); (s, host, r)
  | .sendTcpToAll p except => let (s, r) := s.attempt (s.sendTcpToAll p except); (s, host, r)
  | .sendUdpToAll p except => let (s, r) := s.attempt (s.sendUdpToAll p except); (s, host, r)
  | .disconnectClient id protocol =>
    let (changed, s) := s.disconnectClient id protocol
    (s, host, .flag changed)
  | .clientInfo id => (s, host, .info (s.clientInfo? id))
  | .setClientData id value =>
    let (found, s) := s.setClientData id value
    (s, host, .flag found)
  | .clientCount => (s, host, .count s.clientCount)
  | .clientIds => (s, host, .ids s.clientIds)
  | .isListening => (s, host, .flag s.listening)
  | .options => (s, host, .options s.options)
  | .enqueued => (s, host, .count s.enqueued)
  | .listen =>
    let (r, s, host) := s.listen host
    (s, host, .result r)
  | .localAddrs => (s, host, .addrs s.tcpAddr s.udpAddr)
  | .stop => (s.stop, host, .done)

def performAll (s : Server α) (host : Host) : List (Command α) → List (Reply α)
  | [] => []
  | c :: rest =>
    let (s, host, reply) := s.perform host c
    reply :: performAll s host rest

end Server

end FrameLink
