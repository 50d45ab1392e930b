import FrameLink.Server.Basic
import FrameLink.Host

/-!
Sending from the server. A frame goes to one client's stream, or to every client's; a datagram
goes to one client's bound endpoint, to every bound endpoint, or to any endpoint. Each checks, in
order, that the server offers the transport, that the client exists, that its datagram endpoint
is bound, that the datagram fits, and that the datagram socket is there. Datagrams wait for the
socket's sender, which reports a failed send to the application and, if the options say so,
forgets the client's endpoint.
-/

namespace FrameLink

namespace Server

variable {α : Type}

/-- Hand a datagram to the datagram socket; without one the server is not connected. -/
def queueDatagram (s : Server α) (d : OutgoingDatagram) : Except NetError (Server α) :=
  if s.udpAddr.isSome then .ok { s with outgoing := s.outgoing ++ [d] } else .error .notConnected

/-- The session holding an identity, or the error that names the identity. -/
def sessionOrFail (s : Server α) (id : ClientId) : Except NetError (ClientSession α) :=
  match s.session? id with
  | some c => .ok c
  | none => .error (.clientNotFound id)

def sendTcp (s : Server α) (id : ClientId) (p : Packet) : Except NetError (Server α) := do
  s.require .tcp
  let c ← s.sessionOrFail id
  let frame ← encodeFrame p
  let stream ← c.stream.send frame
  pure (s.putSession { c with stream })

def sendUdp (s : Server α) (id : ClientId) (p : Packet) : Except NetError (Server α) := do
  s.require .udp
  let c ← s.sessionOrFail id
  let target ← match c.binding.endpoint with
    | some e => pure e
    | none => throw .notConnected
  let datagram ← encodeDatagram p none
  s.queueDatagram ⟨datagram, target, some id⟩

def sendUdpTo (s : Server α) (target : SocketAddr) (p : Packet) : Except NetError (Server α) := do
  s.require .udp
  let datagram ← encodeDatagram p none
  s.queueDatagram ⟨datagram, target, none⟩

/-- Send a packet as a frame to every client but `except`, skipping a client whose stream is closed. -/
def sendTcpToAll (s : Server α) (p : Packet) (except : Option ClientId) : Except NetError (Server α) := do
  s.require .tcp
  let frame ← encodeFrame p
  pure (s.sessions.foldl (fun s c =>
    if some c.id = except then s
    else match c.stream.send frame with
      | .ok stream => s.putSession { c with stream }
      | .error _ => s) s)

/-- Send a packet as a datagram to the bound endpoint of every client but `except`. -/
def sendUdpToAll (s : Server α) (p : Packet) (except : Option ClientId) : Except NetError (Server α) := do
  s.require .udp
  let datagram ← encodeDatagram p none
  s.sessions.foldlM (fun s c =>
    match c.binding.endpoint with
    | some target => if some c.id = except then pure s else s.queueDatagram ⟨datagram, target, some c.id⟩
    | none => pure s) s

/-- The datagram socket's sender: each waiting datagram is sent from the bound endpoint; a failure is
reported, and ends that client's datagram side when the options ask for it. -/
def flushDatagrams (s : Server α) (host : Host) : Server α :=
  let waiting := s.outgoing
  match s.udpAddr with
  | none => { s with outgoing := [] }
  | some source =>
    waiting.foldl (fun s d =>
      match host.send source d.target with
      | .ok () => s
      | .error e =>
        let c := d.client.bind s.session?
        let s := s.dispatch (.failed (c.map ClientSession.info) .sendUdp (.io e))
        match c with
        | some c => if s.options.disconnectClientOnError then (s.teardown c.id .udp true).2 else s
        | none => s) { s with outgoing := [] }

end Server

end FrameLink
