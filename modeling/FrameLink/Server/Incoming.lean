import FrameLink.Server.Send

/-!
What reaches the server from outside. A stream connection takes the lowest free identity, or is
refused with the application told that the server is full. The application then gives its
verdict on the candidate; a refusal, or a server stopped in the meantime, frees the identity,
and an accepted candidate becomes a session whose arrival the application hears of.

A datagram is handed to the application whole when datagrams carry no identity. Otherwise it
must hold at least the identity of a session, come from an endpoint the session's binding admits,
and carry a frame after the identity; anything else is dropped without a word. What a session's
stream reader reports goes to the application, and the end of the stream tears the session down.
-/

namespace FrameLink

namespace Server

variable {α : Type}

/-- The snapshot of a candidate client before its session exists. -/
def candidate (id : ClientId) (peer : SocketAddr) : ClientInfo α :=
  (ClientSession.new id peer : ClientSession α).info

/-- A stream connection from `peer` arrives: the identity it holds while the application decides,
or `none` when every identity is held. -/
def acceptConnection (s : Server α) (peer : SocketAddr) : Option ClientId × Server α :=
  match s.identities.acquire with
  | (none, _) => (none, s.dispatch .serverFull)
  | (some id, identities) =>
    (some id, ({ s with identities } : Server α).dispatch (.accept (candidate id peer)))

/-- The application's verdict on the candidate holding `id`. -/
def admitConnection (s : Server α) (id : ClientId) (peer : SocketAddr) (verdict : Bool) : Server α :=
  if !verdict || s.stopped then { s with identities := (s.identities.release id).2 }
  else
    let c : ClientSession α := ClientSession.new id peer
    let (_, stream) := c.stream.attach
    let c := { c with stream }
    (s.putSession c).dispatch (.connected c.info)

def handleDatagram (s : Server α) (source : SocketAddr) (bytes : List UInt8) : Server α :=
  if !s.options.requireClientIdInUdpData then s.dispatch (.unidentified source (Packet.ofBytes bytes))
  else if isRunt bytes then s
  else
    match (Packet.ofBytes bytes).readBytes 4 with
    | .error _ => s
    | .ok (idBytes, rest) =>
      let id := UInt32.ofNat (LittleEndian.decode idBytes)
      match s.session? id with
      | none => s
      | some c =>
        let (verdict, c) := c.checkSource source
        let s := s.putSession c
        match verdict with
        | .addressMismatch | .spoofed => s
        | .bound | .accepted =>
          if rest.unreadLength = 0 then s
          else
            match (decodeDatagramPayload rest).2 with
            | .ok payload => s.dispatch (.data id payload)
            | .error _ => s

/-- What the stream reader or writer of the session holding `id` reports. -/
def onStreamEvent (s : Server α) (id : ClientId) : StreamEvent → Server α
  | .frame payload => s.dispatch (.data id payload)
  | .closed => (s.teardown id .both true).2
  | .failed operation error => s.dispatch (.failed (s.clientInfo? id) operation error)

end Server

end FrameLink
