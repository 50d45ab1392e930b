import FrameLink.Client.Basic

/-!
Operations on a client driven one after another, each with its answer, so that a sequence of
calls can be replayed.
-/

namespace FrameLink

namespace Client

inductive Command where
  | sendTcp (p : Packet)
  | sendUdp (p : Packet) (includeId : Bool)
  | id
  | setId (id : ClientId)
  | isConnected
  | isTcpConnected
  | isUdpConnected
  | tcpState
  | localUdpAddr
  | disconnect
  | close
  | options
  | enqueued
  | connect
  | connectTcp
  | connectUdp

inductive Reply where
  | result (r : Except NetError Unit)
  | id (id : ClientId)
  | flag (b : Bool)
  | state (s : LinkState)
  | addr (a : Option SocketAddr)
  | options (o : ClientOptions)
  | count (n : Nat)
  | done

/-- The answer of an operation that may fail, and the client after it. -/
def attempt (c : Client) (r : Except NetError Client) : Client × Reply :=
  match r with
  | .ok c => (c, .result (.ok ()))
  | .error e => (c, .result (.error e))

/-- Run one operation on a host: the client and host after it, and the answer. -/
def perform (c : Client) (host : Host) : Command → Client × Host × Reply
  | .sendTcp p => let (c, r) := c.attempt (c.sendTcp p); (c, host, r)
  | .sendUdp p includeId => let (c, r) := c.attempt (c.sendUdp p includeId); (c, host, r)
  | .id => (c, host, .id c.id)
  | .setId id => ({ c with id }, host, .done)
  | .isConnected => (c, host, .flag c.isConnected)
  | .isTcpConnected => (c, host, .flag c.isTcpConnected)
  | .isUdpConnected => (c, host, .flag c.isUdpConnected)
  | .tcpState => (c, host, .state c.tcpState)
  | .localUdpAddr => (c, host, .addr c.localUdpAddr)
  | .disconnect =>
    let (was, c) := c.disconnect
    (c, host, .flag was)
  | .close => (c.close, host, .done)
  | .options => (c, host, .options c.options)
  | .enqueued => (c, host, .count c.enqueued)
  | .connect =>
    let (r, c, host) := c.connect host
    (c, host, .result r)
  | .connectTcp =>
    let (r, c) := c.connectTcp host
    (c, host, .result r)
  | .connectUdp =>
    let (r, c, host) := c.connectUdp host
    (c, host, .result r)

def performAll (c : Client) (host : Host) : List Command → List Reply
  | [] => []
  | cmd :: rest =>
    let (c, host, reply) := c.perform host cmd
    reply :: performAll c host rest

end Client

end FrameLink
