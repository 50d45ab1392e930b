import FrameLink.Server.Command
import FrameLink.Client.Command
import FrameLink.Address.Text

/-!
A loopback rig: one listening server on a host, named clients of it, and plain datagram and
stream sockets that talk to it directly. The rig records what the server's application and each
client's application are told, in the order they are told it, and answers questions about the
parts. Endpoints are named by the socket they belong to, so that no port shows in an answer.
-/

namespace FrameLink.Loopback

inductive Peer where
  /-- The datagram socket of client `c`. -/
  | client (c : Nat)
  /-- The plain datagram socket `u`. -/
  | rawUdp (u : Nat)
  | server
  /-- An endpoint of no socket of the rig, by its address. -/
  | other (ip : IpAddr)
deriving DecidableEq, Repr

def Peer.name : Peer → String
  | .client c => "client:" ++ toString c
  | .rawUdp u => "raw_udp:" ++ toString u
  | .server => "server"
  | .other ip => "other:" ++ ip.toText

/-- What the rig shows of a client snapshot: endpoints as sockets, text data only. -/
structure InfoRecord where
  id : ClientId
  tcpIp : IpAddr
  udpEndpoint : Option Peer
  hasActiveTcp : Bool
  hasActiveUdp : Bool
  data : Option String

inductive ServerRecord where
  | accept (accepted : Bool) (info : InfoRecord)
  | connected (info : InfoRecord)
  | disconnected (protocol : Protocol) (info : InfoRecord)
  | data (id : ClientId) (bytes : List UInt8)
  | unidentified (source : Peer) (bytes : List UInt8)
  | failed (id : Option ClientId) (operation : FailedOperation) (error : NetError)
  | serverFull
  /-- Nothing more came within the time the rig waits. -/
  | timeout

inductive ClientRecord where
  | connected (protocol : Protocol)
  | disconnected (protocol : Protocol)
  | data (bytes : List UInt8)
  | failed (operation : FailedOperation) (error : NetError)
  /-- Nothing more came within the time the rig waits. -/
  | timeout

/-- One step of a rig. Clients are named by numbers `c`, plain sockets by `r` (stream) and `u`
(datagram). -/
inductive Step where
  | clientNew (c : Nat) (adjust : ClientOptions → ClientOptions)
  | connect (c : Nat)
  | connectTcp (c : Nat)
  | connectUdp (c : Nat)
  | sendTcp (c : Nat) (p : Packet)
  | sendUdp (c : Nat) (p : Packet) (includeId : Bool)
  | setId (c : Nat) (id : ClientId)
  | disconnect (c : Nat)
  | close (c : Nat)
  | clientState (c : Nat)
  | waitServer (count : Nat)
  | waitClient (c : Nat) (count : Nat)
  | quiet
  | serverSendTcp (id : ClientId) (p : Packet)
  | serverSendUdp (id : ClientId) (p : Packet)
  | serverSendUdpTo (target : String) (p : Packet)
  | serverSendTcpToAll (p : Packet) (except : Option ClientId)
  | serverSendUdpToAll (p : Packet) (except : Option ClientId)
  | serverDisconnect (id : ClientId) (protocol : Protocol)
  | serverInfo (id : ClientId)
  | serverSetData (id : ClientId) (text : String)
  | serverIds
  | serverCount
  | serverStop
  | rawTcp (r : Nat)
  | rawTcpSend (r : Nat) (data : List UInt8)
  | rawTcpRead (r : Nat) (count : Nat)
  | rawTcpEof (r : Nat)
  | rawTcpClose (r : Nat)
  | rawUdp (u : Nat) (ip : Option IpAddr)
  | rawUdpSend (u : Nat) (data : List UInt8)
  | rawUdpRecv (u : Nat)

inductive Reply where
  | done
  | result (r : Except NetError Unit)
  | refused (e : NetError)
  | flag (b : Bool)
  | serverEvents (records : List ServerRecord)
  | clientEvents (records : List ClientRecord)
  | clientState (state : LinkState) (tcp udp connected : Bool) (id : ClientId)
  | quiet (server : List ServerRecord) (clients : List (Nat × List ClientRecord))
  | info (i : Option InfoRecord)
  | ids (ids : List ClientId)
  | count (n : Nat)
  /-- What a plain datagram socket received, if anything, and whether it came from the server. -/
  | received (datagram : Option (List UInt8 × Bool))

inductive Fault where
  /-- A plain stream socket could not connect to the server. -/
  | rawConnect
  /-- A plain datagram socket could not be bound. -/
  | rawBind
  /-- The server has no endpoint of the kind a plain socket needs. -/
  | serverLacks (kind : SocketKind)
  | unknownEndpoint (name : String)
  | unknownClient (c : Nat)
  /-- A plain socket of a kind, by number, that the rig does not have. -/
  | unknownRaw (kind : SocketKind) (n : Nat)

def transportWord : SocketKind → String
  | .stream => "tcp"
  | .datagram => "udp"

def Fault.message : Fault → String
  | .rawConnect => "raw connect"
  | .rawBind => "raw udp bind"
  | .serverLacks kind => "server has no " ++ transportWord kind
  | .unknownEndpoint name => "unknown endpoint " ++ name
  | .unknownClient c => "unknown client " ++ toString c
  | .unknownRaw kind _ => "no raw " ++ transportWord kind

/-- A client of the rig and what its application was told and the rig has not yet taken. -/
structure Member where
  client : Client
  records : List ClientRecord

/-- The rig: the host, the server and its endpoint once listening, what its application was told,
the verdicts still to give, the clients, and the plain sockets. -/
structure Rig where
  host : Host
  server : Server String
  serverEndpoint : Option SocketAddr
  records : List ServerRecord
  admission : List Bool
  members : List (Nat × Member)
  rawUdp : List (Nat × SocketAddr)

/-- The server options a rig starts from: the loopback address and a refresh every millisecond. -/
def serverBase : ServerOptions := { address := .v4 Ipv4.loopback, refreshInterval := 1000000 }

namespace Rig

def member? (rig : Rig) (c : Nat) : Option Member := (rig.members.find? (·.1 = c)).map (·.2)

def putMember (rig : Rig) (c : Nat) (m : Member) : Rig :=
  if rig.members.any (·.1 = c) then
    { rig with members := rig.members.map fun (d, old) => if d = c then (d, m) else (d, old) }
  else { rig with members := rig.members ++ [(c, m)] }

def peerOf (rig : Rig) (addr : SocketAddr) : Peer :=
  match rig.members.find? (fun (_, m) => m.client.localUdpAddr = some addr) with
  | some (c, _) => .client c
  | none =>
    match rig.rawUdp.find? (·.2 = addr) with
    | some (u, _) => .rawUdp u
    | none =>
      if rig.serverEndpoint = some addr ∨ rig.server.udpAddr = some addr ∨ rig.server.tcpAddr = some addr then
        .server
      else .other addr.ip

def endpointOf (rig : Rig) (name : String) : Except Fault SocketAddr :=
  let found : Option SocketAddr :=
    if name = "server" then rig.serverEndpoint
    else match name.splitOn ":" with
      | ["client", n] => n.toNat?.bind fun c => (rig.member? c).bind (·.client.localUdpAddr)
      | ["raw_udp", n] => n.toNat?.bind fun u => (rig.rawUdp.find? (·.1 = u)).map (·.2)
      | _ => none
  match found with
  | some a => .ok a
  | none => .error (.unknownEndpoint name)

def infoRecord (rig : Rig) (i : ClientInfo String) : InfoRecord :=
  ⟨i.id, i.tcpEndpoint.ip, i.udpEndpoint.map rig.peerOf, i.hasActiveTcp, i.hasActiveUdp, i.data⟩

end Rig

end FrameLink.Loopback
