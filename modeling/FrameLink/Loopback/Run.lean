import FrameLink.Loopback.Basic

/-!
Running a loopback rig. Time passes only while the rig waits: at each wait the server's datagram
sender sends what waits, the dispatch queues of the server and of every client run dry, and what
they deliver joins the records the rig has not yet taken. So a server stopped before the next
wait drops the datagrams and events it holds, and so does a closed client. A wait takes records
in the order they were delivered, and ends with a timeout when fewer came than it waits for.

The rig runs on a `Host`, so what the network refuses is the host's to say. The rig keeps no
session for a plain stream socket, since none connects on a host that is isolated.
-/

namespace FrameLink.Loopback

def ClientRecord.ofEvent : ClientEvent → ClientRecord
  | .connected p => .connected p
  | .disconnected p => .disconnected p
  | .data payload => .data payload.bytes
  | .failed op e => .failed op e

def deliverClient : DispatchJob ClientEvent → List ClientRecord → List ClientRecord × JobEffect
  | .bind, records => (records, {})
  | .deliver e, records => (records ++ [ClientRecord.ofEvent e], {})

/-- Run a client's queue dry. -/
def Member.settle (m : Member) : Member :=
  let (queue, records) := DispatchQueue.drain deliverClient m.client.queue m.records
  ⟨{ m.client with queue }, records⟩

/-- What the server's queue hands over while it runs: the records, the verdicts still to give, and
the connections given one, admitted or refused once the queue is dry. -/
structure Delivery where
  records : List ServerRecord
  admission : List Bool
  verdicts : List (ClientId × SocketAddr × Bool)

namespace Rig

def serverRecord (rig : Rig) : ServerEvent String → ServerRecord
  | .accept info => .accept true (rig.infoRecord info)
  | .connected info => .connected (rig.infoRecord info)
  | .disconnected info p => .disconnected p (rig.infoRecord info)
  | .data id payload => .data id payload.bytes
  | .unidentified source datagram => .unidentified (rig.peerOf source) datagram.bytes
  | .failed info op e => .failed (info.map (·.id)) op e
  | .serverFull => .serverFull

/-- Deliver one job of the server's queue; a connection waiting for a verdict takes the next one of
the rig, `true` once they are spent. -/
def deliverServer (rig : Rig) :
    DispatchJob (ServerEvent String) → Delivery → Delivery × JobEffect
  | .bind, d => (d, {})
  | .deliver (.accept info), d =>
    let verdict := d.admission.headD true
    ({ records := d.records ++ [.accept verdict (rig.infoRecord info)],
       admission := d.admission.tail,
       verdicts := d.verdicts ++ [(info.id, info.tcpEndpoint, verdict)] }, {})
  | .deliver e, d => ({ d with records := d.records ++ [rig.serverRecord e] }, {})

/-- Run the server's queue dry, then give the verdicts it collected, for `rounds` rounds. -/
def settleServer (rig : Rig) : Nat → Rig
  | 0 => rig
  | rounds + 1 =>
    let (queue, d) :=
      DispatchQueue.drain rig.deliverServer rig.server.queue ⟨rig.records, rig.admission, []⟩
    let server := d.verdicts.foldl (fun s (id, peer, verdict) => s.admitConnection id peer verdict)
      { rig.server with queue }
    settleServer { rig with server, records := d.records, admission := d.admission } rounds

/-- Let time pass: the server's datagram sender sends what waits, and every queue runs dry. Two
rounds leave the server's queue empty: a verdict delivers at most a connected event. -/
def settle (rig : Rig) : Rig :=
  let rig := { rig with server := rig.server.flushDatagrams rig.host }
  let rig := rig.settleServer 2
  { rig with members := rig.members.map fun (c, m) => (c, m.settle) }

def memberOrFail (rig : Rig) (c : Nat) : Except Fault Member :=
  match rig.member? c with
  | some m => .ok m
  | none => .error (.unknownClient c)

/-- The options a new client starts from: the server's address and its stream port (its datagram
port when it offers no stream), and a refresh every millisecond. -/
def clientBase (rig : Rig) : ClientOptions :=
  let bound := rig.server.tcpAddr.orElse fun _ => rig.server.udpAddr
  { address := (bound.map SocketAddr.ip).getD rig.server.options.address,
    port := (bound.map SocketAddr.port).getD 0,
    refreshInterval := 1000000 }

/-- The address a plain datagram socket binds when the step names none: the loopback address of the
server's family. -/
def rawDefault (rig : Rig) : IpAddr :=
  match rig.server.options.address with
  | .v4 _ => .v4 Ipv4.loopback
  | .v6 _ => .v6 Ipv6.loopback

def clientReply : Client.Reply → Reply
  | .result r => .result r
  | .flag b => .flag b
  | .count n => .count n
  | _ => .done

def onClient (rig : Rig) (c : Nat) (cmd : Client.Command) : Except Fault (Rig × Reply) := do
  let m ← rig.memberOrFail c
  let (client, host, reply) := m.client.perform rig.host cmd
  pure ({ rig.putMember c { m with client } with host }, clientReply reply)

def serverReply (rig : Rig) : Server.Reply String → Reply
  | .result r => .result r
  | .flag b => .flag b
  | .info i => .info (i.map rig.infoRecord)
  | .count n => .count n
  | .ids ids => .ids ids
  | _ => .done

def onServer (rig : Rig) (cmd : Server.Command String) : Rig × Reply :=
  let (server, host, reply) := rig.server.perform rig.host cmd
  ({ rig with server, host }, rig.serverReply reply)

/-- The first `count` records, ended by a timeout when fewer are there. -/
def takeRecords {β : Type} (records : List β) (count : Nat) (timeout : β) : List β :=
  records.take count ++ (if records.length < count then [timeout] else [])

def step (rig : Rig) : Step → Except Fault (Rig × Reply)
  | .clientNew c adjust =>
    match Client.new (adjust rig.clientBase) with
    | .ok client => .ok (rig.putMember c ⟨client, []⟩, .done)
    | .error e => .ok (rig, .refused e)
  | .connect c => rig.onClient c .connect
  | .connectTcp c => rig.onClient c .connectTcp
  | .connectUdp c => rig.onClient c .connectUdp
  | .sendTcp c p => rig.onClient c (.sendTcp p)
  | .sendUdp c p includeId => rig.onClient c (.sendUdp p includeId)
  | .setId c id => rig.onClient c (.setId id)
  | .disconnect c => rig.onClient c .disconnect
  | .close c => rig.onClient c .close
  | .clientState c => do
    let m ← rig.memberOrFail c
    let k := m.client
    pure (rig, .clientState k.tcpState k.isTcpConnected k.isUdpConnected k.isConnected k.id)
  | .waitServer count =>
    let rig := rig.settle
    .ok ({ rig with records := rig.records.drop count },
      .serverEvents (takeRecords rig.records count .timeout))
  | .waitClient c count => do
    let rig := rig.settle
    let m ← rig.memberOrFail c
    pure (rig.putMember c { m with records := m.records.drop count },
      .clientEvents (takeRecords m.records count .timeout))
  | .quiet =>
    let rig := rig.settle
    .ok ({ rig with records := [], members := rig.members.map fun (c, m) => (c, { m with records := [] }) },
      .quiet rig.records (rig.members.map fun (c, m) => (c, m.records)))
  | .serverSendTcp id p => .ok (rig.onServer (.sendTcp id p))
  | .serverSendUdp id p => .ok (rig.onServer (.sendUdp id p))
  | .serverSendUdpTo target p => do
    let addr ← rig.endpointOf target
    pure (rig.onServer (.sendUdpTo addr p))
  | .serverSendTcpToAll p except => .ok (rig.onServer (.sendTcpToAll p except))
  | .serverSendUdpToAll p except => .ok (rig.onServer (.sendUdpToAll p except))
  | .serverDisconnect id protocol => .ok (rig.onServer (.disconnectClient id protocol))
  | .serverInfo id => .ok (rig.onServer (.clientInfo id))
  | .serverSetData id text => .ok (rig.onServer (.setClientData id text))
  | .serverIds => .ok (rig.onServer .clientIds)
  | .serverCount => .ok (rig.onServer .clientCount)
  | .serverStop => .ok (rig.onServer .stop)
  | .rawTcp _ =>
    match rig.server.tcpAddr with
    | none => .error (.serverLacks .stream)
    | some _ => .error .rawConnect
  | .rawTcpSend r _ | .rawTcpRead r _ | .rawTcpEof r | .rawTcpClose r =>
    .error (.unknownRaw .stream r)
  | .rawUdp u ip =>
    match rig.host.bind .datagram (ip.getD rig.rawDefault) 0 with
    | .ok (addr, host) =>
      .ok ({ rig with host, rawUdp := (rig.rawUdp.filter (·.1 ≠ u)) ++ [(u, addr)] }, .done)
    | .error _ => .error .rawBind
  | .rawUdpSend u _ =>
    match rig.rawUdp.find? (·.1 = u), rig.server.udpAddr with
    | none, _ => .error (.unknownRaw .datagram u)
    | some _, none => .error (.serverLacks .datagram)
    | some (_, source), some target =>
      match rig.host.send source target with
      | .ok () => .ok (rig, .flag true)
      | .error _ => .ok (rig, .flag false)
  | .rawUdpRecv u =>
    match rig.rawUdp.find? (·.1 = u) with
    | none => .error (.unknownRaw .datagram u)
    | some _ => .ok (rig, .received none)

def steps (rig : Rig) : List Step → Except Fault (List Reply)
  | [] => .ok []
  | s :: rest => do
    let (rig, reply) ← rig.step s
    let replies ← rig.steps rest
    pure (reply :: replies)

end Rig

inductive Outcome where
  /-- The server could not be made or could not listen. -/
  | refused (e : NetError)
  | fault (f : Fault)
  | answers (replies : List Reply)

/-- Run a rig on `host`: a server with `options` on port `0`, listening before the first step, and
the verdicts `admission` for the connections it is asked about. -/
def run (host : Host) (options : ServerOptions) (admission : List Bool) (script : List Step) :
    Outcome :=
  match (Server.new { options with port := 0 } : Except NetError (Server String)) with
  | .error e => .refused e
  | .ok server =>
    match server.listen host with
    | (.error e, _, _) => .refused e
    | (.ok (), server, host) =>
      let endpoint := server.udpAddr.orElse fun _ => server.tcpAddr
      let rig : Rig := ⟨host, server, endpoint, [], admission, [], []⟩
      match rig.steps script with
      | .ok replies => .answers replies
      | .error f => .fault f

end FrameLink.Loopback
