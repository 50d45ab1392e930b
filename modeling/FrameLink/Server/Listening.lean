import FrameLink.Server.Concurrent
import FrameLink.Host

/-!
Listening as steps among the server's tasks. A call of `listen` reads the stopped flag, claims the
listening flag with a swap, binds the stream endpoint (recording its address and spawning the
accept loop on it), then binds the datagram endpoint on the port the stream endpoint got. If a
bind fails, the call lets go of what it bound: it aborts the tasks it spawned, which drops the
stream endpoint and frees its port, forgets the datagram endpoint and the stream address, clears
the listening flag, and returns the error.

Between these steps the other tasks of the server step as in the concurrent model. The accept loop
steps only while it runs, from the call's stream bind to an abort; a connection it takes starts an
admission, a task of its own that no abort reaches. Stopping the server lets go of the endpoints
and aborts the accept loop in the step that collects the sessions.

The datagram loops are spawned only once the datagram endpoint is bound, the call's last step, so
they are recorded by that endpoint alone.
-/

namespace FrameLink

namespace Concurrent

inductive ListenStage where
  /-- Not started: the stopped flag is read and the listening flag swapped next. -/
  | start
  /-- The flag is claimed: the stream endpoint is bound next, if the options use it. -/
  | bindStream
  /-- The datagram endpoint is bound next, if the options use it, on `port`; `before` is the host
  before the call bound anything. -/
  | bindDatagram (port : UInt16) (before : Host)
  /-- A bind failed with `error`: what the call bound is let go next. -/
  | rollback (error : IoError) (before : Host)
  | done (result : Except NetError Unit)

/-- Whether the accept loop takes the step. -/
def Action.byAcceptLoop : Action → Bool
  | .accept _ _ | .refuse => true
  | _ => false

/-- Whether `a` is the step of a shutdown that collects the sessions, in which stopping lets go of
the endpoints. -/
def State.collects {α : Type} (s : State α) : Action → Bool
  | .collect i =>
    match s.tasks[i]? with
    | some (.shutdown false) => true
    | _ => false
  | _ => false

/-- The server's shared state with its endpoints: the listening flag, the addresses on record,
whether the accept loop runs, the host, and one call of `listen`. -/
structure Listener (α : Type) where
  server : State α
  listening : Bool
  tcpAddr : Option SocketAddr
  udpAddr : Option SocketAddr
  /-- Whether the accept loop runs: spawned by the call and not aborted since. -/
  accepting : Bool
  host : Host
  call : ListenStage

inductive ListenAction where
  | call
  | task (a : Action)

namespace Listener

variable {α : Type}

/-- A server that has not listened yet, on `host`, about to call `listen`. -/
def init (server : State α) (host : Host) : Listener α :=
  ⟨server, false, none, none, false, host, .start⟩

def callStep (l : Listener α) : Listener α :=
  let o := l.server.options
  match l.call with
  | .start =>
    if l.server.stopped then { l with call := .done (.error (.invalidState "server has been stopped")) }
    else if l.listening then
      { l with call := .done (.error (.invalidState "server is already listening")) }
    else { l with listening := true, call := .bindStream }
  | .bindStream =>
    if o.protocol.usesTcp then
      match l.host.bind .stream o.address o.port with
      | .ok (a, host) =>
        { l with tcpAddr := some a, accepting := true, host, call := .bindDatagram a.port l.host }
      | .error e => { l with call := .rollback e l.host }
    else { l with call := .bindDatagram o.port l.host }
  | .bindDatagram port before =>
    if o.protocol.usesUdp then
      match l.host.bind .datagram o.address port with
      | .ok (a, host) => { l with udpAddr := some a, host, call := .done (.ok ()) }
      | .error e => { l with call := .rollback e before }
    else { l with call := .done (.ok ()) }
  | .rollback e before =>
    { l with accepting := false, udpAddr := none, tcpAddr := none, listening := false,
             host := before, call := .done (.error (.io e)) }
  | .done _ => l

/-- A step of the server's tasks. The accept loop steps only while it runs; collecting the sessions
on stopping also lets go of the endpoints and aborts the accept loop. -/
def taskStep (l : Listener α) (a : Action) : Listener α :=
  if a.byAcceptLoop && !l.accepting then l
  else if l.server.collects a then
    { l with server := l.server.step a, listening := false, accepting := false, udpAddr := none }
  else { l with server := l.server.step a }

def step (l : Listener α) : ListenAction → Listener α
  | .call => l.callStep
  | .task a => l.taskStep a

def run (l : Listener α) (actions : List ListenAction) : Listener α := actions.foldl step l

/-- The same server about to call `listen` again, on `host`. -/
def relisten (l : Listener α) (host : Host) : Listener α := { l with host, call := .start }

end Listener

/-- The steps of the server's tasks among the steps of a run. -/
def ListenAction.tasks : List ListenAction → List Action
  | [] => []
  | .call :: rest => tasks rest
  | .task a :: rest => a :: tasks rest

end Concurrent

end FrameLink
