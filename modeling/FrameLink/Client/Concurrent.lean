import FrameLink.Session.Lifecycle
import FrameLink.Client.Basic

/-!
The client as tasks that run at the same time through clones of one client. The sequential
client applies each call whole; here a call is cut into the steps it takes on the shared state,
each one atomic: a load or a swap of the closed flag, a section under the lock of the stream slot
or of the datagram slot, a dispatch, or a step of a call on one of the sessions. The awaited socket
connects end by themselves, with success or an error.

The shared state is the closed flag, the two slots, the stream sessions and datagram sessions
made so far (a slot holds the number of the session in it), every call made and the trace of the
dispatches, each with the call that made it. A stream session runs the attach and the closes the
client makes on it as in `Lifecycle`. A datagram session is made with its receive and send tasks
and their abort handles, taken as one step; a close swaps its open flag to `false`, and the close
that found it open aborts them.

`connect_tcp` reads the closed flag, reads the slot and refuses when the session in it is
connected, awaits the socket, stores a new session in the slot, tells the application and attaches
the session. `connect_udp` likewise, except that the session is made, its tasks running, before it
is stored. `connect` runs the connects its protocol selects and closes the stream again through
`close_tcp` when the datagram connect fails. `disconnect` takes the stream slot, then the datagram
slot, closes what it took and tells the application `Both` when it was asked to and one of its
closes found its session open; `close` sets the closed flag and runs it untold. When the tasks of a
stream session see it end, `drop_tcp` runs `disconnect` if the session is the one in the slot and
closes it otherwise; when a datagram task fails, `drop_udp` takes the session out of the slot if
it is the one there and closes it, telling the application `Udp` only then.
-/

namespace FrameLink

namespace ClientTasks

inductive DatagramClose where
  | swap
  /-- The session was open: the registered tasks are aborted next. -/
  | abort
  /-- Returned, with whether this call closed the session. -/
  | returned (closed : Bool)
deriving DecidableEq, Repr

/-- A datagram session: whether it is open, whether its tasks were aborted, and the closes made on
it. -/
structure Datagram where
  isOpen : Bool
  aborted : Bool
  closes : List DatagramClose
deriving DecidableEq, Repr

namespace Datagram

/-- A session just made: open, with its tasks running. -/
def opened : Datagram := ⟨true, false, []⟩

inductive Action where
  | close
  /-- Close call `j` takes its next step. -/
  | call (j : Nat)
deriving DecidableEq, Repr

def step (d : Datagram) : Action → Datagram
  | .close => { d with closes := d.closes ++ [.swap] }
  | .call j =>
    match d.closes[j]? with
    | some .swap =>
      if d.isOpen then { d with isOpen := false, closes := d.closes.set j .abort }
      else { d with closes := d.closes.set j (.returned false) }
    | some .abort => { d with aborted := true, closes := d.closes.set j (.returned true) }
    | _ => d

/-- What close call `j` answered, once it has returned. -/
def answer (d : Datagram) (j : Nat) : Option Bool :=
  match d.closes[j]? with
  | some (.returned closed) => some closed
  | _ => none

end Datagram

/-- How far `disconnect` has got; a close it made is kept as the numbers of the session and the call. -/
inductive Disconnect where
  | takeTcp
  | takeUdp (tcp : Option Nat)
  /-- Waiting for its close of the stream session. -/
  | closeTcp (tcp : Nat × Nat) (udp : Option Nat)
  /-- Waiting for its close of the datagram session; `closed` is what the stream close answered. -/
  | closeUdp (tcp : Option (Nat × Nat)) (udp : Nat × Nat) (closed : Bool)
  /-- The application is told next, if asked and `closed`. -/
  | notify (tcp udp : Option (Nat × Nat)) (closed : Bool)
  | returned (tcp udp : Option (Nat × Nat)) (closed : Bool)
deriving DecidableEq, Repr

inductive TcpConnect where
  | ensureOpen
  | check
  /-- Waiting for the socket connect; once it succeeds a new session is stored in the slot. -/
  | await
  /-- The application is told next that stream session `stream` is connected. -/
  | announce (stream : Nat)
  /-- Waiting for its attach call on the stream session. -/
  | attach (stream call : Nat)
  | returned (result : Except NetError Unit)
deriving Repr

inductive UdpConnect where
  | ensureOpen
  | check
  /-- Waiting for the socket; once it is associated a new session is made, its tasks running. -/
  | await
  /-- Datagram session `datagram` is stored in the slot next. -/
  | store (datagram : Nat)
  | announce
  | returned (result : Except NetError Unit)
deriving Repr

inductive CloseTcp where
  | take
  | close (tcp : Nat × Nat)
  /-- Returned: its close, if it took a session, and what the close answered. -/
  | returned (tcp : Option (Nat × Nat)) (closed : Bool)
deriving DecidableEq, Repr

inductive DropTcp where
  /-- Whether the session is the one in the slot is read next. -/
  | check
  /-- It was not: waiting for its close call on the session. -/
  | close (call : Nat)
  | returned
deriving DecidableEq, Repr

inductive DropUdp where
  | take
  /-- Waiting for its close call; `current` is whether it took the session out of the slot. -/
  | close (current : Bool) (call : Nat)
  | returned (current : Bool) (call : Nat) (closed : Bool)
deriving DecidableEq, Repr

/-- How far a `close` has got before it runs `disconnect`. -/
inductive Close where
  | swap
  /-- Returned at once: the client was closed already. -/
  | returned
deriving DecidableEq, Repr

/-- A call on the client. A call that goes on with another routine runs as that routine from then
on: `connect` as the connects and `close_tcp`, `close` and a current `drop_tcp` as `disconnect`. -/
inductive Caller where
  /-- `connect_tcp`; with `thenUdp`, made by a `connect` that runs `connect_udp` next. -/
  | connectTcp (thenUdp : Bool) (stage : TcpConnect)
  /-- `connect_udp`; with `closeTcp`, made by a `connect` that closes the stream if it fails. -/
  | connectUdp (closeTcp : Bool) (stage : UdpConnect)
  /-- The `close_tcp` of a `connect` whose datagram connect failed with `error`. -/
  | closeTcp (error : NetError) (stage : CloseTcp)
  /-- `disconnect`, telling the application if `notify`. -/
  | disconnect (notify : Bool) (stage : Disconnect)
  | close (stage : Close)
  /-- The tasks of stream session `stream` saw it end. -/
  | dropTcp (stream : Nat) (stage : DropTcp)
  /-- A task of datagram session `datagram` failed. -/
  | dropUdp (datagram : Nat) (stage : DropUdp)
deriving Repr

structure State where
  protocol : Protocol
  closed : Bool
  /-- The stream slot: the number of the session it holds. -/
  tcp : Option Nat
  udp : Option Nat
  streams : List Lifecycle.State
  datagrams : List Datagram
  calls : List Caller
  /-- Every dispatch, in order, with the number of the call that made it. -/
  trace : List (Nat × ClientEvent)

inductive Action where
  | connect
  | connectTcp
  | connectUdp
  | disconnect
  | close
  /-- The tasks of stream session `stream` saw it end. -/
  | dropTcp (stream : Nat)
  /-- A task of datagram session `datagram` failed. -/
  | dropUdp (datagram : Nat)
  /-- Call `i` takes its next step; a socket connect it awaits succeeds. -/
  | call (i : Nat)
  /-- Call `i` takes its next step; a socket connect it awaits fails with `error`. -/
  | fail (i : Nat) (error : IoError)
deriving DecidableEq, Repr

namespace State

def init (protocol : Protocol) : State :=
  ⟨protocol, false, none, none, [], [], [], []⟩

def require (s : State) (transport : Protocol) : Except NetError Unit :=
  if s.protocol.offers transport then .ok ()
  else .error (.invalidProtocol
    ("client is configured for " ++ s.protocol.display ++ ", not " ++ transport.display))

/-- Stream session `k`; a number not given yet stands for a session just made. -/
def stream (s : State) (k : Nat) : Lifecycle.State := s.streams[k]?.getD .init

/-- Datagram session `u`; a number not given yet stands for a session just made. -/
def datagram (s : State) (u : Nat) : Datagram := s.datagrams[u]?.getD .opened

def tcpConnected (s : State) : Bool := s.tcp.any fun k => (s.stream k).link == .connected

def udpConnected (s : State) : Bool := s.udp.any fun u => (s.datagram u).isOpen

/-- What close call `j` of stream session `k` answered, once it has returned. -/
def streamAnswer (s : State) (k j : Nat) : Option Bool :=
  match (s.stream k).calls[j]? with
  | some (.close (.returned closed)) => some closed
  | _ => none

def attachReturned (s : State) (k j : Nat) : Bool :=
  (s.stream k).calls[j]? == some (.attach .returned)

@[simps]
def setCall (s : State) (i : Nat) (c : Caller) : State := { s with calls := s.calls.set i c }

@[simps]
def start (s : State) (c : Caller) : State := { s with calls := s.calls ++ [c] }

@[simps]
def dispatch (s : State) (i : Nat) (e : ClientEvent) : State :=
  { s with trace := s.trace ++ [(i, e)] }

@[simps]
def onStream (s : State) (k : Nat) (a : Lifecycle.Action) : State :=
  { s with streams := s.streams.modify k (·.step a) }

@[simps]
def onDatagram (s : State) (u : Nat) (a : Datagram.Action) : State :=
  { s with datagrams := s.datagrams.modify u (·.step a) }

@[simps]
def newStream (s : State) : State :=
  { s with tcp := some s.streams.length, streams := s.streams ++ [.init] }

/-- A new datagram session, open, not yet stored. -/
@[simps]
def newDatagram (s : State) : State := { s with datagrams := s.datagrams ++ [.opened] }

/-- The next step of `disconnect` call `i`, telling the application if `notify`. -/
def stepDisconnect (s : State) (i : Nat) (notify : Bool) : Disconnect → State
  | .takeTcp => ({ s with tcp := none } : State).setCall i (.disconnect notify (.takeUdp s.tcp))
  | .takeUdp (some k) =>
    (({ s with udp := none } : State).onStream k .close).setCall i
      (.disconnect notify (.closeTcp (k, (s.stream k).calls.length) s.udp))
  | .takeUdp none =>
    match s.udp with
    | some u =>
      (({ s with udp := none } : State).onDatagram u .close).setCall i
        (.disconnect notify (.closeUdp none (u, (s.datagram u).closes.length) false))
    | none => s.setCall i (.disconnect notify (.notify none none false))
  | .closeTcp (k, j) udp =>
    match s.streamAnswer k j, udp with
    | some b, some u =>
      (s.onDatagram u .close).setCall i
        (.disconnect notify (.closeUdp (some (k, j)) (u, (s.datagram u).closes.length) b))
    | some b, none => s.setCall i (.disconnect notify (.notify (some (k, j)) none b))
    | none, _ => (s.onStream k (.call j)).setCall i (.disconnect notify (.closeTcp (k, j) udp))
  | .closeUdp tcp (u, j) closed =>
    match (s.datagram u).answer j with
    | some b => s.setCall i (.disconnect notify (.notify tcp (some (u, j)) (closed || b)))
    | none =>
      (s.onDatagram u (.call j)).setCall i
        (.disconnect notify (.closeUdp tcp (u, j) closed))
  | .notify tcp udp closed =>
    (if closed && notify then s.dispatch i (.disconnected .both) else s).setCall i
      (.disconnect notify (.returned tcp udp closed))
  | .returned _ _ _ => s

/-- The next step of `connect_tcp` call `i`; `outcome` is how an awaited socket connect ends. -/
def stepTcpConnect (s : State) (i : Nat) (thenUdp : Bool) (outcome : Except IoError Unit) :
    TcpConnect → State
  | .ensureOpen =>
    s.setCall i (.connectTcp thenUdp (if s.closed then
      .returned (.error (.invalidState "client has been closed")) else .check))
  | .check =>
    s.setCall i (.connectTcp thenUdp (if s.tcpConnected then
      .returned (.error (.invalidState "TCP is already connected")) else .await))
  | .await =>
    match outcome with
    | .error e =>
      (s.dispatch i (.failed .connectTcp (.io e))).setCall i
        (.connectTcp thenUdp (.returned (.error (.io e))))
    | .ok _ => s.newStream.setCall i (.connectTcp thenUdp (.announce s.streams.length))
  | .announce k =>
    ((s.dispatch i (.connected .tcp)).onStream k .attach).setCall i
      (.connectTcp thenUdp (.attach k (s.stream k).calls.length))
  | .attach k j =>
    if s.attachReturned k j then
      s.setCall i (if thenUdp then .connectUdp true .ensureOpen else .connectTcp false (.returned (.ok ())))
    else (s.onStream k (.call j)).setCall i (.connectTcp thenUdp (.attach k j))
  | .returned _ => s

/-- Where a `connect_udp` that returns `result` goes: a `connect` whose stream is connected closes
it again on an error. -/
def udpReturns (closeTcp : Bool) (result : Except NetError Unit) : Caller :=
  match result, closeTcp with
  | .error e, true => .closeTcp e .take
  | result, _ => .connectUdp closeTcp (.returned result)

def stepUdpConnect (s : State) (i : Nat) (closeTcp : Bool) (outcome : Except IoError Unit) :
    UdpConnect → State
  | .ensureOpen =>
    s.setCall i (if s.closed then udpReturns closeTcp (.error (.invalidState "client has been closed"))
      else .connectUdp closeTcp .check)
  | .check =>
    s.setCall i (if s.udpConnected then
      udpReturns closeTcp (.error (.invalidState "UDP is already connected"))
      else .connectUdp closeTcp .await)
  | .await =>
    match outcome with
    | .error e => s.setCall i (udpReturns closeTcp (.error (.io e)))
    | .ok _ => s.newDatagram.setCall i (.connectUdp closeTcp (.store s.datagrams.length))
  | .store u => ({ s with udp := some u } : State).setCall i (.connectUdp closeTcp .announce)
  | .announce => (s.dispatch i (.connected .udp)).setCall i (udpReturns closeTcp (.ok ()))
  | .returned _ => s

def stepCloseTcp (s : State) (i : Nat) (error : NetError) : CloseTcp → State
  | .take =>
    match s.tcp with
    | some k =>
      (({ s with tcp := none } : State).onStream k .close).setCall i
        (.closeTcp error (.close (k, (s.stream k).calls.length)))
    | none => s.setCall i (.closeTcp error (.returned none false))
  | .close (k, j) =>
    match s.streamAnswer k j with
    | some b =>
      (if b then s.dispatch i (.disconnected .tcp) else s).setCall i
        (.closeTcp error (.returned (some (k, j)) b))
    | none => (s.onStream k (.call j)).setCall i (.closeTcp error (.close (k, j)))
  | .returned _ _ => s

def stepDropTcp (s : State) (i k : Nat) : DropTcp → State
  | .check =>
    if s.tcp = some k then s.setCall i (.disconnect true .takeTcp)
    else (s.onStream k .close).setCall i (.dropTcp k (.close (s.stream k).calls.length))
  | .close j =>
    match s.streamAnswer k j with
    | some _ => s.setCall i (.dropTcp k .returned)
    | none => (s.onStream k (.call j)).setCall i (.dropTcp k (.close j))
  | .returned => s

/-- The next step of `drop_udp` call `i` for datagram session `u`. Its second close, made when the
first answers `false`, changes nothing and is left out. -/
def stepDropUdp (s : State) (i u : Nat) : DropUdp → State
  | .take =>
    let s' : State := if s.udp = some u then { s with udp := none } else s
    (s'.onDatagram u .close).setCall i
      (.dropUdp u (.close (s.udp = some u) (s.datagram u).closes.length))
  | .close current j =>
    match (s.datagram u).answer j with
    | some b =>
      (if current && b then s.dispatch i (.disconnected .udp) else s).setCall i
        (.dropUdp u (.returned current j b))
    | none => (s.onDatagram u (.call j)).setCall i (.dropUdp u (.close current j))
  | .returned _ _ _ => s

def stepClose (s : State) (i : Nat) : Close → State
  | .swap =>
    if s.closed then s.setCall i (.close .returned)
    else ({ s with closed := true } : State).setCall i (.disconnect false .takeTcp)
  | .returned => s

def stepCall (s : State) (i : Nat) (outcome : Except IoError Unit) : Caller → State
  | .connectTcp thenUdp t => s.stepTcpConnect i thenUdp outcome t
  | .connectUdp closeTcp u => s.stepUdpConnect i closeTcp outcome u
  | .closeTcp e c => s.stepCloseTcp i e c
  | .disconnect notify d => s.stepDisconnect i notify d
  | .close c => s.stepClose i c
  | .dropTcp k d => s.stepDropTcp i k d
  | .dropUdp u d => s.stepDropUdp i u d

/-- The first stage of a `connect_tcp` or `connect_udp` made directly: refused at once when the
client does not offer the transport. -/
def firstStage {σ : Type} (checked : Except NetError Unit) (ensureOpen : σ)
    (returned : Except NetError Unit → σ) : σ :=
  match checked with
  | .ok _ => ensureOpen
  | .error e => returned (.error e)

/-- One step. A drop for a session not made yet, or a step of a call not made, changes nothing. -/
def step (s : State) : Action → State
  | .connect =>
    s.start (if s.protocol.usesTcp then .connectTcp s.protocol.usesUdp .ensureOpen
      else .connectUdp false .ensureOpen)
  | .connectTcp =>
    s.start (.connectTcp false (firstStage (s.require .tcp) .ensureOpen .returned))
  | .connectUdp =>
    s.start (.connectUdp false (firstStage (s.require .udp) .ensureOpen .returned))
  | .disconnect => s.start (.disconnect true .takeTcp)
  | .close => s.start (.close .swap)
  | .dropTcp k => if k < s.streams.length then s.start (.dropTcp k .check) else s
  | .dropUdp u => if u < s.datagrams.length then s.start (.dropUdp u .take) else s
  | .call i =>
    match s.calls[i]? with
    | some c => s.stepCall i (.ok ()) c
    | none => s
  | .fail i e =>
    match s.calls[i]? with
    | some c => s.stepCall i (.error e) c
    | none => s

def run (s : State) (actions : List Action) : State := actions.foldl step s

end State

end ClientTasks

end FrameLink
