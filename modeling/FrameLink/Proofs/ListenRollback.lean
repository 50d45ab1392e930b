import FrameLink.Server.Listening
import FrameLink.Server.Lifecycle
import FrameLink.Proofs.SessionTable

/-!
A failed call of `listen`, step by step among the server's tasks. The call's steps touch only the
listening flag, the endpoints, the accept loop and the host, never the shared state of sessions,
identities and tasks (`callStep_server`); a call that fails in a bind lets go of everything it
bound (`RolledBack`, an invariant of every run). So when the accept loop takes no connection
while the call runs, a failed call leaves the server as it was
(`failed_listen_restores_server_without_accepts`).

The accept loop runs from the stream bind to the rollback, and a connection it takes in between
starts an admission that the rollback does not abort: the identity it claims stays held, and the
session enters the table of a server that is not listening
(`accept_during_failed_listen_survives`).

Run alone, the call's steps give what the whole call `Server.listen` gives
(`run_calls_agrees_with_listen`).
-/

namespace FrameLink

/-- A host binds an address it does not refuse, and binding changes only its next ephemeral port. -/
theorem Host.bind_ok (host : Host) {kind : SocketKind} {ip : IpAddr} (port : UInt16)
    (h : host.bindFailure kind ip = none) :
    ∃ a h', host.bind kind ip port = .ok (a, h') ∧ h'.bindFailure = host.bindFailure := by
  simp only [Host.bind, h]
  split
  · exact ⟨_, _, rfl, rfl⟩
  · exact ⟨_, _, rfl, rfl⟩

namespace Concurrent

namespace Listener

variable {α : Type} (l : Listener α)

/-! ### What each kind of step touches -/

@[simp] theorem callStep_server : l.callStep.server = l.server := by
  simp only [callStep]
  (repeat' split) <;> rfl

@[simp] theorem taskStep_call (a : Action) : (l.taskStep a).call = l.call := by
  simp only [taskStep]
  (repeat' split) <;> rfl

@[simp] theorem taskStep_tcpAddr (a : Action) : (l.taskStep a).tcpAddr = l.tcpAddr := by
  simp only [taskStep]
  (repeat' split) <;> rfl

theorem taskStep_server {a : Action} (h : a.byAcceptLoop = false) :
    (l.taskStep a).server = l.server.step a := by
  simp only [taskStep, h, Bool.false_and, Bool.false_eq_true, if_false]
  split <;> rfl

theorem taskStep_endpoints (a : Action) :
    ((l.taskStep a).listening = l.listening ∧ (l.taskStep a).udpAddr = l.udpAddr ∧
        (l.taskStep a).accepting = l.accepting) ∨
      ((l.taskStep a).listening = false ∧ (l.taskStep a).udpAddr = none ∧
        (l.taskStep a).accepting = false) := by
  simp only [taskStep]
  split
  · exact .inl ⟨rfl, rfl, rfl⟩
  · split
    · exact .inr ⟨rfl, rfl, rfl⟩
    · exact .inl ⟨rfl, rfl, rfl⟩

/-! ### The call's first step -/

section Start

variable {l}

/-- On a stopped server the call returns at once and changes nothing else. -/
theorem callStep_of_stopped (hstart : l.call = .start) (h : l.server.stopped = true) :
    l.callStep = { l with call := .done (.error (.invalidState "server has been stopped")) } := by
  simp [callStep, hstart, h]

theorem callStep_of_listening (hstart : l.call = .start) (hs : l.server.stopped = false)
    (h : l.listening = true) :
    l.callStep = { l with call := .done (.error (.invalidState "server is already listening")) } := by
  simp [callStep, hstart, hs, h]

end Start

/-! ### A failed call lets go of what it bound -/

/-- What a call that failed in a bind leaves: the server is not listening, no endpoint is on record,
and the accept loop does not run. -/
def RolledBack (l : Listener α) : Prop :=
  ∀ e, l.call = .done (.error (.io e)) →
    l.listening = false ∧ l.tcpAddr = none ∧ l.udpAddr = none ∧ l.accepting = false

theorem rolledBack_of_start (hstart : l.call = .start) : l.RolledBack := by
  intro e he
  rw [hstart] at he
  cases he

/-- The call's step keeps `RolledBack`: only the rollback returns a bind's error, and it lets go of
everything. -/
theorem RolledBack.callStep {l : Listener α} (h : l.RolledBack) : l.callStep.RolledBack := by
  intro e he
  cases hcall : l.call with
  | rollback e' before => simp [Listener.callStep, hcall]
  | done result =>
    simp only [Listener.callStep, hcall] at he ⊢
    exact h e (hcall.trans he)
  | _ =>
    simp only [Listener.callStep, hcall] at he
    (repeat' split at he) <;> cases he

/-- A task's step keeps `RolledBack`: it at most lets go of the endpoints. -/
theorem RolledBack.taskStep {l : Listener α} (h : l.RolledBack) (a : Action) :
    (l.taskStep a).RolledBack := by
  intro e he
  rw [taskStep_call] at he
  obtain ⟨hlistening, htcp, hudp, haccepting⟩ := h e he
  rw [taskStep_tcpAddr]
  rcases l.taskStep_endpoints a with ⟨hl, hu, ha⟩ | ⟨hl, hu, ha⟩
  · exact ⟨hl.trans hlistening, htcp, hu.trans hudp, ha.trans haccepting⟩
  · exact ⟨hl, htcp, hu, ha⟩

theorem RolledBack.run {l : Listener α} (h : l.RolledBack) (acts : List ListenAction) :
    (l.run acts).RolledBack := by
  induction acts generalizing l with
  | nil => exact h
  | cons act rest ih =>
    cases act with
    | call => exact ih h.callStep
    | task a => exact ih (h.taskStep a)

/-! ### The shared state -/

/-- Run lemma: when the accept loop takes no step, the call's steps add nothing to the shared state. -/
theorem run_server (acts : List ListenAction)
    (hquiet : ∀ a, ListenAction.task a ∈ acts → a.byAcceptLoop = false) :
    (l.run acts).server = l.server.run (ListenAction.tasks acts) := by
  induction acts generalizing l with
  | nil => rfl
  | cons act rest ih =>
    have hrest : ∀ a, ListenAction.task a ∈ rest → a.byAcceptLoop = false :=
      fun a ha => hquiet a (List.mem_cons_of_mem _ ha)
    cases act with
    | call =>
      have hnext := ih l.callStep hrest
      rw [callStep_server] at hnext
      exact hnext
    | task a =>
      have hnext := ih (l.taskStep a) hrest
      rw [taskStep_server l (hquiet a List.mem_cons_self)] at hnext
      exact hnext

/-! ### Listening again -/

/-- A server that has neither stopped nor is listening listens again on a host that binds its
address. -/
theorem relisten_succeeds (hstopped : l.server.stopped = false) (hlistening : l.listening = false)
    {host : Host} (hbinds : ∀ kind, host.bindFailure kind l.server.options.address = none) :
    ((l.relisten host).run [.call, .call, .call]).call = .done (.ok ()) := by
  obtain ⟨a, h1, hstream, hkeep⟩ := host.bind_ok l.server.options.port (hbinds .stream)
  simp only [run, List.foldl, step, callStep, relisten, hstopped, hlistening, Bool.false_eq_true,
    if_false]
  cases hproto : l.server.options.protocol with
  | tcp => simp [Protocol.usesTcp, Protocol.usesUdp, hproto, hstream]
  | udp =>
    obtain ⟨b, h2, hdatagram, -⟩ := host.bind_ok l.server.options.port (hbinds .datagram)
    simp [Protocol.usesTcp, Protocol.usesUdp, hproto, hdatagram]
  | both =>
    obtain ⟨b, h2, hdatagram, -⟩ := h1.bind_ok a.port (hkeep ▸ hbinds .datagram)
    simp [Protocol.usesTcp, Protocol.usesUdp, hproto, hstream, hdatagram]

/-! ### The call alone -/

/-- Run alone from its start, the call's steps give what `Server.listen` gives: the same answer,
flag, addresses and host. -/
theorem run_calls_agrees_with_listen (s : Server α) (hstart : l.call = .start)
    (hoptions : l.server.options = s.options) (hstopped : l.server.stopped = s.stopped)
    (hlistening : l.listening = s.listening) (htcp : l.tcpAddr = s.tcpAddr)
    (hudp : l.udpAddr = s.udpAddr)
    (hidle : s.stopped = false → s.listening = false → s.tcpAddr = none ∧ s.udpAddr = none) :
    (l.run [.call, .call, .call, .call]).call = .done (s.listen l.host).1 ∧
      (l.run [.call, .call, .call, .call]).listening = (s.listen l.host).2.1.listening ∧
      (l.run [.call, .call, .call, .call]).tcpAddr = (s.listen l.host).2.1.tcpAddr ∧
      (l.run [.call, .call, .call, .call]).udpAddr = (s.listen l.host).2.1.udpAddr ∧
      (l.run [.call, .call, .call, .call]).host = (s.listen l.host).2.2 ∧
      (l.run [.call, .call, .call, .call]).server = l.server := by
  cases hs : s.stopped
  · cases hl : s.listening
    · obtain ⟨htcp0, hudp0⟩ := hidle hs hl
      cases hproto : s.options.protocol with
      | tcp =>
        cases hb : l.host.bind .stream s.options.address s.options.port <;>
          simp [run, step, callStep, Server.listen, Server.bindEndpoints, bind, Except.bind, pure,
            Except.pure, Protocol.usesTcp, Protocol.usesUdp, *]
      | udp =>
        cases hb : l.host.bind .datagram s.options.address s.options.port <;>
          simp [run, step, callStep, Server.listen, Server.bindEndpoints, bind, Except.bind, pure,
            Except.pure, Protocol.usesTcp, Protocol.usesUdp, *]
      | both =>
        cases hb : l.host.bind .stream s.options.address s.options.port with
        | error e =>
          simp [run, step, callStep, Server.listen, Server.bindEndpoints, bind, Except.bind,
            Protocol.usesTcp, *]
        | ok p =>
          cases hb' : p.2.bind .datagram s.options.address p.1.port <;>
            simp [run, step, callStep, Server.listen, Server.bindEndpoints, bind, Except.bind, pure,
              Except.pure, Protocol.usesTcp, Protocol.usesUdp, *]
    · simp [run, step, callStep, Server.listen, *]
  · simp [run, step, callStep, Server.listen, *]

end Listener

open Listener

/-- In every interleaving in which the accept loop takes no connection, a failed `listen` leaves the
server not listening and its shared state as the other tasks make it. -/
theorem failed_listen_restores_server_without_accepts {α : Type} (l : Listener α)
    (hstart : l.call = .start) :
    (l.server.stopped = true →
        l.callStep = { l with call := .done (.error (.invalidState "server has been stopped")) }) ∧
      (l.server.stopped = false → l.listening = true →
        l.callStep = { l with call := .done (.error (.invalidState "server is already listening")) }) ∧
      ∀ acts : List ListenAction, (∀ a, .task a ∈ acts → a.byAcceptLoop = false) →
        ∀ e, (l.run acts).call = .done (.error (.io e)) →
          (l.run acts).listening = false ∧ (l.run acts).tcpAddr = none ∧
            (l.run acts).udpAddr = none ∧ (l.run acts).accepting = false ∧
            (l.run acts).server = l.server.run (ListenAction.tasks acts) ∧
            ((l.run acts).server.stopped = false → ∀ host : Host,
              (∀ kind, host.bindFailure kind l.server.options.address = none) →
              (((l.run acts).relisten host).run [.call, .call, .call]).call = .done (.ok ())) := by
  refine ⟨callStep_of_stopped hstart, callStep_of_listening hstart, fun acts hquiet e hfail => ?_⟩
  obtain ⟨hlistening, htcp, hudp, haccepting⟩ := (rolledBack_of_start l hstart).run acts e hfail
  have hserver := l.run_server acts hquiet
  refine ⟨hlistening, htcp, hudp, haccepting, hserver, fun hstopped host hbinds => ?_⟩
  have hoptions : (l.run acts).server.options = l.server.options := by
    rw [hserver]
    exact State.options_run ..
  exact relisten_succeeds _ hstopped hlistening (hoptions ▸ hbinds)

/-- A host on which another socket holds the datagram port. -/
def datagramPortTaken : Host :=
  { Host.isolated with
    bindFailure := fun kind ip =>
      if kind = .datagram then some (.os .addressInUse) else Host.isolated.bindFailure kind ip }

/-- With the datagram port taken, a `listen` with the default options leaves the server as it was. -/
theorem taken_datagram_port_leaves_server_as_it_was :
    (Listener.init (State.init {} : State Unit) datagramPortTaken).call = .start ∧
      ((Listener.init (State.init {} : State Unit) datagramPortTaken).run
          [.call, .call, .call, .call]).call = .done (.error (.io (.os .addressInUse))) ∧
      ((Listener.init (State.init {} : State Unit) datagramPortTaken).run
          [.call, .call, .call, .call]).listening = false ∧
      ((Listener.init (State.init {} : State Unit) datagramPortTaken).run
          [.call, .call, .call, .call]).accepting = false ∧
      ((Listener.init (State.init {} : State Unit) datagramPortTaken).run
          [.call, .call, .call, .call]).server = State.init {} := by
  have hfail : ((Listener.init (State.init {} : State Unit) datagramPortTaken).run
      [.call, .call, .call, .call]).call = .done (.error (.io (.os .addressInUse))) := rfl
  obtain ⟨-, -, hrun⟩ :=
    failed_listen_restores_server_without_accepts (Listener.init (State.init {}) datagramPortTaken) rfl
  obtain ⟨hlistening, -, -, haccepting, hserver, -⟩ := hrun _ (by simp) _ hfail
  exact ⟨rfl, hfail, hlistening, haccepting, hserver⟩

/-- A connection the accept loop takes while the call binds outlives the call's failure: the
admission is not aborted, and the client is announced on a server that is not listening. -/
theorem accept_during_failed_listen_survives :
    ((Listener.init (State.init {} : State Unit) datagramPortTaken).run
        [.call, .call, .task (.accept (.v4 (Ipv4.ofOctets 10 0 0 5) 4000) 0), .call, .call]).call =
      .done (.error (.io (.os .addressInUse))) ∧
    ((Listener.init (State.init {} : State Unit) datagramPortTaken).run
        [.call, .call, .task (.accept (.v4 (Ipv4.ofOctets 10 0 0 5) 4000) 0), .call, .call]).listening =
      false ∧
    ((Listener.init (State.init {} : State Unit) datagramPortTaken).run
        [.call, .call, .task (.accept (.v4 (Ipv4.ofOctets 10 0 0 5) 4000) 0), .call,
          .call]).server.identities.held = [0] ∧
    ((Listener.init (State.init {} : State Unit) datagramPortTaken).run
        [.call, .call, .task (.accept (.v4 (Ipv4.ofOctets 10 0 0 5) 4000) 0), .call,
          .call]).server.tasks = [.admission 1 (.v4 (Ipv4.ofOctets 10 0 0 5) 4000) .verdict] ∧
    ((Listener.init (State.init {} : State Unit) datagramPortTaken).run
        [.call, .call, .task (.accept (.v4 (Ipv4.ofOctets 10 0 0 5) 4000) 0), .call, .call,
          .task (.verdict 0 true), .task (.configure 0 (.ok ())), .task (.insert 0),
          .task (.recheck 0)]).server.table = [(1, 0)] ∧
    ((Listener.init (State.init {} : State Unit) datagramPortTaken).run
        [.call, .call, .task (.accept (.v4 (Ipv4.ofOctets 10 0 0 5) 4000) 0), .call, .call,
          .task (.verdict 0 true), .task (.configure 0 (.ok ())), .task (.insert 0),
          .task (.recheck 0)]).server.trace.getLast? =
      some (some 0, .dispatch (.connected
        (ClientSession.new 1 (.v4 (Ipv4.ofOctets 10 0 0 5) 4000) : ClientSession Unit).info)) :=
  ⟨rfl, rfl, rfl, rfl, rfl, rfl⟩

end Concurrent

end FrameLink
