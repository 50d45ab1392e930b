import FrameLink.Server.Incoming
import Mathlib.Tactic.Simps.Basic

/-!
The server as tasks that run at the same time. The sequential server applies each call whole;
here a call is cut into the steps it takes on the shared state, each step one atomic action under
the server's locks and atomics, and the steps of different tasks interleave in any order.

The shared state is the identity pool, the session table (each identity mapped to a client
object, compared as an object and not by its contents), the client objects made so far and the
stopped flag. The tasks are the admissions of accepted connections, the teardowns of sessions,
and the shutdown that stopping starts. A task stays in the list once it has finished, at its last
stage, so that a run can be read afterwards, and the trace records in order every call a task
made on the dispatch queue and on the identity pool.

An admission waits for the verdict, configures the connection, puts its session in the table,
reads the stopped flag once more and attaches the connection; it frees its identity when the
verdict is no, when the server stopped in the meantime, or when configuring fails. A teardown of
the datagram side forgets the bound endpoint in one step. Any other teardown marks the client, and
only the call that marked it first goes on: it closes the stream, forgets the endpoint, takes the
session out of the table if the table still maps the identity to this very client, tells the
application if asked, and frees the identity last.

Where the outcome depends on timing, the model leaves it open: the accept loop may claim
any free slot (a concurrent release can free a slot its scan has passed) or find none, and a
stream may end for any client object.
-/

namespace FrameLink

namespace Concurrent

inductive AdmissionStage where
  /-- Waiting for the application's verdict. -/
  | verdict
  /-- Accepted: the connection is configured next. -/
  | configure
  /-- Configured: the session enters the table next. -/
  | insert
  /-- The client object `client` is in the table: the stopped flag is read next. -/
  | recheck (client : Nat)
  /-- Announced: the connection is attached to the stream session next. -/
  | attach (client : Nat)
  | done
deriving DecidableEq, Repr

/-- How far a teardown has got: the stages of the call that marked the client first, and its result. -/
inductive TeardownStage where
  | start
  | close
  | clear
  | remove
  | notify
  | release
  | done (result : Bool)
deriving DecidableEq, Repr

inductive Task where
  /-- The admission of a connection from `peer`, holding the identity `id`. -/
  | admission (id : ClientId) (peer : SocketAddr) (stage : AdmissionStage)
  /-- A teardown of the client object `client` for `protocol`, telling the application if `notify`. -/
  | teardown (client : Nat) (protocol : Protocol) (notify : Bool) (stage : TeardownStage)
  /-- The shutdown that stopping starts: whether it has collected the sessions yet. -/
  | shutdown (collected : Bool)
deriving DecidableEq, Repr

inductive Call (α : Type) where
  | dispatch (event : ServerEvent α)
  /-- A release of `id`, with the pool's answer: whether the identity was held. -/
  | release (id : ClientId) (freed : Bool)

structure State (α : Type) where
  options : ServerOptions
  identities : IdentityPool
  /-- The session table: identities, each with the number of the client object it maps to. -/
  table : List (ClientId × Nat)
  clients : List (ClientSession α)
  stopped : Bool
  tasks : List Task
  /-- The calls on the dispatch queue and the pool, oldest first, each with the task that made it
  (`none` for the accept loop and the datagram sender). -/
  trace : List (Option Nat × Call α)

inductive Action where
  /-- The accept loop takes a connection from `peer` and claims the free slot `slot` for it. -/
  | accept (peer : SocketAddr) (slot : Nat)
  /-- The accept loop takes a connection and finds no free slot. -/
  | refuse
  /-- Admission `task` learns the verdict (a stopped dispatch queue answers `false`). -/
  | verdict (task : Nat) (accepted : Bool)
  | configure (task : Nat) (result : Except IoError Unit)
  | insert (task : Nat)
  | recheck (task : Nat)
  | attach (task : Nat)
  | disconnect (id : ClientId) (protocol : Protocol)
  | streamClosed (client : Nat)
  | sendFailed (id : ClientId) (error : IoError)
  | datagram (id : ClientId) (source : SocketAddr)
  | stop
  /-- Shutdown `task` collects the sessions of the table and starts a teardown of each. -/
  | collect (task : Nat)
  | advance (task : Nat)

namespace State

variable {α : Type}

/-- A server with valid options, before any connection. -/
def init (options : ServerOptions) : State α :=
  ⟨options, IdentityPool.new options.maxClients, [], [], false, [], []⟩

def clientCount (s : State α) : Nat := s.table.length

def idOf (s : State α) (client : Nat) : Option ClientId := s.clients[client]?.map (·.id)

@[simps]
def spawn (s : State α) (t : Task) : State α := { s with tasks := s.tasks ++ [t] }

@[simps]
def setTask (s : State α) (i : Nat) (t : Task) : State α := { s with tasks := s.tasks.set i t }

@[simps]
def setClient (s : State α) (client : Nat) (c : ClientSession α) : State α :=
  { s with clients := s.clients.set client c }

@[simps]
def record (s : State α) (task : Option Nat) (call : Call α) : State α :=
  { s with trace := s.trace ++ [(task, call)] }

/-- Task `i` releases `id`, and the trace records what the pool answered. -/
@[simps]
def releaseBy (s : State α) (i : Nat) (id : ClientId) : State α :=
  { s with identities := (s.identities.release id).2
           trace := s.trace ++ [(some i, .release id (s.identities.release id).1)] }

def advanceTeardown (s : State α) (i client : Nat) (protocol : Protocol) (notify : Bool) :
    TeardownStage → State α
  | .start =>
    match s.clients[client]? with
    | none => s
    | some c =>
      if protocol = .udp then
        let (was, c) := c.clearBinding
        let s := (s.setClient client c).setTask i (.teardown client protocol notify (.done was))
        if was && notify then s.record (some i) (.dispatch (.disconnected c.info .udp)) else s
      else
        let (first, c) := c.beginTeardown
        (s.setClient client c).setTask i
          (.teardown client protocol notify (if first then .close else .done false))
  | .close =>
    match s.clients[client]? with
    | none => s
    | some c =>
      (s.setClient client c.closeStream.2).setTask i (.teardown client protocol notify .clear)
  | .clear =>
    match s.clients[client]? with
    | none => s
    | some c =>
      (s.setClient client c.clearBinding.2).setTask i (.teardown client protocol notify .remove)
  | .remove =>
    match s.idOf client with
    | none => s
    | some id =>
      -- the entry goes only if it is still this client's: a newer session may hold the identity
      let s := if s.table.lookup id = some client then { s with table := s.table.filter (·.1 != id) }
        else s
      s.setTask i (.teardown client protocol notify .notify)
  | .notify =>
    match s.clients[client]? with
    | none => s
    | some c =>
      let s := if notify then s.record (some i) (.dispatch (.disconnected c.info protocol)) else s
      s.setTask i (.teardown client protocol notify .release)
  | .release =>
    match s.idOf client with
    | none => s
    | some id => (s.releaseBy i id).setTask i (.teardown client protocol notify (.done true))
  | .done _ => s

/-- One step. An action that does not fit the state (a task not at that stage, a slot that is not
free) changes nothing. -/
def step (s : State α) : Action → State α
  | .accept peer slot =>
    if slot < s.identities.capacity ∧ slot ∉ s.identities.held then
      let id := IdentityPool.identityOf slot
      ((({ s with identities := s.identities.claim slot } : State α).record (some s.tasks.length)
        (.dispatch (.accept (Server.candidate id peer))))).spawn (.admission id peer .verdict)
    else s
  | .refuse => s.record none (.dispatch .serverFull)
  | .verdict i accepted =>
    match s.tasks[i]? with
    | some (.admission id peer .verdict) =>
      if !accepted || s.stopped then (s.releaseBy i id).setTask i (.admission id peer .done)
      else s.setTask i (.admission id peer .configure)
    | _ => s
  | .configure i result =>
    match s.tasks[i]?, result with
    | some (.admission id peer .configure), .error e =>
      ((s.releaseBy i id).record (some i)
        (.dispatch (.failed (some (Server.candidate id peer)) .connectTcp (.io e)))).setTask i
        (.admission id peer .done)
    | some (.admission id peer .configure), .ok () => s.setTask i (.admission id peer .insert)
    | _, _ => s
  | .insert i =>
    match s.tasks[i]? with
    | some (.admission id peer .insert) =>
      let client := s.clients.length
      ({ s with clients := s.clients ++ [ClientSession.new id peer]
                table := (id, client) :: s.table.filter (·.1 != id) } : State α).setTask i
        (.admission id peer (.recheck client))
    | _ => s
  | .recheck i =>
    match s.tasks[i]? with
    | some (.admission id peer (.recheck client)) =>
      if s.stopped then
        (s.setTask i (.admission id peer .done)).spawn (.teardown client .both false .start)
      else
        match s.clients[client]? with
        | some c =>
          (s.record (some i) (.dispatch (.connected c.info))).setTask i
            (.admission id peer (.attach client))
        | none => s
    | _ => s
  | .attach i =>
    match s.tasks[i]? with
    | some (.admission id peer (.attach client)) =>
      match s.clients[client]? with
      | some c =>
        (s.setClient client { c with stream := c.stream.attach.2 }).setTask i
          (.admission id peer .done)
      | none => s
    | _ => s
  | .disconnect id protocol =>
    match s.table.lookup id with
    | some client => s.spawn (.teardown client protocol true .start)
    | none => s
  | .streamClosed client =>
    if client < s.clients.length then s.spawn (.teardown client .both true .start) else s
  | .sendFailed id error =>
    let client := s.table.lookup id
    let info := (client.bind (s.clients[·]?)).map ClientSession.info
    let s := s.record none (.dispatch (.failed info .sendUdp (.io error)))
    match client with
    | some client =>
      if s.options.disconnectClientOnError then s.spawn (.teardown client .udp true .start) else s
    | none => s
  | .datagram id source =>
    match s.table.lookup id with
    | some client =>
      match s.clients[client]? with
      | some c => s.setClient client (c.checkSource source).2
      | none => s
    | none => s
  | .stop => if s.stopped then s else ({ s with stopped := true } : State α).spawn (.shutdown false)
  | .collect i =>
    match s.tasks[i]? with
    | some (.shutdown false) =>
      { s with tasks := s.tasks.set i (.shutdown true) ++
          s.table.map fun entry => .teardown entry.2 .both false .start }
    | _ => s
  | .advance i =>
    match s.tasks[i]? with
    | some (.teardown client protocol notify stage) =>
      s.advanceTeardown i client protocol notify stage
    | _ => s

def run (s : State α) (actions : List Action) : State α := actions.foldl step s

end State

end Concurrent

end FrameLink
