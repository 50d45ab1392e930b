import FrameLink.Session.Stream
import Mathlib.Tactic.Simps.Basic

/-!
One stream session while the tasks that use it run at once: the attach that starts its reader and
writer, closes, and sends. Each step is one atomic action on the session: a load, a
compare-and-swap or a swap of its state, a section under one of its locks (the sender's slot, the
receiver's slot, the task list), a spawn, a send on its channel or a receive from it.

An attach takes the receiving end of the outgoing channel out of its slot, and returns when it is
gone. It moves the state from connecting to connected, and returns otherwise, dropping the
receiver. It then spawns the reader and the writer, the writer owning the receiver, registers
their abort handles, reads the state once more and aborts the registered tasks when the session is
no longer connected. A close swaps the state to disconnected and answers `false` when it was so
already; otherwise it drops the sender, drops the receiver if it is still in its slot, aborts the
registered tasks and answers `true`. A send reads the state and is refused when it is
disconnected; then, under the sender's lock, it is refused when the sender or the receiver is
gone, and is put in the channel otherwise.

The writer takes sends out of the channel in order until it is aborted, and it may end at any time
(a write failed, it saw the session closed, or it was aborted), dropping the receiver and what is
still in it. A send is known by the number of its call, which stands for its bytes; a task by the
attach call that spawned it. The log records the attach whose compare-and-swap succeeded, the
sends put in the channel and those handed to the writer.
-/

namespace FrameLink

namespace Lifecycle

inductive Receiver where
  /-- In the session's slot, where sends wait until a writer exists. -/
  | slot
  /-- Taken out of the slot by an attach that has not spawned the writer yet. -/
  | held
  | writer
  | dropped
deriving DecidableEq, Repr

inductive Task where
  | reader (attach : Nat)
  | writer (attach : Nat)
deriving DecidableEq, Repr

def Task.isWriter : Task → Bool
  | .writer _ => true
  | .reader _ => false

inductive AttachStage where
  | take
  | swap
  | spawn
  | register
  | recheck
  /-- The session was closed meanwhile: the registered tasks are aborted next. -/
  | abort
  | returned
deriving DecidableEq, Repr

inductive CloseStage where
  | swap
  | dropWriter
  | dropOutgoing
  | abort
  /-- Returned, with whether this call closed the session. -/
  | returned (closed : Bool)
deriving DecidableEq, Repr

inductive SendStage where
  | load
  /-- The send is put in the channel next, under the sender's lock. -/
  | push
  /-- Returned: `true` for a send put in the channel, `false` for `NotConnected`. -/
  | returned (sent : Bool)
deriving DecidableEq, Repr

inductive Caller where
  | attach (stage : AttachStage)
  | close (stage : CloseStage)
  | send (stage : SendStage)
deriving DecidableEq, Repr

inductive Event where
  /-- The compare-and-swap of this attach call moved the session to connected. -/
  | attached (call : Nat)
  /-- The send of this call was put in the channel. -/
  | pushed (call : Nat)
  /-- The writer took the send of this call out of the channel. -/
  | handed (call : Nat)
deriving DecidableEq, Repr

structure State where
  link : LinkState
  /-- Whether the sending end of the channel is still in its slot. -/
  sender : Bool
  receiver : Receiver
  queue : List Nat
  /-- The abort handles registered and not yet drained. -/
  tasks : List Task
  spawned : List Task
  aborted : List Task
  calls : List Caller
  log : List Event
deriving Repr

inductive Action where
  | attach
  | close
  | send
  | call (i : Nat)
  /-- The writer takes the oldest send out of the channel. -/
  | deliver
  /-- The writer ends and drops the receiver. -/
  | writerEnds
deriving DecidableEq, Repr

namespace State

/-- A session just made: connecting, with both ends of its channel in their slots. -/
def init : State := ⟨.connecting, true, .slot, [], [], [], [], [], []⟩

@[simps]
def setCall (s : State) (i : Nat) (c : Caller) : State := { s with calls := s.calls.set i c }

@[simps]
def record (s : State) (e : Event) : State := { s with log := s.log ++ [e] }

@[simps]
def abortTasks (s : State) : State := { s with tasks := [], aborted := s.aborted ++ s.tasks }

/-- Drop the receiving end, and with it the sends still in the channel. -/
@[simps]
def dropReceiver (s : State) : State := { s with receiver := .dropped, queue := [] }

def stepAttach (s : State) (i : Nat) : AttachStage → State
  | .take =>
    if s.receiver = .slot then ({ s with receiver := .held } : State).setCall i (.attach .swap)
    else s.setCall i (.attach .returned)
  | .swap =>
    if s.link = .connecting then
      (({ s with link := .connected } : State).record (.attached i)).setCall i (.attach .spawn)
    else s.dropReceiver.setCall i (.attach .returned)
  | .spawn =>
    ({ s with receiver := .writer, spawned := s.spawned ++ [.reader i, .writer i] } : State).setCall
      i (.attach .register)
  | .register =>
    ({ s with tasks := s.tasks ++ [.reader i, .writer i] } : State).setCall i (.attach .recheck)
  | .recheck => s.setCall i (.attach (if s.link = .connected then .returned else .abort))
  | .abort => s.abortTasks.setCall i (.attach .returned)
  | .returned => s

def stepClose (s : State) (i : Nat) : CloseStage → State
  | .swap =>
    if s.link = .disconnected then s.setCall i (.close (.returned false))
    else ({ s with link := .disconnected } : State).setCall i (.close .dropWriter)
  | .dropWriter => ({ s with sender := false } : State).setCall i (.close .dropOutgoing)
  | .dropOutgoing =>
    (if s.receiver = .slot then s.dropReceiver else s).setCall i (.close .abort)
  | .abort => s.abortTasks.setCall i (.close (.returned true))
  | .returned _ => s

def stepSend (s : State) (i : Nat) : SendStage → State
  | .load => s.setCall i (.send (if s.link = .disconnected then .returned false else .push))
  | .push =>
    if s.sender = true ∧ s.receiver ≠ .dropped then
      (({ s with queue := s.queue ++ [i] } : State).record (.pushed i)).setCall i
        (.send (.returned true))
    else s.setCall i (.send (.returned false))
  | .returned _ => s

/-- One step. A step that does not fit the state (a call not made, a writer that does not exist, was
aborted or finds the channel empty) changes nothing. -/
def step (s : State) : Action → State
  | .attach => { s with calls := s.calls ++ [.attach .take] }
  | .close => { s with calls := s.calls ++ [.close .swap] }
  | .send => { s with calls := s.calls ++ [.send .load] }
  | .call i =>
    match s.calls[i]? with
    | some (.attach stage) => s.stepAttach i stage
    | some (.close stage) => s.stepClose i stage
    | some (.send stage) => s.stepSend i stage
    | none => s
  | .deliver =>
    match s.receiver, s.queue with
    | .writer, j :: rest =>
      if s.aborted.any Task.isWriter then s else ({ s with queue := rest } : State).record (.handed j)
    | _, _ => s
  | .writerEnds => if s.receiver = .writer then s.dropReceiver else s

def run (s : State) (actions : List Action) : State := actions.foldl step s

end State

end Lifecycle

end FrameLink
