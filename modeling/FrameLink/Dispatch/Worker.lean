import FrameLink.Dispatch.Queue
import Mathlib.Tactic.Simps.Basic

/-!
The dispatch queue while it runs. Producers offer jobs, callers stop the queue, and the worker
thread takes jobs from the channel and runs them; all of it interleaves. Each step is one atomic
action on the shared state: a load or a store of the running flag, a send on the channel or a take
from it, closing it, taking the handle on the worker under its lock, bumping a counter.

A producer's `execute` reads the flag, then sends its job unless the flag was clear or the
channel is closed, then counts the job as enqueued, or as dropped when it was refused. The worker
reads the flag at the head of each of its two loops; when it reads it set it takes the next job
and runs it, or parks when there is none; when it reads it clear it closes the channel, takes out
and counts what is still in it, and ends. A `stop` clears the flag, takes the handle, wakes the
worker, and waits for it to end unless it runs on the worker itself, inside a job.

A job is known by the number of the `execute` call that offered it. What a job does to the
application is left out: the worker only runs it, and the job returns or panics. The log records,
in order, the sends that succeeded, the calls refused, the jobs started and finished, the moment
the worker read the flag clear, and the jobs discarded at the end.
-/

namespace FrameLink

namespace Dispatch

inductive Phase where
  /-- At the head of the outer loop, after a park: the flag is read next. -/
  | tick
  | poll
  | receive
  /-- Running the job offered by call `job`. -/
  | busy (job : Nat)
  /-- The channel was empty: parked until woken or until the next tick. -/
  | parked
  /-- The flag was clear: the channel is closed next. -/
  | close
  /-- The channel is closed: what is still in it is taken out, `discarded` so far. -/
  | drain (discarded : Nat)
  | exited
deriving DecidableEq, Repr

inductive ExecuteStage where
  | load
  | send
  | count
  | reject
  | returned (accepted : Bool)
deriving DecidableEq, Repr

inductive StopStage where
  | clear
  | take
  | unpark
  | join
  | returned
deriving DecidableEq, Repr

/-- A call on the queue: an `execute`, or a `stop` made from a job on the worker (`onWorker`) or from
another thread. -/
inductive Caller where
  | execute (stage : ExecuteStage)
  | stop (onWorker : Bool) (stage : StopStage)
deriving DecidableEq, Repr

inductive Event where
  | sent (job : Nat)
  | refused (job : Nat)
  | started (job : Nat)
  | finished (job : Nat) (panicked : Bool)
  /-- The worker read the flag clear. -/
  | halted
  | discarded (job : Nat)
deriving DecidableEq, Repr

structure State where
  running : Bool
  channel : List Nat
  closed : Bool
  /-- Whether the handle on the worker is still there to be taken. -/
  handle : Bool
  phase : Phase
  stats : DispatchStats
  calls : List Caller
  log : List Event
deriving Repr

inductive Action where
  | execute
  /-- A thread calls `stop`: a job the worker runs, when `onWorker`. -/
  | stop (onWorker : Bool)
  | call (i : Nat)
  | work
  /-- The job the worker runs returns, or panics. -/
  | finish (panicked : Bool)
deriving DecidableEq, Repr

namespace State

/-- A queue just started: running, nothing sent, the worker at the head of its loop. -/
def init : State := ⟨true, [], false, true, .tick, {}, [], []⟩

@[simps]
def setCall (s : State) (i : Nat) (c : Caller) : State := { s with calls := s.calls.set i c }

@[simps]
def record (s : State) (e : Event) : State := { s with log := s.log ++ [e] }

def stepExecute (s : State) (i : Nat) : ExecuteStage → State
  | .load => s.setCall i (.execute (if s.running then .send else .reject))
  | .send =>
    if s.closed then s.setCall i (.execute .reject)
    else (({ s with channel := s.channel ++ [i] } : State).record (.sent i)).setCall i (.execute .count)
  | .count =>
    ({ s with stats := { s.stats with enqueued := s.stats.enqueued + 1 } } : State).setCall i
      (.execute (.returned true))
  | .reject =>
    (({ s with stats := { s.stats with dropped := s.stats.dropped + 1 } } : State).record
      (.refused i)).setCall i (.execute (.returned false))
  | .returned _ => s

def stepStop (s : State) (i : Nat) (onWorker : Bool) : StopStage → State
  | .clear => ({ s with running := false } : State).setCall i (.stop onWorker .take)
  | .take =>
    if s.handle then ({ s with handle := false } : State).setCall i (.stop onWorker .unpark)
    else s.setCall i (.stop onWorker .returned)
  | .unpark =>
    let s := if s.phase = .parked then { s with phase := .tick } else s
    -- a stop made by a job returns at once: waiting for the worker would wait for itself
    s.setCall i (.stop onWorker (if onWorker then .returned else .join))
  | .join => if s.phase = .exited then s.setCall i (.stop onWorker .returned) else s
  | .returned => s

/-- Read the flag at the head of a loop: go on to `next` while it is set. -/
def check (s : State) (next : Phase) : State :=
  if s.running then { s with phase := next } else ({ s with phase := .close } : State).record .halted

def stepWorker (s : State) : Phase → State
  | .tick => s.check .poll
  | .poll => s.check .receive
  | .receive =>
    match s.channel with
    | job :: rest => ({ s with channel := rest, phase := .busy job } : State).record (.started job)
    | [] => { s with phase := .parked }
  | .busy _ => s
  | .parked => { s with phase := .tick }
  | .close => { s with closed := true, phase := .drain 0 }
  | .drain n =>
    match s.channel with
    | job :: rest => ({ s with channel := rest, phase := .drain (n + 1) } : State).record (.discarded job)
    | [] => { s with phase := .exited, stats := { s.stats with dropped := s.stats.dropped + n } }
  | .exited => s

/-- One step. A step that does not fit the state (a call not made, no running job, a stop on the
worker while it runs none) changes nothing. -/
def step (s : State) : Action → State
  | .execute => { s with calls := s.calls ++ [.execute .load] }
  | .stop onWorker =>
    match onWorker, s.phase with
    | true, .busy _ | false, _ => { s with calls := s.calls ++ [.stop onWorker .clear] }
    | true, _ => s
  | .call i =>
    match s.calls[i]? with
    | some (.execute stage) => s.stepExecute i stage
    | some (.stop onWorker stage) => s.stepStop i onWorker stage
    | none => s
  | .work => s.stepWorker s.phase
  | .finish panicked =>
    match s.phase with
    | .busy job =>
      ({ s with
          phase := .poll
          stats := { s.stats with
            executed := s.stats.executed + 1
            panicked := s.stats.panicked + if panicked then 1 else 0 } } : State).record
        (.finished job panicked)
    | _ => s

def run (s : State) (actions : List Action) : State := actions.foldl step s

end State

end Dispatch

end FrameLink
