/-!
The dispatch queue: jobs run one at a time, on one worker, in the order they were accepted.
While the queue runs it accepts jobs; once stopped it refuses them. The worker checks that the
queue still runs before each job; when it finds it stopped it discards every job still waiting.
A job that fails is counted and does not stop the jobs after it. Counters record accepted,
executed, discarded and failed jobs.
-/

namespace FrameLink

structure DispatchStats where
  enqueued : Nat := 0
  executed : Nat := 0
  dropped : Nat := 0
  panicked : Nat := 0
deriving DecidableEq, Repr

/-- What running one job did besides changing the context: whether it failed or stopped the queue. -/
structure JobEffect where
  panicked : Bool := false
  stops : Bool := false
deriving DecidableEq, Repr

/-- A job of a server's or client's queue: the first binds the application, every other delivers one
event to it. -/
inductive DispatchJob (E : Type) where
  | bind
  | deliver (event : E)
deriving Repr

structure DispatchQueue (J : Type) where
  running : Bool
  pending : List J
  stats : DispatchStats
deriving Repr

namespace DispatchQueue

variable {J C : Type}

def start : DispatchQueue J := ⟨true, [], {}⟩

/-- Offer a job: a running queue accepts it at the end of the line, a stopped one refuses and
counts it as discarded. -/
def execute (q : DispatchQueue J) (job : J) : Bool × DispatchQueue J :=
  if q.running then
    (true, { q with pending := q.pending ++ [job], stats := { q.stats with enqueued := q.stats.enqueued + 1 } })
  else (false, { q with stats := { q.stats with dropped := q.stats.dropped + 1 } })

def executeAll (q : DispatchQueue J) : List J → List Bool × DispatchQueue J
  | [] => ([], q)
  | j :: rest =>
    let (ok, q) := q.execute j
    let (oks, q) := q.executeAll rest
    (ok :: oks, q)

def discardPending (q : DispatchQueue J) : DispatchQueue J :=
  { q with pending := [], stats := { q.stats with dropped := q.stats.dropped + q.pending.length } }

/-- Stop the queue: it refuses jobs from now on, and the worker discards what still waits. -/
def stop (q : DispatchQueue J) : DispatchQueue J :=
  ({ q with running := false } : DispatchQueue J).discardPending

/-- The worker's pass over the waiting jobs, each run through `run` against the context, until none
waits or the queue stops running, whereupon the rest is discarded. -/
def runJobs (run : J → C → C × JobEffect) : List J → Bool → DispatchStats → C → DispatchQueue J × C
  | [], running, stats, ctx => (⟨running, [], stats⟩, ctx)
  | job :: rest, running, stats, ctx =>
    if !running then
      (⟨running, [], { stats with dropped := stats.dropped + rest.length + 1 }⟩, ctx)
    else
      let (ctx, effect) := run job ctx
      let stats := { stats with
        executed := stats.executed + 1
        panicked := stats.panicked + (if effect.panicked then 1 else 0) }
      runJobs run rest (!effect.stops) stats ctx

/-- Let the worker run the waiting jobs against `ctx` until none waits or a job stops the queue. -/
def drain (run : J → C → C × JobEffect) (q : DispatchQueue J) (ctx : C) : DispatchQueue J × C :=
  runJobs run q.pending q.running q.stats ctx

end DispatchQueue

end FrameLink
