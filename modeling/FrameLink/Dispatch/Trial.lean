import FrameLink.Dispatch.Queue

/-!
A trial of the dispatch queue. A gate job holds the worker while the trial's jobs and a final
report job are queued, so that the counters can be read with everything waiting. Then either the
gate opens and the worker runs the jobs in order, or the queue is stopped while the gate still
holds the worker, so that everything behind the gate is discarded. At the end the queue is
stopped and more jobs are offered, which it refuses.

The jobs work on a list of numbers: a push appends its number, a failing job appends `-1` and
then fails, a thread check appends `1` when it runs on the worker and `0` elsewhere, and a stop
job appends the same mark and then stops the queue from inside the worker.
-/

namespace FrameLink

/-- Where code runs: the dispatch worker, or another thread. -/
inductive Thread where
  | worker
  | other
deriving DecidableEq, Repr

/-- The mark a thread check appends. -/
def Thread.mark : Thread → Int
  | .worker => 1
  | .other => 0

inductive TrialJob where
  /-- Holds the worker until the trial opens it. -/
  | gate
  | push (value : Int)
  | panic
  | checkThread
  | stop
  /-- Hands a copy of the list to the trial. -/
  | report
deriving DecidableEq, Repr

inductive TrialMode where
  /-- The gate opens and the worker runs the jobs. -/
  | normal
  /-- The queue is stopped while the gate holds the worker; then the gate opens. -/
  | stopWhileBusy
deriving DecidableEq, Repr

/-- What the worker's jobs share: the list, and the copy the report job handed over. -/
structure TrialContext where
  values : List Int
  report : Option (List Int)

def TrialJob.run : TrialJob → TrialContext → TrialContext × JobEffect
  | .gate, ctx => (ctx, {})
  | .push v, ctx => ({ ctx with values := ctx.values ++ [v] }, {})
  | .panic, ctx => ({ ctx with values := ctx.values ++ [-1] }, { panicked := true })
  | .checkThread, ctx => ({ ctx with values := ctx.values ++ [Thread.worker.mark] }, {})
  | .stop, ctx => ({ ctx with values := ctx.values ++ [Thread.worker.mark] }, { stops := true })
  | .report, ctx => ({ ctx with report := some ctx.values }, {})

/-- What a trial shows. -/
structure TrialOutcome where
  accepted : List Bool
  queuedStats : DispatchStats
  callerIsWorker : Bool
  report : Option (List Int)
  /-- Whether the queue still ran when the worker had finished. -/
  runningBeforeStop : Bool
  stats : DispatchStats
  /-- Whether each job offered after the final stop was accepted. -/
  afterStop : List Bool
  finalStats : DispatchStats

def trial (jobs : List TrialJob) (mode : TrialMode) (extra : Nat) : TrialOutcome :=
  let q : DispatchQueue TrialJob := .start
  let (accepted, q) := q.executeAll ([.gate] ++ jobs ++ [.report])
  let queuedStats := q.stats
  let ctx : TrialContext := ⟨[], none⟩
  let (q, ctx) := match mode with
    | .normal => q.drain TrialJob.run ctx
    | .stopWhileBusy =>
      match q.pending with
      | first :: rest =>
        let (ctx, _) := first.run ctx
        let q : DispatchQueue TrialJob :=
          { running := false, pending := rest, stats := { q.stats with executed := q.stats.executed + 1 } }
        (q.discardPending, ctx)
      | [] => (q.stop, ctx)
  let runningBeforeStop := q.running
  let stats := q.stats
  let q := q.stop
  let (afterStop, q) := q.executeAll (List.replicate extra (TrialJob.push 0))
  { accepted, queuedStats, callerIsWorker := Thread.other = Thread.worker, report := ctx.report,
    runningBeforeStop, stats, afterStop, finalStats := q.stats }

end FrameLink
