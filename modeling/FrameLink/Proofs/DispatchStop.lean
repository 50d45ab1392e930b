import FrameLink.Proofs.DispatchOrder

/-!
What a `stop` of the dispatch queue waits for. Only the `stop` that takes the handle on the worker
can wait for it; a `stop` made from another thread that takes it returns once the worker has ended,
and from then on no job runs or starts (`stop_that_takes_the_handle_waits`). The handle is there to
be taken once: a `stop` that finds it gone, because a concurrent `stop` or one made by a job took it
first, returns at once while the worker may still be running a job
(`second_stop_returns_while_a_job_runs`).
-/

namespace FrameLink

namespace Dispatch

namespace State

variable {s : State} {i : Nat}

theorem stepExecute_phase (stage : ExecuteStage) : (s.stepExecute i stage).phase = s.phase := by
  cases stage with
  | send =>
    simp only [stepExecute]
    split <;> rfl
  | load | count | reject | returned => rfl

theorem startedJobs_stepExecute (stage : ExecuteStage) :
    startedJobs (s.stepExecute i stage).log = startedJobs s.log := by
  cases stage with
  | send =>
    simp only [stepExecute]
    split
    · rfl
    · simp [Event.started?]
  | reject => simp [stepExecute, Event.started?]
  | load | count | returned => rfl

theorem stepStop_log (onWorker : Bool) (stage : StopStage) :
    (s.stepStop i onWorker stage).log = s.log := by
  cases stage with
  | take | join =>
    simp only [stepStop]
    split <;> rfl
  | unpark =>
    simp only [stepStop]
    split <;> rfl
  | clear | returned => rfl

theorem stepStop_phase_of_exited (onWorker : Bool) (stage : StopStage) (h : s.phase = .exited) :
    (s.stepStop i onWorker stage).phase = .exited := by
  cases stage with
  | take | join =>
    simp only [stepStop]
    split <;> exact h
  | unpark => simp [stepStop, h]
  | clear | returned => exact h

/-- A worker that has ended stays ended, and no job starts any more. -/
theorem step_of_exited (h : s.phase = .exited) (a : Action) :
    (s.step a).phase = .exited ∧ startedJobs (s.step a).log = startedJobs s.log := by
  cases a with
  | execute | work | finish => simp [step, stepWorker, h]
  | stop onWorker =>
    simp only [step]
    split <;> exact ⟨h, rfl⟩
  | call j =>
    simp only [step]
    split
    next stage _ => exact ⟨(stepExecute_phase stage).trans h, startedJobs_stepExecute stage⟩
    next onWorker stage _ =>
      exact ⟨stepStop_phase_of_exited onWorker stage h, by rw [stepStop_log]⟩
    next => exact ⟨h, rfl⟩

theorem run_of_exited (h : s.phase = .exited) (actions : List Action) :
    (s.run actions).phase = .exited ∧ startedJobs (s.run actions).log = startedJobs s.log := by
  induction actions generalizing s with
  | nil => exact ⟨h, rfl⟩
  | cons a actions ih =>
    obtain ⟨hphase, hstarted⟩ := step_of_exited h a
    obtain ⟨hphase', hstarted'⟩ := ih hphase
    exact ⟨hphase', hstarted'.trans hstarted⟩

theorem step_calls_of_ne {c : Caller} (hi : s.calls[i]? = some c) {a : Action}
    (ha : a ≠ .call i) : (s.step a).calls[i]? = some c := by
  have hlt : i < s.calls.length := (List.getElem?_eq_some_iff.1 hi).1
  cases a with
  | execute => simpa [step, List.getElem?_append_left hlt] using hi
  | stop onWorker =>
    simp only [step]
    split <;> simpa [List.getElem?_append_left hlt] using hi
  | call j =>
    have hne : j ≠ i := fun hj => ha (hj ▸ rfl)
    simp only [step]
    split
    next stage _ =>
      cases stage with
      | send =>
        simp only [stepExecute]
        split <;> simpa [List.getElem?_set_ne hne] using hi
      | load | count | reject | returned =>
        simpa [stepExecute, List.getElem?_set_ne hne] using hi
    next onWorker stage _ =>
      cases stage with
      | take | unpark | join =>
        simp only [stepStop]
        split <;> simpa [List.getElem?_set_ne hne] using hi
      | clear | returned => simpa [stepStop, List.getElem?_set_ne hne] using hi
    next => exact hi
  | work =>
    cases hp : s.phase with
    | receive | drain =>
      simp only [step, hp, stepWorker]
      split <;> exact hi
    | tick | poll => simp only [step, hp, stepWorker, check]; split <;> exact hi
    | busy | parked | close | exited => simpa [step, hp, stepWorker] using hi
  | finish panicked =>
    simp only [step]
    split <;> exact hi

end State

/-- Stop call `i`, made from another thread, has taken the handle: it is about to wake the worker,
it waits for it, or it has returned with the worker ended. -/
inductive Waiting (s : State) (i : Nat) : Prop
  | wakes : s.calls[i]? = some (.stop false .unpark) → Waiting s i
  | joins : s.calls[i]? = some (.stop false .join) → Waiting s i
  | returned : s.calls[i]? = some (.stop false .returned) → s.phase = .exited → Waiting s i

namespace Waiting

variable {s : State} {i : Nat}

/-- Its own step moves a waiting call on, to returning only once the worker has ended. -/
theorem step_self (h : Waiting s i) : Waiting (s.step (.call i)) i := by
  cases h with
  | wakes hi =>
    apply joins
    simp only [State.step, hi, State.stepStop]
    split <;> simp [(List.getElem?_eq_some_iff.1 hi).1]
  | joins hi =>
    simp only [State.step, hi, State.stepStop]
    split
    next hexited => exact returned (by simp [(List.getElem?_eq_some_iff.1 hi).1]) hexited
    next => exact joins hi
  | returned hi hexited =>
    simp only [State.step, hi, State.stepStop]
    exact returned hi hexited

theorem step (h : Waiting s i) (a : Action) : Waiting (s.step a) i := by
  by_cases ha : a = .call i
  · subst ha
    exact h.step_self
  · cases h with
    | wakes hi => exact wakes (State.step_calls_of_ne hi ha)
    | joins hi => exact joins (State.step_calls_of_ne hi ha)
    | returned hi hexited =>
      exact returned (State.step_calls_of_ne hi ha) (State.step_of_exited hexited a).1

theorem run (h : Waiting s i) (actions : List Action) : Waiting (s.run actions) i := by
  induction actions generalizing s with
  | nil => exact h
  | cons a actions ih => exact ih (h.step a)

/-- A waiting call that has returned did so with the worker ended. -/
theorem exited_of_returned (h : Waiting s i) (hi : s.calls[i]? = some (.stop false .returned)) :
    s.phase = .exited := by
  cases h with
  | wakes hi' | joins hi' =>
    rw [hi] at hi'
    cases hi'
  | returned _ hexited => exact hexited

end Waiting

theorem waiting_of_take {s : State} {i : Nat} (hi : s.calls[i]? = some (.stop false .take))
    (hhandle : s.handle = true) : Waiting (s.step (.call i)) i := by
  apply Waiting.wakes
  simp only [State.step, hi, State.stepStop]
  simp [hhandle, (List.getElem?_eq_some_iff.1 hi).1]

/-- A `stop` from another thread that takes the handle returns only once the worker has ended, and
from then on no job runs or starts. -/
theorem stop_that_takes_the_handle_waits (actions more : List Action) (i : Nat)
    (htake : (State.init.run actions).calls[i]? = some (.stop false .take))
    (hhandle : (State.init.run actions).handle = true)
    (hreturned :
      (State.init.run (actions ++ .call i :: more)).calls[i]? = some (.stop false .returned)) :
    let s := State.init.run (actions ++ .call i :: more)
    s.phase = .exited ∧
      ∀ later, (s.run later).phase.job? = none ∧ startedJobs (s.run later).log = startedJobs s.log := by
  intro s
  have hwaiting : Waiting s i := by
    have hs : s = ((State.init.run actions).step (.call i)).run more := by
      simp only [s, State.run_append, State.run, List.foldl_cons]
    rw [hs]
    exact (waiting_of_take htake hhandle).run more
  have hexited : s.phase = .exited := hwaiting.exited_of_returned hreturned
  refine ⟨hexited, fun later => ?_⟩
  obtain ⟨hphase, hstarted⟩ := State.run_of_exited hexited later
  exact ⟨by rw [hphase]; rfl, hstarted⟩

/-- A thread stops the queue while a job runs: the stop returns after the job and the worker end. -/
theorem stop_waits_for_the_running_job :
    (State.init.run [.execute, .call 0, .call 0, .call 0, .work, .work, .work, .stop false,
      .call 1]).calls[1]? = some (.stop false .take) ∧
    (State.init.run [.execute, .call 0, .call 0, .call 0, .work, .work, .work, .stop false,
      .call 1]).handle = true ∧
    (State.init.run ([.execute, .call 0, .call 0, .call 0, .work, .work, .work, .stop false,
      .call 1] ++ .call 1 :: [.call 1, .finish false, .work, .work, .work, .call 1])).calls[1]? =
      some (.stop false .returned) ∧
    let s := State.init.run ([.execute, .call 0, .call 0, .call 0, .work, .work, .work,
      .stop false, .call 1] ++ .call 1 :: [.call 1, .finish false, .work, .work, .work, .call 1])
    s.phase = .exited ∧
      ∀ later, (s.run later).phase.job? = none ∧ startedJobs (s.run later).log = startedJobs s.log :=
  ⟨rfl, rfl, rfl, stop_that_takes_the_handle_waits [.execute, .call 0, .call 0, .call 0, .work,
    .work, .work, .stop false, .call 1] [.call 1, .finish false, .work, .work, .work, .call 1] 1
    rfl rfl rfl⟩

/-- Two threads stop the queue while job 0 runs; the second finds the handle gone and returns at
once, with job 0 still running. -/
theorem second_stop_returns_while_a_job_runs :
    let s := State.init.run [.execute, .call 0, .call 0, .call 0, .work, .work, .work,
      .stop false, .call 1, .call 1, .call 1, .stop false, .call 2, .call 2]
    s.calls[2]? = some (.stop false .returned) ∧ s.phase.job? = some 0 ∧
      s.calls[1]? = some (.stop false .join) :=
  ⟨rfl, rfl, rfl⟩

end Dispatch

end FrameLink
