import FrameLink.Dispatch.Worker
import FrameLink.Proofs.SessionLifecycle
import Mathlib.Data.List.Nodup

/-!
Order and accounting of the dispatch queue, over every interleaving of producers, stop calls and
the worker. The log is read through its views: the jobs sent, refused, started, finished and
discarded. `Consistent` is what every reachable state satisfies: the channel is what was sent and
neither started nor discarded, in order; the jobs started are those finished and the one
running; a job is sent once; the worker starts nothing once it has read the flag clear; and the
counters agree with the log and with the calls that have passed each of their steps. Every
step keeps it (`Consistent.step`), so every run does, and `dispatch_order_and_accounting` reads
the queue's guarantees off it.
-/

namespace FrameLink

namespace Dispatch

namespace Event

def sent? : Event → Option Nat
  | .sent job => some job
  | _ => none

def refused? : Event → Option Nat
  | .refused job => some job
  | _ => none

def started? : Event → Option Nat
  | .started job => some job
  | _ => none

def finished? : Event → Option (Nat × Bool)
  | .finished job panicked => some (job, panicked)
  | _ => none

def discarded? : Event → Option Nat
  | .discarded job => some job
  | _ => none

end Event

namespace Phase

def job? : Phase → Option Nat
  | .busy job => some job
  | _ => none

/-- Whether the worker has not yet read the flag clear. -/
def live : Phase → Bool
  | .close | .drain _ | .exited => false
  | _ => true

def closing : Phase → Bool
  | .drain _ | .exited => true
  | _ => false

/-- How many jobs the worker has discarded, until it counts them as dropped and ends. -/
def drained? : Phase → Option Nat
  | .drain n => some n
  | .exited => none
  | _ => some 0

def idle : Phase → Bool
  | .tick | .poll | .receive | .parked => true
  | _ => false

end Phase

/-- The jobs sent, in the order the sends succeeded. -/
def sentJobs (log : List Event) : List Nat := log.filterMap Event.sent?

def refusedJobs (log : List Event) : List Nat := log.filterMap Event.refused?

/-- The jobs the worker took from the channel to run, in order. -/
def startedJobs (log : List Event) : List Nat := log.filterMap Event.started?

def finishedJobs (log : List Event) : List (Nat × Bool) := log.filterMap Event.finished?

/-- The jobs the worker took out of the closed channel without running them. -/
def discardedJobs (log : List Event) : List Nat := log.filterMap Event.discarded?

namespace Phase

variable {p : Phase}

theorem job?_of_idle (hp : p.idle = true) : p.job? = none := by
  cases p <;> simp_all [idle, job?]

theorem closing_of_idle (hp : p.idle = true) : p.closing = false := by
  cases p <;> simp_all [idle, closing]

theorem live_of_idle (hp : p.idle = true) : p.live = true := by
  cases p <;> simp_all [idle, live]

theorem drained?_of_idle (hp : p.idle = true) : p.drained? = some 0 := by
  cases p <;> simp_all [idle, drained?]

theorem ne_exited_of_idle (hp : p.idle = true) : p ≠ .exited := by
  rintro rfl
  cases hp

end Phase

/-- Whether a call is counted by the invariant: an `execute` whose job is in the channel or that has
returned. -/
def Caller.counted : Caller → Bool
  | .execute .count | .execute (.returned _) => true
  | _ => false

theorem count_set_add {α : Type} [DecidableEq α] {l : List α} {i : Nat} {a b x : α}
    (h : l[i]? = some a) :
    (l.set i b).count x + (if a = x then 1 else 0) = l.count x + (if b = x then 1 else 0) := by
  simpa only [List.count_eq_countP, beq_iff_eq] using
    Lifecycle.countP_set_add (p := (· == x)) (b := b) h

section Log

variable (log : List Event) (e : Event)

@[simp] theorem sentJobs_append : sentJobs (log ++ [e]) = sentJobs log ++ e.sent?.toList := by
  simp only [sentJobs, List.filterMap_append]
  cases e <;> rfl
@[simp] theorem refusedJobs_append :
    refusedJobs (log ++ [e]) = refusedJobs log ++ e.refused?.toList := by
  simp only [refusedJobs, List.filterMap_append]
  cases e <;> rfl
@[simp] theorem startedJobs_append :
    startedJobs (log ++ [e]) = startedJobs log ++ e.started?.toList := by
  simp only [startedJobs, List.filterMap_append]
  cases e <;> rfl
@[simp] theorem finishedJobs_append :
    finishedJobs (log ++ [e]) = finishedJobs log ++ e.finished?.toList := by
  simp only [finishedJobs, List.filterMap_append]
  cases e <;> rfl
@[simp] theorem discardedJobs_append :
    discardedJobs (log ++ [e]) = discardedJobs log ++ e.discarded?.toList := by
  simp only [discardedJobs, List.filterMap_append]
  cases e <;> rfl

end Log

theorem count_append_of_uncounted {l : List Caller} {c x : Caller} (hc : c.counted = false)
    (hx : x.counted = true) : (l ++ [c]).count x = l.count x := by
  have hne : c ≠ x := by
    rintro rfl
    rw [hc] at hx
    cases hx
  simp [List.count_append, hne]

theorem count_set_of_uncounted {l : List Caller} {i : Nat} {c c' x : Caller} (hi : l[i]? = some c)
    (hc : c.counted = false) (hc' : c'.counted = false) (hx : x.counted = true) :
    (l.set i c').count x = l.count x := by
  have hne : ∀ d : Caller, d.counted = false → (d == x) = false := by
    intro d hd
    rw [beq_eq_false_iff_ne]
    rintro rfl
    rw [hd] at hx
    cases hx
  rw [List.count_eq_countP, List.count_eq_countP]
  exact Lifecycle.countP_set_of_eq hi (by rw [hne c hc, hne c' hc'])

/-- Every job started before the worker read the flag clear. -/
def StartsBeforeHalt (log : List Event) : Prop :=
  ∀ i k j : Nat, log[i]? = some Event.halted → log[k]? = some (Event.started j) → k < i

theorem StartsBeforeHalt.append {log : List Event} (h : StartsBeforeHalt log) {e : Event}
    (he : ∀ j, e = .started j → Event.halted ∉ log) : StartsBeforeHalt (log ++ [e]) := by
  intro i k j hi hk
  have hilt : i < log.length + 1 := by simpa using (List.getElem?_eq_some_iff.1 hi).1
  have hklt : k < log.length + 1 := by simpa using (List.getElem?_eq_some_iff.1 hk).1
  rcases Nat.lt_or_ge i log.length with hi' | hi'
  · rcases Nat.lt_or_ge k log.length with hk' | hk'
    · rw [List.getElem?_append_left hi'] at hi
      rw [List.getElem?_append_left hk'] at hk
      exact h i k j hi hk
    · have hk'' : k = log.length := by omega
      subst hk''
      simp only [List.getElem?_append_right (Nat.le_refl _), Nat.sub_self,
        List.getElem?_cons_zero, Option.some.injEq] at hk
      rw [List.getElem?_append_left hi'] at hi
      exact absurd (List.mem_of_getElem? hi) (he j hk)
  · have hi'' : i = log.length := by omega
    subst hi''
    rcases Nat.lt_or_ge k log.length with hk' | hk'
    · exact hk'
    · have hk'' : k = log.length := by omega
      subst hk''
      rw [hi] at hk
      cases hk

/-- What holds in every state the queue's threads can reach. -/
structure Consistent (s : State) : Prop where
  /-- The channel holds the jobs sent and neither started nor discarded, in order. -/
  fifo : sentJobs s.log = startedJobs s.log ++ discardedJobs s.log ++ s.channel
  /-- One job at a time: every job started has finished, in order, but the one running. -/
  serial : startedJobs s.log = (finishedJobs s.log).map Prod.fst ++ s.phase.job?.toList
  sentCalls : ∀ j ∈ sentJobs s.log,
    s.calls[j]? = some (.execute .count) ∨ s.calls[j]? = some (.execute (.returned true))
  nodup : (sentJobs s.log).Nodup
  closed : s.closed = s.phase.closing
  quiet : s.phase.live = true → Event.halted ∉ s.log
  startedFirst : StartsBeforeHalt s.log
  drained : ∀ n, s.phase.drained? = some n → (discardedJobs s.log).length = n
  emptied : s.phase = .exited → s.channel = []
  executed : s.stats.executed = (finishedJobs s.log).length
  panicked : s.stats.panicked = ((finishedJobs s.log).filter (·.2)).length
  enqueued : s.stats.enqueued = s.calls.count (.execute (.returned true))
  /-- A job is sent by a call that counts it next, or has counted it. -/
  sentCount : (sentJobs s.log).length =
    s.calls.count (.execute .count) + s.calls.count (.execute (.returned true))
  refusedCount : (refusedJobs s.log).length = s.calls.count (.execute (.returned false))
  /-- The discarded jobs are counted as dropped when the worker ends. -/
  dropped : s.stats.dropped =
    (refusedJobs s.log).length + if s.phase = .exited then (discardedJobs s.log).length else 0

namespace Consistent

variable {s : State}

theorem init : Consistent State.init where
  fifo := rfl
  serial := rfl
  sentCalls := by simp [State.init, sentJobs]
  nodup := List.nodup_nil
  closed := rfl
  quiet := by simp [State.init]
  startedFirst := by simp [State.init, StartsBeforeHalt]
  drained := by simp [State.init, discardedJobs, Phase.drained?]
  emptied := by simp [State.init]
  executed := rfl
  panicked := rfl
  enqueued := rfl
  sentCount := rfl
  refusedCount := rfl
  dropped := rfl

theorem of_frame (h : Consistent s) {s' : State} (hlog : s'.log = s.log)
    (hchannel : s'.channel = s.channel) (hclosed : s'.closed = s.closed)
    (hphase : s'.phase = s.phase) (hstats : s'.stats = s.stats) (hcalls : s'.calls = s.calls) :
    Consistent s' := by
  obtain ⟨running, channel, closed, handle, phase, stats, calls, log⟩ := s
  obtain ⟨running', channel', closed', handle', phase', stats', calls', log'⟩ := s'
  simp only at hlog hchannel hclosed hphase hstats hcalls
  subst hlog hchannel hclosed hphase hstats hcalls
  exact ⟨h.1, h.2, h.3, h.4, h.5, h.6, h.7, h.8, h.9, h.10, h.11, h.12, h.13, h.14, h.15⟩

/-- The worker moves between two phases in which it runs nothing and has not read the flag clear. -/
theorem setPhase (h : Consistent s) {q : Phase} (hp : s.phase.idle = true) (hq : q.idle = true) :
    Consistent { s with phase := q } where
  fifo := h.fifo
  serial := by
    rw [Phase.job?_of_idle hq]
    simpa [Phase.job?_of_idle hp] using h.serial
  sentCalls := h.sentCalls
  nodup := h.nodup
  closed := by rw [Phase.closing_of_idle hq, h.closed, Phase.closing_of_idle hp]
  quiet := fun _ => h.quiet (Phase.live_of_idle hp)
  startedFirst := h.startedFirst
  drained := by
    rw [Phase.drained?_of_idle hq]
    rintro n ⟨⟩
    exact h.drained 0 (Phase.drained?_of_idle hp)
  emptied := fun hex => absurd hex (Phase.ne_exited_of_idle hq)
  executed := h.executed
  panicked := h.panicked
  enqueued := h.enqueued
  sentCount := h.sentCount
  refusedCount := h.refusedCount
  dropped := by
    simpa [Phase.ne_exited_of_idle hp, Phase.ne_exited_of_idle hq] using h.dropped


theorem not_mem_sentJobs (h : Consistent s) {i : Nat} {c : Caller} (hi : s.calls[i]? = some c)
    (hc : c.counted = false) : i ∉ sentJobs s.log := by
  intro hmem
  rcases h.sentCalls i hmem with hsent | hsent <;> rw [hi] at hsent <;> cases hsent <;> cases hc

theorem addCall (h : Consistent s) {c : Caller} (hc : c.counted = false) :
    Consistent { s with calls := s.calls ++ [c] } where
  fifo := h.fifo
  serial := h.serial
  sentCalls := fun j hj => by
    have hlt : j < s.calls.length := by
      rcases h.sentCalls j hj with hj' | hj' <;> exact (List.getElem?_eq_some_iff.1 hj').1
    simpa only [List.getElem?_append_left hlt] using h.sentCalls j hj
  nodup := h.nodup
  closed := h.closed
  quiet := h.quiet
  startedFirst := h.startedFirst
  drained := h.drained
  emptied := h.emptied
  executed := h.executed
  panicked := h.panicked
  enqueued := by
    simpa only [count_append_of_uncounted (x := .execute (.returned true)) hc rfl] using h.enqueued
  sentCount := by
    simpa only [count_append_of_uncounted (x := .execute .count) hc rfl,
      count_append_of_uncounted (x := .execute (.returned true)) hc rfl] using h.sentCount
  refusedCount := by
    simpa only [count_append_of_uncounted (x := .execute (.returned false)) hc rfl]
      using h.refusedCount
  dropped := h.dropped

theorem setCall_uncounted (h : Consistent s) {i : Nat} {c c' : Caller}
    (hi : s.calls[i]? = some c) (hc : c.counted = false) (hc' : c'.counted = false) :
    Consistent (s.setCall i c') where
  fifo := h.fifo
  serial := h.serial
  sentCalls := fun j hj => by
    have hne : i ≠ j := fun hij => h.not_mem_sentJobs hi hc (hij ▸ hj)
    simpa only [State.setCall, List.getElem?_set_ne hne] using h.sentCalls j hj
  nodup := h.nodup
  closed := h.closed
  quiet := h.quiet
  startedFirst := h.startedFirst
  drained := h.drained
  emptied := h.emptied
  executed := h.executed
  panicked := h.panicked
  enqueued := by
    simpa only [State.setCall,
      count_set_of_uncounted (x := .execute (.returned true)) hi hc hc' rfl] using h.enqueued
  sentCount := by
    simpa only [State.setCall, count_set_of_uncounted (x := .execute .count) hi hc hc' rfl,
      count_set_of_uncounted (x := .execute (.returned true)) hi hc hc' rfl] using h.sentCount
  refusedCount := by
    simpa only [State.setCall,
      count_set_of_uncounted (x := .execute (.returned false)) hi hc hc' rfl] using h.refusedCount
  dropped := h.dropped

theorem send (h : Consistent s) {i : Nat} (hi : s.calls[i]? = some (.execute .send))
    (hclosed : s.closed = false) :
    Consistent ((({ s with channel := s.channel ++ [i] } : State).record (.sent i)).setCall i
      (.execute .count)) := by
  have hfresh : i ∉ sentJobs s.log := h.not_mem_sentJobs hi rfl
  have hlen : i < s.calls.length := (List.getElem?_eq_some_iff.1 hi).1
  have hcount := count_set_add (x := .execute .count) (b := .execute .count) hi
  have hreturned := count_set_add (x := .execute (.returned true)) (b := .execute .count) hi
  have hrefused := count_set_add (x := .execute (.returned false)) (b := .execute .count) hi
  simp only [Caller.execute.injEq, reduceCtorEq, if_true, if_false, Nat.add_zero]
    at hcount hreturned hrefused
  constructor
  case fifo => simp [Event.sent?, Event.started?, Event.discarded?, h.fifo]
  case serial => simpa [Event.started?, Event.finished?] using h.serial
  case sentCalls =>
    simp only [State.setCall_log, State.record_log, sentJobs_append, Event.sent?,
      Option.toList_some, List.mem_append, List.mem_singleton]
    rintro j (hj | rfl)
    · have hne : i ≠ j := fun hij => hfresh (hij ▸ hj)
      simpa [List.getElem?_set_ne hne] using h.sentCalls j hj
    · simp [hlen]
  case nodup =>
    have := List.Nodup.concat hfresh h.nodup
    rw [List.concat_eq_append] at this
    simpa [Event.sent?] using this
  case closed => simpa using h.closed
  case quiet => simpa using h.quiet
  case startedFirst => exact h.startedFirst.append (fun _ he => by cases he)
  case drained => simpa [Event.discarded?] using h.drained
  case emptied =>
    intro hex
    simp only [State.setCall_phase, State.record_phase] at hex
    have := h.closed
    simp [hex, Phase.closing, hclosed] at this
  case executed => simpa [Event.finished?] using h.executed
  case panicked => simpa [Event.finished?] using h.panicked
  case enqueued => simpa [hreturned] using h.enqueued
  case sentCount =>
    simp only [State.setCall_log, State.record_log, sentJobs_append, Event.sent?,
      Option.toList_some, List.length_append, List.length_singleton, State.setCall_calls,
      State.record_calls]
    have := h.sentCount
    omega
  case refusedCount => simpa [Event.refused?, hrefused] using h.refusedCount
  case dropped => simpa [Event.refused?, Event.discarded?] using h.dropped

theorem enqueue (h : Consistent s) {i : Nat} (hi : s.calls[i]? = some (.execute .count)) :
    Consistent (({ s with stats := { s.stats with enqueued := s.stats.enqueued + 1 } } :
      State).setCall i (.execute (.returned true))) := by
  have hlen : i < s.calls.length := (List.getElem?_eq_some_iff.1 hi).1
  have hcount := count_set_add (x := .execute .count) (b := .execute (.returned true)) hi
  have hreturned :=
    count_set_add (x := .execute (.returned true)) (b := .execute (.returned true)) hi
  have hrefused :=
    count_set_add (x := .execute (.returned false)) (b := .execute (.returned true)) hi
  simp only [reduceCtorEq, if_true, if_false, Nat.add_zero, Caller.execute.injEq,
    ExecuteStage.returned.injEq, Bool.true_eq_false] at hcount hreturned hrefused
  constructor
  case fifo => simpa using h.fifo
  case serial => simpa using h.serial
  case sentCalls =>
    intro j hj
    by_cases hij : i = j
    · subst hij
      simp [hlen]
    · simpa [List.getElem?_set_ne hij] using h.sentCalls j hj
  case nodup => simpa using h.nodup
  case closed => simpa using h.closed
  case quiet => simpa using h.quiet
  case startedFirst => simpa using h.startedFirst
  case drained => simpa using h.drained
  case emptied => simpa using h.emptied
  case executed => simpa using h.executed
  case panicked => simpa using h.panicked
  case enqueued =>
    simp only [State.setCall_stats, State.setCall_calls]
    have := h.enqueued
    omega
  case sentCount =>
    simp only [State.setCall_log, State.setCall_calls]
    have := h.sentCount
    omega
  case refusedCount => simpa [hrefused] using h.refusedCount
  case dropped => simpa using h.dropped

theorem refuse (h : Consistent s) {i : Nat} (hi : s.calls[i]? = some (.execute .reject)) :
    Consistent ((({ s with stats := { s.stats with dropped := s.stats.dropped + 1 } } :
      State).record (.refused i)).setCall i (.execute (.returned false))) := by
  have hcount := count_set_add (x := .execute .count) (b := .execute (.returned false)) hi
  have hreturned :=
    count_set_add (x := .execute (.returned true)) (b := .execute (.returned false)) hi
  have hrefused :=
    count_set_add (x := .execute (.returned false)) (b := .execute (.returned false)) hi
  simp only [reduceCtorEq, if_true, if_false, Nat.add_zero, Caller.execute.injEq,
    ExecuteStage.returned.injEq, Bool.false_eq_true] at hcount hreturned hrefused
  constructor
  case fifo => simpa [Event.sent?, Event.started?, Event.discarded?] using h.fifo
  case serial => simpa [Event.started?, Event.finished?] using h.serial
  case sentCalls =>
    intro j hj
    have hj' : j ∈ sentJobs s.log := by simpa [Event.sent?] using hj
    have hne : i ≠ j := fun hij => h.not_mem_sentJobs hi rfl (hij ▸ hj')
    simpa [List.getElem?_set_ne hne] using h.sentCalls j hj'
  case nodup => simpa [Event.sent?] using h.nodup
  case closed => simpa using h.closed
  case quiet => simpa using h.quiet
  case startedFirst => exact h.startedFirst.append (fun _ he => by cases he)
  case drained => simpa [Event.discarded?] using h.drained
  case emptied => simpa using h.emptied
  case executed => simpa [Event.finished?] using h.executed
  case panicked => simpa [Event.finished?] using h.panicked
  case enqueued => simpa [hreturned] using h.enqueued
  case sentCount => simpa [Event.sent?, hcount, hreturned] using h.sentCount
  case refusedCount =>
    simp only [State.setCall_log, State.record_log, refusedJobs_append, Event.refused?,
      Option.toList_some, List.length_append, List.length_singleton, State.setCall_calls,
      State.record_calls]
    have := h.refusedCount
    omega
  case dropped =>
    simp only [State.setCall_log, State.record_log, refusedJobs_append, Event.refused?,
      Option.toList_some, List.length_append, List.length_singleton, State.setCall_stats,
      State.setCall_phase, State.record_stats, State.record_phase, discardedJobs_append,
      Event.discarded?, Option.toList_none, List.append_nil]
    have := h.dropped
    omega

theorem check (h : Consistent s) {q : Phase} (hp : s.phase.idle = true) (hq : q.idle = true) :
    Consistent (s.check q) := by
  unfold State.check
  split
  · exact h.setPhase hp hq
  · constructor
    case fifo => simpa [Event.sent?, Event.started?, Event.discarded?] using h.fifo
    case serial =>
      have hserial := h.serial
      rw [Phase.job?_of_idle hp] at hserial
      simpa [Event.started?, Event.finished?, Phase.job?] using hserial
    case sentCalls => simpa [Event.sent?] using h.sentCalls
    case nodup => simpa [Event.sent?] using h.nodup
    case closed =>
      have hclosed := h.closed
      rw [Phase.closing_of_idle hp] at hclosed
      simpa [Phase.closing] using hclosed
    case quiet => simp [Phase.live]
    case startedFirst => exact h.startedFirst.append (fun _ he => by cases he)
    case drained =>
      simpa [Event.discarded?, Phase.drained?] using h.drained 0 (Phase.drained?_of_idle hp)
    case emptied => simp
    case executed => simpa [Event.finished?] using h.executed
    case panicked => simpa [Event.finished?] using h.panicked
    case enqueued => simpa using h.enqueued
    case sentCount => simpa [Event.sent?] using h.sentCount
    case refusedCount => simpa [Event.refused?] using h.refusedCount
    case dropped =>
      simpa [Event.refused?, Event.discarded?, Phase.ne_exited_of_idle hp] using h.dropped

theorem start (h : Consistent s) {job : Nat} {rest : List Nat} (hp : s.phase = .receive)
    (hchannel : s.channel = job :: rest) :
    Consistent (({ s with channel := rest, phase := .busy job } : State).record
      (.started job)) := by
  have hnone : discardedJobs s.log = [] :=
    List.eq_nil_of_length_eq_zero (h.drained 0 (by simp [hp, Phase.drained?]))
  have hlive : Event.halted ∉ s.log := h.quiet (by simp [hp, Phase.live])
  constructor
  case fifo =>
    simpa [Event.sent?, Event.started?, Event.discarded?, hnone, hchannel] using h.fifo
  case serial => simpa [Event.started?, Event.finished?, Phase.job?, hp] using h.serial
  case sentCalls => simpa [Event.sent?] using h.sentCalls
  case nodup => simpa [Event.sent?] using h.nodup
  case closed => simpa [Phase.closing, hp] using h.closed
  case quiet =>
    intro _
    simpa using hlive
  case startedFirst =>
    exact h.startedFirst.append (fun _ _ => hlive)
  case drained => simp [Event.discarded?, Phase.drained?, hnone]
  case emptied => simp
  case executed => simpa [Event.finished?] using h.executed
  case panicked => simpa [Event.finished?] using h.panicked
  case enqueued => simpa using h.enqueued
  case sentCount => simpa [Event.sent?] using h.sentCount
  case refusedCount => simpa [Event.refused?] using h.refusedCount
  case dropped => simpa [Event.refused?, Event.discarded?, hp] using h.dropped

/-- The job the worker runs returns or panics; either way the worker goes back to its inner loop. -/
theorem finish (h : Consistent s) {job : Nat} (panicked : Bool) (hp : s.phase = .busy job) :
    Consistent (({ s with
        phase := .poll
        stats := { s.stats with
          executed := s.stats.executed + 1
          panicked := s.stats.panicked + if panicked then 1 else 0 } } : State).record
      (.finished job panicked)) := by
  have hlive : Event.halted ∉ s.log := h.quiet (by simp [hp, Phase.live])
  constructor
  case fifo => simpa [Event.sent?, Event.started?, Event.discarded?] using h.fifo
  case serial => simpa [Event.started?, Event.finished?, Phase.job?, hp] using h.serial
  case sentCalls => simpa [Event.sent?] using h.sentCalls
  case nodup => simpa [Event.sent?] using h.nodup
  case closed => simpa [Phase.closing, hp] using h.closed
  case quiet =>
    intro _
    simpa using hlive
  case startedFirst => exact h.startedFirst.append (fun _ he => by cases he)
  case drained => simpa [Event.discarded?, Phase.drained?, hp] using h.drained
  case emptied => simp
  case executed => simpa [Event.finished?] using h.executed
  case panicked => cases panicked <;> simpa [Event.finished?] using h.panicked
  case enqueued => simpa using h.enqueued
  case sentCount => simpa [Event.sent?] using h.sentCount
  case refusedCount => simpa [Event.refused?] using h.refusedCount
  case dropped => simpa [Event.refused?, Event.discarded?, hp] using h.dropped

theorem close (h : Consistent s) (hp : s.phase = .close) :
    Consistent { s with closed := true, phase := .drain 0 } where
  fifo := h.fifo
  serial := by simpa [Phase.job?, hp] using h.serial
  sentCalls := h.sentCalls
  nodup := h.nodup
  closed := rfl
  quiet := by simp [Phase.live]
  startedFirst := h.startedFirst
  drained := by simpa [Phase.drained?, hp] using h.drained
  emptied := by simp
  executed := h.executed
  panicked := h.panicked
  enqueued := h.enqueued
  sentCount := h.sentCount
  refusedCount := h.refusedCount
  dropped := by simpa [hp] using h.dropped

theorem discard (h : Consistent s) {n job : Nat} {rest : List Nat} (hp : s.phase = .drain n)
    (hchannel : s.channel = job :: rest) :
    Consistent (({ s with channel := rest, phase := .drain (n + 1) } : State).record
      (.discarded job)) := by
  constructor
  case fifo =>
    simpa [Event.sent?, Event.started?, Event.discarded?, hchannel] using h.fifo
  case serial => simpa [Event.started?, Event.finished?, Phase.job?, hp] using h.serial
  case sentCalls => simpa [Event.sent?] using h.sentCalls
  case nodup => simpa [Event.sent?] using h.nodup
  case closed => simpa [Phase.closing, hp] using h.closed
  case quiet => simp [Phase.live]
  case startedFirst => exact h.startedFirst.append (fun _ he => by cases he)
  case drained => simpa [Event.discarded?, Phase.drained?, hp] using h.drained
  case emptied => simp
  case executed => simpa [Event.finished?] using h.executed
  case panicked => simpa [Event.finished?] using h.panicked
  case enqueued => simpa using h.enqueued
  case sentCount => simpa [Event.sent?] using h.sentCount
  case refusedCount => simpa [Event.refused?] using h.refusedCount
  case dropped => simpa [Event.refused?, Event.discarded?, hp] using h.dropped

theorem exit (h : Consistent s) {n : Nat} (hp : s.phase = .drain n) (hchannel : s.channel = []) :
    Consistent { s with phase := .exited, stats := { s.stats with dropped := s.stats.dropped + n } }
    where
  fifo := h.fifo
  serial := by simpa [Phase.job?, hp] using h.serial
  sentCalls := h.sentCalls
  nodup := h.nodup
  closed := by simpa [Phase.closing, hp] using h.closed
  quiet := by simp [Phase.live]
  startedFirst := h.startedFirst
  drained := by simp [Phase.drained?]
  emptied := fun _ => hchannel
  executed := h.executed
  panicked := h.panicked
  enqueued := h.enqueued
  sentCount := h.sentCount
  refusedCount := h.refusedCount
  dropped := by
    have hdrained := h.drained n (by simp [hp, Phase.drained?])
    have hdropped := h.dropped
    simp only [hp, reduceCtorEq, if_false, Nat.add_zero] at hdropped
    simp only [if_true]
    omega

theorem stepExecute (h : Consistent s) {i : Nat} {stage : ExecuteStage}
    (hi : s.calls[i]? = some (.execute stage)) : Consistent (s.stepExecute i stage) := by
  cases stage with
  | load => exact h.setCall_uncounted hi rfl (by split <;> rfl)
  | send =>
    simp only [State.stepExecute]
    split
    next => exact h.setCall_uncounted hi rfl rfl
    next hclosed => exact h.send hi (by simpa using hclosed)
  | count => exact h.enqueue hi
  | reject => exact h.refuse hi
  | returned => exact h

/-- A step of a `stop` call: the flag, the handle and waking the worker are outside the invariant. -/
theorem stepStop (h : Consistent s) {i : Nat} {onWorker : Bool} {stage : StopStage}
    (hi : s.calls[i]? = some (.stop onWorker stage)) :
    Consistent (s.stepStop i onWorker stage) := by
  cases stage with
  | clear =>
    have hframe : Consistent { s with running := false } := h.of_frame rfl rfl rfl rfl rfl rfl
    exact hframe.setCall_uncounted hi rfl rfl
  | take =>
    simp only [State.stepStop]
    split
    next =>
      have hframe : Consistent { s with handle := false } := h.of_frame rfl rfl rfl rfl rfl rfl
      exact hframe.setCall_uncounted hi rfl rfl
    next => exact h.setCall_uncounted hi rfl rfl
  | unpark =>
    simp only [State.stepStop]
    split
    next hp => exact (h.setPhase (by simp [hp, Phase.idle]) rfl).setCall_uncounted hi rfl rfl
    next => exact h.setCall_uncounted hi rfl rfl
  | join =>
    simp only [State.stepStop]
    split
    next => exact h.setCall_uncounted hi rfl rfl
    next => exact h
  | returned => exact h

theorem stepWorker (h : Consistent s) : Consistent (s.stepWorker s.phase) := by
  cases hp : s.phase with
  | tick => exact h.check (by simp [hp, Phase.idle]) rfl
  | poll => exact h.check (by simp [hp, Phase.idle]) rfl
  | receive =>
    simp only [State.stepWorker]
    split
    next job rest hchannel => exact h.start hp hchannel
    next => exact h.setPhase (by simp [hp, Phase.idle]) rfl
  | busy => exact h
  | parked => exact h.setPhase (by simp [hp, Phase.idle]) rfl
  | close => exact h.close hp
  | drain n =>
    simp only [State.stepWorker]
    split
    next job rest hchannel => exact h.discard hp hchannel
    next hchannel => exact h.exit hp hchannel
  | exited => exact h

theorem step (h : Consistent s) (a : Action) : Consistent (s.step a) := by
  cases a with
  | execute => exact h.addCall rfl
  | stop onWorker =>
    simp only [State.step]
    split
    next => exact h.addCall rfl
    next => exact h.addCall rfl
    next => exact h
  | call i =>
    simp only [State.step]
    split
    next stage hi => exact h.stepExecute hi
    next onWorker stage hi => exact h.stepStop hi
    next => exact h
  | work => exact h.stepWorker
  | finish panicked =>
    simp only [State.step]
    split
    next job hp => exact h.finish panicked hp
    next => exact h

theorem run (h : Consistent s) (actions : List Action) : Consistent (s.run actions) := by
  induction actions generalizing s with
  | nil => exact h
  | cons a actions ih => exact ih (h.step a)

/-- Once the worker has ended and every `execute` has returned, every job sent ran or was discarded,
and the counters account for each. -/
theorem settled (h : Consistent s) (hexited : s.phase = .exited)
    (hreturned : ∀ stage, Caller.execute stage ∈ s.calls → ∃ b, stage = .returned b) :
    sentJobs s.log = (finishedJobs s.log).map Prod.fst ++ discardedJobs s.log ∧
      s.stats.enqueued = s.stats.executed + (discardedJobs s.log).length ∧
      s.stats.dropped =
        s.calls.count (.execute (.returned false)) + (discardedJobs s.log).length := by
  have hsent : sentJobs s.log = (finishedJobs s.log).map Prod.fst ++ discardedJobs s.log := by
    rw [h.fifo, h.serial, h.emptied hexited, hexited]
    simp [Phase.job?]
  have hcounting : s.calls.count (.execute .count) = 0 := by
    refine List.count_eq_zero.2 fun hmem => ?_
    obtain ⟨b, hb⟩ := hreturned .count hmem
    cases hb
  refine ⟨hsent, ?_, ?_⟩
  · have hlength := congrArg List.length hsent
    have := h.sentCount
    simp only [List.length_append, List.length_map] at hlength
    rw [h.enqueued, h.executed]
    omega
  · rw [h.dropped, h.refusedCount, if_pos hexited]

end Consistent

namespace State

theorem run_append (s : State) (as bs : List Action) : s.run (as ++ bs) = (s.run as).run bs :=
  List.foldl_append

theorem finish_then_start (s : State) {j job : Nat} {rest : List Nat} (panicked : Bool)
    (hp : s.phase = .busy j) (hrunning : s.running = true) (hchannel : s.channel = job :: rest) :
    let t := s.run [.finish panicked, .work, .work]
    t.phase = .busy job ∧ t.running = true ∧ t.channel = rest ∧
      t.log = s.log ++ [.finished j panicked, .started job] := by
  simp [run, step, hp, stepWorker, check, hrunning, hchannel]

/-- A worker that keeps finding the flag set runs every job waiting in the channel, in order,
whether the jobs return or panic. -/
theorem start_waiting_jobs (s : State) (j : Nat) (panics : List Bool) (hp : s.phase = .busy j)
    (hrunning : s.running = true) (hlength : panics.length = s.channel.length) :
    startedJobs (s.run (panics.flatMap fun panicked => [.finish panicked, .work, .work])).log =
      startedJobs s.log ++ s.channel := by
  induction panics generalizing s j with
  | nil =>
    have hchannel : s.channel = [] := List.eq_nil_of_length_eq_zero hlength.symm
    simp [run, hchannel]
  | cons panicked panics ih =>
    obtain ⟨job, rest, hchannel⟩ : ∃ job rest, s.channel = job :: rest :=
      List.exists_cons_of_length_eq_add_one hlength.symm
    obtain ⟨hp', hrunning', hchannel', hlog⟩ :=
      s.finish_then_start panicked hp hrunning hchannel
    have hlength' : panics.length = (s.run [.finish panicked, .work, .work]).channel.length := by
      simpa [hchannel', hchannel] using hlength
    rw [List.flatMap_cons, run_append, ih _ job hp' hrunning' hlength', hlog, hchannel', hchannel]
    simp [startedJobs, List.filterMap_cons, Event.started?]

end State

/-- Jobs run one at a time, in the order their sends succeeded, each at most once; none starts once
the worker has read the flag clear; the counters account for every job. -/
theorem dispatch_order_and_accounting (actions : List Action) :
    let s := State.init.run actions
    (startedJobs s.log <+: sentJobs s.log ∧ (sentJobs s.log).Nodup ∧
      startedJobs s.log = (finishedJobs s.log).map Prod.fst ++ s.phase.job?.toList) ∧
    (sentJobs s.log = startedJobs s.log ++ discardedJobs s.log ++ s.channel ∧
      ∀ (j : Nat) (panics : List Bool), s.phase = .busy j → s.running = true →
        panics.length = s.channel.length →
        startedJobs (s.run (panics.flatMap fun panicked => [.finish panicked, .work, .work])).log =
          startedJobs s.log ++ s.channel) ∧
    StartsBeforeHalt s.log ∧
    (s.phase = .exited →
      (∀ stage, Caller.execute stage ∈ s.calls → ∃ b, stage = .returned b) →
      sentJobs s.log = (finishedJobs s.log).map Prod.fst ++ discardedJobs s.log ∧
      s.stats.enqueued = s.stats.executed + (discardedJobs s.log).length ∧
      s.stats.dropped =
        s.calls.count (.execute (.returned false)) + (discardedJobs s.log).length) := by
  intro s
  have h : Consistent s := Consistent.init.run actions
  refine ⟨⟨⟨discardedJobs s.log ++ s.channel, ?_⟩, h.nodup, h.serial⟩,
    ⟨h.fifo, fun j panics hp hrunning hlength =>
      s.start_waiting_jobs j panics hp hrunning hlength⟩,
    h.startedFirst, fun hexited hreturned => ?_⟩
  · rw [h.fifo, List.append_assoc]
  · exact h.settled hexited hreturned

/-- A job stops the queue while a second waits: the worker finishes the first, discards the second
and ends. -/
theorem stop_from_a_job_accounts :
    let s := State.init.run [.execute, .call 0, .call 0, .call 0, .execute, .call 1, .call 1,
      .call 1, .work, .work, .work, .stop true, .call 2, .call 2, .call 2, .finish false, .work,
      .work, .work, .work]
    (s.phase = .exited ∧ ∀ stage, Caller.execute stage ∈ s.calls → ∃ b, stage = .returned b) ∧
      s.stats.enqueued = s.stats.executed + (discardedJobs s.log).length ∧
      s.stats.dropped =
        s.calls.count (.execute (.returned false)) + (discardedJobs s.log).length := by
  intro s
  have hexited : s.phase = .exited := rfl
  have hcalls :
      s.calls = [.execute (.returned true), .execute (.returned true), .stop true .returned] := rfl
  have hreturned : ∀ stage, Caller.execute stage ∈ s.calls → ∃ b, stage = .returned b := by
    rw [hcalls]
    simp
  obtain ⟨-, henqueued, hdropped⟩ :=
    (dispatch_order_and_accounting [.execute, .call 0, .call 0, .call 0, .execute, .call 1, .call 1,
      .call 1, .work, .work, .work, .stop true, .call 2, .call 2, .call 2, .finish false, .work,
      .work, .work, .work]).2.2.2 hexited hreturned
  exact ⟨⟨hexited, hreturned⟩, henqueued, hdropped⟩

end Dispatch

end FrameLink
