import FrameLink.Session.Lifecycle
import Mathlib.Data.List.Basic

/-!
The life of one stream session over every interleaving of an attach, closes and sends.
`Consistent` is what every reachable state satisfies: exactly one close has found the session open
once it is disconnected and none before; the compare-and-swap of at most one attach has succeeded,
and the tasks were spawned at most once, by that attach; the receiver is held by at most one
attach between taking it and spawning the writer; while tasks are registered on a disconnected
session some call will still drain them, and every task spawned is registered, aborted, or about
to be registered; and the channel hands the writer the sends in the order they were put in it.
Every step keeps it (`Consistent.step`), so every run does, and `session_lifecycle` reads the
session's guarantees off it.
-/

namespace FrameLink

namespace Lifecycle

/-- The moves of a session's state: attached, or closed while connecting or connected. -/
inductive Advances : LinkState → LinkState → Prop
  | attach : Advances .connecting .connected
  | closeConnecting : Advances .connecting .disconnected
  | closeConnected : Advances .connected .disconnected

namespace Event

def attached? : Event → Option Nat
  | .attached call => some call
  | _ => none

def pushed? : Event → Option Nat
  | .pushed call => some call
  | _ => none

def handed? : Event → Option Nat
  | .handed call => some call
  | _ => none

end Event

def attachedCalls (log : List Event) : List Nat := log.filterMap Event.attached?

def pushedSends (log : List Event) : List Nat := log.filterMap Event.pushed?

def handedSends (log : List Event) : List Nat := log.filterMap Event.handed?

section Log

variable (log : List Event) (e : Event)

@[simp] theorem attachedCalls_append :
    attachedCalls (log ++ [e]) = attachedCalls log ++ e.attached?.toList := by
  simp only [attachedCalls, List.filterMap_append]
  cases e <;> rfl

@[simp] theorem pushedSends_append :
    pushedSends (log ++ [e]) = pushedSends log ++ e.pushed?.toList := by
  simp only [pushedSends, List.filterMap_append]
  cases e <;> rfl

@[simp] theorem handedSends_append :
    handedSends (log ++ [e]) = handedSends log ++ e.handed?.toList := by
  simp only [handedSends, List.filterMap_append]
  cases e <;> rfl

end Log

namespace Caller

/-- A close that found the session open: it goes on to its end and answers `true`. -/
def closer : Caller → Bool
  | .close .dropWriter | .close .dropOutgoing | .close .abort | .close (.returned true) => true
  | _ => false

def holding : Caller → Bool
  | .attach .swap | .attach .spawn => true
  | _ => false

/-- A call that will still drain the task list: an attach that reads the state again or aborts, or
a close that found the session open and has not drained it yet. -/
def draining : Caller → Bool
  | .attach .recheck | .attach .abort | .close .dropWriter | .close .dropOutgoing
  | .close .abort => true
  | _ => false

def registering : Caller → Bool
  | .attach .register => true
  | _ => false

def isClose : Caller → Bool
  | .close _ => true
  | _ => false

end Caller

section Counts

variable {α : Type} {p : α → Bool} {l : List α} {i : Nat} {a b : α}

/-- Replacing one element of a list moves it between the counts of a predicate. -/
theorem countP_set_add (h : l[i]? = some a) :
    (l.set i b).countP p + (if p a then 1 else 0) = l.countP p + (if p b then 1 else 0) := by
  obtain ⟨hlt, rfl⟩ := List.getElem?_eq_some_iff.1 h
  have hle := List.boole_getElem_le_countP (p := p) hlt
  rw [List.countP_set hlt]
  omega

theorem countP_set_of_eq (h : l[i]? = some a) (hp : p b = p a) :
    (l.set i b).countP p = l.countP p := by
  have := countP_set_add (p := p) (b := b) h
  rw [hp] at this
  omega

theorem countP_set_of_leave (h : l[i]? = some a) (ha : p a = true) (hb : p b = false) :
    (l.set i b).countP p + 1 = l.countP p := by
  simpa [ha, hb] using countP_set_add (p := p) (b := b) h

theorem countP_set_of_enter (h : l[i]? = some a) (ha : p a = false) (hb : p b = true) :
    (l.set i b).countP p = l.countP p + 1 := by
  simpa [ha, hb] using countP_set_add (p := p) (b := b) h

theorem two_le_countP (ha : a ∈ l) (hb : b ∈ l) (hab : a ≠ b) (hpa : p a = true)
    (hpb : p b = true) : 2 ≤ l.countP p := by
  have ha' : a ∈ l.filter p := List.mem_filter.2 ⟨ha, hpa⟩
  have hb' : b ∈ l.filter p := List.mem_filter.2 ⟨hb, hpb⟩
  rw [List.countP_eq_length_filter]
  match hfilter : l.filter p with
  | [] => simp [hfilter] at ha'
  | [x] =>
    simp only [hfilter, List.mem_singleton] at ha' hb'
    exact absurd (ha'.trans hb'.symm) hab
  | _ :: _ :: _ => simp

theorem getElem?_of_set {j : Nat} {d : α} (hd : b ≠ d) (hj : (l.set i b)[j]? = some d) :
    l[j]? = some d := by
  rw [List.getElem?_set] at hj
  split at hj
  · split at hj
    · exact absurd (Option.some.inj hj) hd
    · cases hj
  · exact hj

end Counts

/-- What holds in every state the session's tasks can reach. -/
structure Consistent (s : State) : Prop where
  live : s.link ≠ .idle
  /-- Exactly one close has found the session open once it is disconnected, none before. -/
  closers : s.calls.countP Caller.closer = if s.link = .disconnected then 1 else 0
  refused : Caller.close (.returned false) ∈ s.calls → s.link = .disconnected
  fresh : s.link = .connecting → attachedCalls s.log = [] ∧ s.spawned = []
  attachedOnce : (attachedCalls s.log).length ≤ 1
  /-- The tasks were spawned at most once, by the attach whose compare-and-swap succeeded. -/
  spawnedBy : s.spawned = [] ∨ ∃ j, s.spawned = [.reader j, .writer j] ∧ attachedCalls s.log = [j]
  spawning : ∀ j, s.calls[j]? = some (.attach .spawn) → attachedCalls s.log = [j] ∧ s.spawned = []
  registering : ∀ j, s.calls[j]? = some (.attach .register) → s.spawned = [.reader j, .writer j]
  /-- The receiver is held by one attach exactly when it is out of its slot and not yet the writer's. -/
  holders : s.calls.countP Caller.holding = if s.receiver = .held then 1 else 0
  /-- Tasks registered on a closed session are drained by a call still running. -/
  aborting : s.tasks ≠ [] → s.link = .disconnected → 0 < s.calls.countP Caller.draining
  accounted : ∀ t ∈ s.spawned, t ∈ s.tasks ∨ t ∈ s.aborted ∨ 0 < s.calls.countP Caller.registering
  /-- While the channel stands, the writer has been handed the sends put in it, in order, and the
  rest wait in it. -/
  fifo : s.receiver ≠ .dropped → handedSends s.log ++ s.queue = pushedSends s.log
  unhanded : s.receiver = .slot ∨ s.receiver = .held → handedSends s.log = []

namespace Consistent

variable {s : State} {i : Nat} {c c' : Caller}

theorem init : Consistent State.init where
  live := by simp [State.init]
  closers := rfl
  refused := by simp [State.init]
  fresh := fun _ => ⟨rfl, rfl⟩
  attachedOnce := by simp [State.init, attachedCalls]
  spawnedBy := .inl rfl
  spawning := by simp [State.init]
  registering := by simp [State.init]
  holders := rfl
  aborting := by simp [State.init]
  accounted := by simp [State.init]
  fifo := fun _ => rfl
  unhanded := fun _ => rfl

theorem of_frame (h : Consistent s) {s' : State} (hlink : s'.link = s.link)
    (hreceiver : s'.receiver = s.receiver) (hqueue : s'.queue = s.queue)
    (htasks : s'.tasks = s.tasks) (hspawned : s'.spawned = s.spawned)
    (haborted : s'.aborted = s.aborted) (hcalls : s'.calls = s.calls) (hlog : s'.log = s.log) :
    Consistent s' := by
  obtain ⟨link, sender, receiver, queue, tasks, spawned, aborted, calls, log⟩ := s
  obtain ⟨link', sender', receiver', queue', tasks', spawned', aborted', calls', log'⟩ := s'
  simp only at hlink hreceiver hqueue htasks hspawned haborted hcalls hlog
  subst hlink hreceiver hqueue htasks hspawned haborted hcalls hlog
  exact ⟨h.1, h.2, h.3, h.4, h.5, h.6, h.7, h.8, h.9, h.10, h.11, h.12, h.13⟩

theorem setCall_alike (h : Consistent s) (hi : s.calls[i]? = some c)
    (hcloser : c'.closer = c.closer) (hholding : c'.holding = c.holding)
    (hdraining : c'.draining = c.draining) (hregistering : c'.registering = c.registering)
    (hspawn : c' ≠ .attach .spawn) (hregister : c' ≠ .attach .register)
    (hrefused : c' = .close (.returned false) → s.link = .disconnected) :
    Consistent (s.setCall i c') := by
  have hcount : ∀ p : Caller → Bool, p c' = p c →
      (s.calls.set i c').countP p = s.calls.countP p := fun _ hp => countP_set_of_eq hi hp
  constructor
  case live => exact h.live
  case closers => simpa [hcount _ hcloser] using h.closers
  case refused =>
    intro hmem
    rcases List.mem_or_eq_of_mem_set hmem with hmem | heq
    · exact h.refused hmem
    · exact hrefused heq.symm
  case fresh => exact h.fresh
  case attachedOnce => exact h.attachedOnce
  case spawnedBy => exact h.spawnedBy
  case spawning =>
    intro j hj
    by_cases hij : i = j
    · subst hij
      simp [(List.getElem?_eq_some_iff.1 hi).1, hspawn] at hj
    · exact h.spawning j (by simpa [List.getElem?_set_ne hij] using hj)
  case registering =>
    intro j hj
    by_cases hij : i = j
    · subst hij
      simp [(List.getElem?_eq_some_iff.1 hi).1, hregister] at hj
    · exact h.registering j (by simpa [List.getElem?_set_ne hij] using hj)
  case holders => simpa [hcount _ hholding] using h.holders
  case aborting => simpa [hcount _ hdraining] using h.aborting
  case accounted => simpa [hcount _ hregistering] using h.accounted
  case fifo => exact h.fifo
  case unhanded => exact h.unhanded

theorem getElem?_of_append {l : List Caller} {j : Nat} {d : Caller} (hd : c ≠ d)
    (hj : (l ++ [c])[j]? = some d) : l[j]? = some d := by
  rcases Nat.lt_or_ge j l.length with hlt | hge
  · rwa [List.getElem?_append_left hlt] at hj
  · rw [List.getElem?_append_right hge] at hj
    rcases Nat.eq_or_lt_of_le hge with heq | hlt
    · subst heq
      simp at hj
      exact absurd hj hd
    · simp [show j - l.length ≠ 0 by omega] at hj

/-- A call starts: an attach taking the receiver next, a close swapping the state next, or a send
reading it next. -/
theorem addCall (h : Consistent s) (hc : c = .attach .take ∨ c = .close .swap ∨ c = .send .load) :
    Consistent { s with calls := s.calls ++ [c] } := by
  have hcount : ∀ p : Caller → Bool, p c = false → (s.calls ++ [c]).countP p = s.calls.countP p := by
    intro p hp
    simp [hp]
  have hflags : c.closer = false ∧ c.holding = false ∧ c.draining = false ∧
      c.registering = false := by
    rcases hc with rfl | rfl | rfl <;> decide
  have hne : ∀ d : Caller, (d = .attach .spawn ∨ d = .attach .register ∨
      d = .close (.returned false)) → c ≠ d := by
    rintro d hd rfl
    rcases hc with rfl | rfl | rfl <;> rcases hd with hd | hd | hd <;> cases hd
  constructor
  case live => exact h.live
  case closers => simpa [hcount _ hflags.1] using h.closers
  case refused =>
    intro hmem
    rcases List.mem_append.1 hmem with hmem | hmem
    · exact h.refused hmem
    · exact absurd (List.mem_singleton.1 hmem).symm (hne _ (.inr (.inr rfl)))
  case fresh => exact h.fresh
  case attachedOnce => exact h.attachedOnce
  case spawnedBy => exact h.spawnedBy
  case spawning => exact fun j hj => h.spawning j (getElem?_of_append (hne _ (.inl rfl)) hj)
  case registering =>
    exact fun j hj => h.registering j (getElem?_of_append (hne _ (.inr (.inl rfl))) hj)
  case holders => simpa [hcount _ hflags.2.1] using h.holders
  case aborting => simpa [hcount _ hflags.2.2.1] using h.aborting
  case accounted => simpa [hcount _ hflags.2.2.2] using h.accounted
  case fifo => exact h.fifo
  case unhanded => exact h.unhanded

theorem take (h : Consistent s) (hi : s.calls[i]? = some (.attach .take))
    (hslot : s.receiver = .slot) :
    Consistent (({ s with receiver := .held } : State).setCall i (.attach .swap)) := by
  have hholding := countP_set_of_enter (p := Caller.holding) (b := .attach .swap) hi rfl rfl
  have hdraining := countP_set_of_eq (p := Caller.draining) (b := .attach .swap) hi rfl
  have hregistering := countP_set_of_eq (p := Caller.registering) (b := .attach .swap) hi rfl
  have hcloser := countP_set_of_eq (p := Caller.closer) (b := .attach .swap) hi rfl
  constructor
  case live => exact h.live
  case closers => simpa [hcloser] using h.closers
  case refused =>
    intro hmem
    rcases List.mem_or_eq_of_mem_set hmem with hmem | heq
    · exact h.refused hmem
    · cases heq
  case fresh => exact h.fresh
  case attachedOnce => exact h.attachedOnce
  case spawnedBy => exact h.spawnedBy
  case spawning => exact fun j hj => h.spawning j (getElem?_of_set (by decide) hj)
  case registering => exact fun j hj => h.registering j (getElem?_of_set (by decide) hj)
  case holders =>
    have := h.holders
    simp only [hslot, reduceCtorEq, if_false] at this
    simp only [State.setCall_calls, State.setCall_receiver, if_true]
    omega
  case aborting => simpa [hdraining] using h.aborting
  case accounted => simpa [hregistering] using h.accounted
  case fifo => simpa [hslot] using h.fifo
  case unhanded => simpa using h.unhanded (.inl hslot)

theorem attach (h : Consistent s) (hi : s.calls[i]? = some (.attach .swap))
    (hlink : s.link = .connecting) :
    Consistent ((({ s with link := .connected } : State).record (.attached i)).setCall i
      (.attach .spawn)) := by
  obtain ⟨hattached, hspawned⟩ := h.fresh hlink
  have hholding := countP_set_of_eq (p := Caller.holding) (b := .attach .spawn) hi rfl
  have hdraining := countP_set_of_eq (p := Caller.draining) (b := .attach .spawn) hi rfl
  have hregistering := countP_set_of_eq (p := Caller.registering) (b := .attach .spawn) hi rfl
  have hcloser := countP_set_of_eq (p := Caller.closer) (b := .attach .spawn) hi rfl
  constructor
  case live => simp
  case closers => simpa [hlink, hcloser] using h.closers
  case refused =>
    intro hmem
    rcases List.mem_or_eq_of_mem_set hmem with hmem | heq
    · rw [h.refused hmem] at hlink
      cases hlink
    · cases heq
  case fresh => simp
  case attachedOnce => simp [Event.attached?, hattached]
  case spawnedBy => exact .inl hspawned
  case spawning =>
    intro j hj
    by_cases hij : i = j
    · subst hij
      simp [Event.attached?, hattached, hspawned]
    · have := (h.spawning j (by simpa [List.getElem?_set_ne hij] using hj)).1
      rw [hattached] at this
      cases this
  case registering =>
    intro j hj
    have := h.registering j (getElem?_of_set (by decide) hj)
    rw [hspawned] at this
    cases this
  case holders => simpa [hholding] using h.holders
  case aborting => simp
  case accounted => simp [hspawned]
  case fifo => simpa [Event.pushed?, Event.handed?] using h.fifo
  case unhanded => simpa [Event.handed?] using h.unhanded

theorem receiver_held (h : Consistent s) (hi : s.calls[i]? = some c) (hc : c.holding = true) :
    s.receiver = .held := by
  have hpos : 0 < s.calls.countP Caller.holding :=
    List.countP_pos_iff.2 ⟨c, List.mem_of_getElem? hi, hc⟩
  have := h.holders
  split at this
  · assumption
  · omega

theorem attachLate (h : Consistent s) (hi : s.calls[i]? = some (.attach .swap)) :
    Consistent (s.dropReceiver.setCall i (.attach .returned)) := by
  have hheld := h.receiver_held hi rfl
  have hholding := countP_set_of_leave (p := Caller.holding) (b := .attach .returned) hi rfl rfl
  have hdraining := countP_set_of_eq (p := Caller.draining) (b := .attach .returned) hi rfl
  have hregistering := countP_set_of_eq (p := Caller.registering) (b := .attach .returned) hi rfl
  have hcloser := countP_set_of_eq (p := Caller.closer) (b := .attach .returned) hi rfl
  constructor
  case live => exact h.live
  case closers => simpa [hcloser] using h.closers
  case refused =>
    intro hmem
    rcases List.mem_or_eq_of_mem_set hmem with hmem | heq
    · exact h.refused hmem
    · cases heq
  case fresh => exact h.fresh
  case attachedOnce => exact h.attachedOnce
  case spawnedBy => exact h.spawnedBy
  case spawning => exact fun j hj => h.spawning j (getElem?_of_set (by decide) hj)
  case registering => exact fun j hj => h.registering j (getElem?_of_set (by decide) hj)
  case holders =>
    have := h.holders
    simp only [hheld, if_true] at this
    simp only [State.setCall_calls, State.setCall_receiver, State.dropReceiver_calls,
      State.dropReceiver_receiver, reduceCtorEq, if_false]
    omega
  case aborting => simpa [hdraining] using h.aborting
  case accounted => simpa [hregistering] using h.accounted
  case fifo => simp
  case unhanded => simp

/-- The attach whose compare-and-swap succeeded spawns the reader and the writer. -/
theorem spawn (h : Consistent s) (hi : s.calls[i]? = some (.attach .spawn)) :
    Consistent (({ s with receiver := .writer, spawned := s.spawned ++ [.reader i, .writer i] } :
      State).setCall i (.attach .register)) := by
  obtain ⟨hattached, hspawned⟩ := h.spawning i hi
  have hheld := h.receiver_held hi rfl
  have hlink : s.link ≠ .connecting := fun hlink => by
    rw [(h.fresh hlink).1] at hattached
    cases hattached
  have hholding := countP_set_of_leave (p := Caller.holding) (b := .attach .register) hi rfl rfl
  have hdraining := countP_set_of_eq (p := Caller.draining) (b := .attach .register) hi rfl
  have hregistering := countP_set_of_enter (p := Caller.registering) (b := .attach .register) hi rfl rfl
  have hcloser := countP_set_of_eq (p := Caller.closer) (b := .attach .register) hi rfl
  constructor
  case live => exact h.live
  case closers => simpa [hcloser] using h.closers
  case refused =>
    intro hmem
    rcases List.mem_or_eq_of_mem_set hmem with hmem | heq
    · exact h.refused hmem
    · cases heq
  case fresh => exact fun hlink' => absurd hlink' hlink
  case attachedOnce => exact h.attachedOnce
  case spawnedBy => exact .inr ⟨i, by simp [hspawned], hattached⟩
  case spawning =>
    intro j hj
    have hj' := getElem?_of_set (by decide) hj
    have hij : i = j := by simpa [hattached] using (h.spawning j hj').1
    subst hij
    simp [(List.getElem?_eq_some_iff.1 hi).1] at hj
  case registering =>
    intro j hj
    by_cases hij : i = j
    · subst hij
      simp [hspawned]
    · have := h.registering j (by simpa [List.getElem?_set_ne hij] using hj)
      rw [hspawned] at this
      cases this
  case holders =>
    have := h.holders
    simp only [hheld, if_true] at this
    simp only [State.setCall_calls, State.setCall_receiver, reduceCtorEq, if_false]
    omega
  case aborting => simpa [hdraining] using h.aborting
  case accounted => exact fun _ _ => .inr (.inr (by simp [hregistering]))
  case fifo => simpa [hheld] using h.fifo
  case unhanded => simp

theorem register (h : Consistent s) (hi : s.calls[i]? = some (.attach .register)) :
    Consistent (({ s with tasks := s.tasks ++ [.reader i, .writer i] } : State).setCall i
      (.attach .recheck)) := by
  have hspawned := h.registering i hi
  have hholding := countP_set_of_eq (p := Caller.holding) (b := .attach .recheck) hi rfl
  have hdraining := countP_set_of_enter (p := Caller.draining) (b := .attach .recheck) hi rfl rfl
  have hregistering := countP_set_of_leave (p := Caller.registering) (b := .attach .recheck) hi rfl rfl
  have hcloser := countP_set_of_eq (p := Caller.closer) (b := .attach .recheck) hi rfl
  constructor
  case live => exact h.live
  case closers => simpa [hcloser] using h.closers
  case refused =>
    intro hmem
    rcases List.mem_or_eq_of_mem_set hmem with hmem | heq
    · exact h.refused hmem
    · cases heq
  case fresh => exact h.fresh
  case attachedOnce => exact h.attachedOnce
  case spawnedBy => exact h.spawnedBy
  case spawning => exact fun j hj => h.spawning j (getElem?_of_set (by decide) hj)
  case registering => exact fun j hj => h.registering j (getElem?_of_set (by decide) hj)
  case holders => simpa [hholding] using h.holders
  case aborting => exact fun _ _ => by simp [hdraining]
  case accounted =>
    intro t ht
    left
    simp only [State.setCall_spawned, hspawned, List.mem_cons, List.not_mem_nil, or_false] at ht
    rcases ht with rfl | rfl <;> simp
  case fifo => exact h.fifo
  case unhanded => exact h.unhanded

theorem settle (h : Consistent s) (hi : s.calls[i]? = some (.attach .recheck))
    (hlink : s.link = .connected) : Consistent (s.setCall i (.attach .returned)) := by
  have hholding := countP_set_of_eq (p := Caller.holding) (b := .attach .returned) hi rfl
  have hregistering := countP_set_of_eq (p := Caller.registering) (b := .attach .returned) hi rfl
  have hcloser := countP_set_of_eq (p := Caller.closer) (b := .attach .returned) hi rfl
  constructor
  case live => exact h.live
  case closers => simpa [hcloser] using h.closers
  case refused =>
    intro hmem
    rcases List.mem_or_eq_of_mem_set hmem with hmem | heq
    · exact h.refused hmem
    · cases heq
  case fresh => exact h.fresh
  case attachedOnce => exact h.attachedOnce
  case spawnedBy => exact h.spawnedBy
  case spawning => exact fun j hj => h.spawning j (getElem?_of_set (by decide) hj)
  case registering => exact fun j hj => h.registering j (getElem?_of_set (by decide) hj)
  case holders => simpa [hholding] using h.holders
  case aborting =>
    intro _ hdisconnected
    simp [hlink] at hdisconnected
  case accounted => simpa [hregistering] using h.accounted
  case fifo => exact h.fifo
  case unhanded => exact h.unhanded

/-- An attach that found the session closed, or a close that found it open, drains the task list
and aborts every task in it. -/
theorem drain (h : Consistent s) (hi : s.calls[i]? = some c)
    (hc : c = .attach .abort ∧ c' = .attach .returned ∨
      c = .close .abort ∧ c' = .close (.returned true)) :
    Consistent (s.abortTasks.setCall i c') := by
  have hflags : c'.closer = c.closer ∧ c'.holding = false ∧ c.holding = false ∧
      c'.registering = false ∧ c.registering = false := by
    rcases hc with ⟨rfl, rfl⟩ | ⟨rfl, rfl⟩ <;> decide
  have hne : ∀ d : Caller, (d = .attach .spawn ∨ d = .attach .register ∨
      d = .close (.returned false)) → c' ≠ d := by
    rintro d hd rfl
    rcases hc with ⟨-, rfl⟩ | ⟨-, rfl⟩ <;> rcases hd with hd | hd | hd <;> cases hd
  have hcount : ∀ p : Caller → Bool, p c' = p c →
      (s.calls.set i c').countP p = s.calls.countP p := fun _ hp => countP_set_of_eq hi hp
  constructor
  case live => exact h.live
  case closers => simpa [hcount _ hflags.1] using h.closers
  case refused =>
    intro hmem
    rcases List.mem_or_eq_of_mem_set hmem with hmem | heq
    · exact h.refused hmem
    · exact absurd heq.symm (hne _ (.inr (.inr rfl)))
  case fresh => exact h.fresh
  case attachedOnce => exact h.attachedOnce
  case spawnedBy => exact h.spawnedBy
  case spawning => exact fun j hj => h.spawning j (getElem?_of_set (hne _ (.inl rfl)) hj)
  case registering =>
    exact fun j hj => h.registering j (getElem?_of_set (hne _ (.inr (.inl rfl))) hj)
  case holders =>
    simpa [hcount _ (hflags.2.1.trans hflags.2.2.1.symm)] using h.holders
  case aborting => simp
  case accounted =>
    intro t ht
    rcases h.accounted t ht with htask | habort | hreg
    · exact .inr (.inl (by simp [htask]))
    · exact .inr (.inl (by simp [habort]))
    · exact .inr (.inr (by simpa [hcount _ (hflags.2.2.2.1.trans hflags.2.2.2.2.symm)] using hreg))
  case fifo => exact h.fifo
  case unhanded => exact h.unhanded

theorem closeOpen (h : Consistent s) (hi : s.calls[i]? = some (.close .swap))
    (hlink : s.link ≠ .disconnected) :
    Consistent (({ s with link := .disconnected } : State).setCall i (.close .dropWriter)) := by
  have hholding := countP_set_of_eq (p := Caller.holding) (b := .close .dropWriter) hi rfl
  have hdraining := countP_set_of_enter (p := Caller.draining) (b := .close .dropWriter) hi rfl rfl
  have hregistering := countP_set_of_eq (p := Caller.registering) (b := .close .dropWriter) hi rfl
  have hcloser := countP_set_of_enter (p := Caller.closer) (b := .close .dropWriter) hi rfl rfl
  constructor
  case live => simp
  case closers =>
    have := h.closers
    simp only [hlink, if_false] at this
    simp only [State.setCall_calls, State.setCall_link, if_true]
    omega
  case refused => exact fun _ => rfl
  case fresh => simp
  case attachedOnce => exact h.attachedOnce
  case spawnedBy => exact h.spawnedBy
  case spawning => exact fun j hj => h.spawning j (getElem?_of_set (by decide) hj)
  case registering => exact fun j hj => h.registering j (getElem?_of_set (by decide) hj)
  case holders => simpa [hholding] using h.holders
  case aborting =>
    intro _ _
    simp only [State.setCall_calls]
    omega
  case accounted => simpa [hregistering] using h.accounted
  case fifo => exact h.fifo
  case unhanded => exact h.unhanded

/-- The receiver is dropped by a close or by the writer ending, with what waits in the channel. -/
theorem dropReceiver (h : Consistent s) (hheld : s.receiver ≠ .held) :
    Consistent s.dropReceiver := by
  constructor
  case live => exact h.live
  case closers => exact h.closers
  case refused => exact h.refused
  case fresh => exact h.fresh
  case attachedOnce => exact h.attachedOnce
  case spawnedBy => exact h.spawnedBy
  case spawning => exact h.spawning
  case registering => exact h.registering
  case holders => simpa [hheld] using h.holders
  case aborting => exact h.aborting
  case accounted => exact h.accounted
  case fifo => simp
  case unhanded => simp

theorem enqueue (h : Consistent s) (hopen : s.receiver ≠ .dropped) :
    Consistent (({ s with queue := s.queue ++ [i] } : State).record (.pushed i)) := by
  constructor
  case live => exact h.live
  case closers => exact h.closers
  case refused => exact h.refused
  case fresh => simpa [Event.attached?] using h.fresh
  case attachedOnce => simpa [Event.attached?] using h.attachedOnce
  case spawnedBy => simpa [Event.attached?] using h.spawnedBy
  case spawning => simpa [Event.attached?] using h.spawning
  case registering => exact h.registering
  case holders => exact h.holders
  case aborting => exact h.aborting
  case accounted => exact h.accounted
  case fifo =>
    intro _
    simp [Event.pushed?, Event.handed?, ← h.fifo hopen]
  case unhanded => simpa [Event.handed?] using h.unhanded

theorem deliver (h : Consistent s) {j : Nat} {rest : List Nat} (hwriter : s.receiver = .writer)
    (hqueue : s.queue = j :: rest) :
    Consistent (({ s with queue := rest } : State).record (.handed j)) := by
  constructor
  case live => exact h.live
  case closers => exact h.closers
  case refused => exact h.refused
  case fresh => simpa [Event.attached?] using h.fresh
  case attachedOnce => simpa [Event.attached?] using h.attachedOnce
  case spawnedBy => simpa [Event.attached?] using h.spawnedBy
  case spawning => simpa [Event.attached?] using h.spawning
  case registering => exact h.registering
  case holders => exact h.holders
  case aborting => exact h.aborting
  case accounted => exact h.accounted
  case fifo =>
    intro _
    have := h.fifo (by simp [hwriter])
    simpa [Event.pushed?, Event.handed?, hqueue] using this
  case unhanded => simp [hwriter]

theorem stepAttach (h : Consistent s) {stage : AttachStage}
    (hi : s.calls[i]? = some (.attach stage)) : Consistent (s.stepAttach i stage) := by
  cases stage with
  | take =>
    simp only [State.stepAttach]
    split
    next hslot => exact h.take hi hslot
    next => exact h.setCall_alike hi rfl rfl rfl rfl (by decide) (by decide) nofun
  | swap =>
    simp only [State.stepAttach]
    split
    next hlink => exact h.attach hi hlink
    next => exact h.attachLate hi
  | spawn => exact h.spawn hi
  | register => exact h.register hi
  | recheck =>
    simp only [State.stepAttach]
    split
    next hlink => exact h.settle hi hlink
    next => exact h.setCall_alike hi rfl rfl rfl rfl (by decide) (by decide) nofun
  | abort => exact h.drain hi (.inl ⟨rfl, rfl⟩)
  | returned => exact h

theorem stepClose (h : Consistent s) {stage : CloseStage}
    (hi : s.calls[i]? = some (.close stage)) : Consistent (s.stepClose i stage) := by
  cases stage with
  | swap =>
    simp only [State.stepClose]
    split
    next hlink =>
      exact h.setCall_alike hi rfl rfl rfl rfl (by decide) (by decide) (fun _ => hlink)
    next hlink => exact h.closeOpen hi hlink
  | dropWriter =>
    have hframe : Consistent { s with sender := false } := h.of_frame rfl rfl rfl rfl rfl rfl rfl rfl
    exact hframe.setCall_alike hi rfl rfl rfl rfl (by decide) (by decide) nofun
  | dropOutgoing =>
    simp only [State.stepClose]
    split
    next hslot =>
      exact (h.dropReceiver (by simp [hslot])).setCall_alike hi rfl rfl rfl rfl (by decide)
        (by decide) nofun
    next => exact h.setCall_alike hi rfl rfl rfl rfl (by decide) (by decide) nofun
  | abort => exact h.drain hi (.inr ⟨rfl, rfl⟩)
  | returned => exact h

theorem stepSend (h : Consistent s) {stage : SendStage}
    (hi : s.calls[i]? = some (.send stage)) : Consistent (s.stepSend i stage) := by
  cases stage with
  | load =>
    simp only [State.stepSend]
    split <;> exact h.setCall_alike hi rfl rfl rfl rfl (by decide) (by decide) nofun
  | push =>
    simp only [State.stepSend]
    split
    next hopen =>
      exact (h.enqueue hopen.2).setCall_alike hi rfl rfl rfl rfl (by decide) (by decide)
        nofun
    next => exact h.setCall_alike hi rfl rfl rfl rfl (by decide) (by decide) nofun
  | returned => exact h

theorem step (h : Consistent s) (a : Action) : Consistent (s.step a) := by
  cases a with
  | attach => exact h.addCall (.inl rfl)
  | close => exact h.addCall (.inr (.inl rfl))
  | send => exact h.addCall (.inr (.inr rfl))
  | call i =>
    simp only [State.step]
    split
    next stage hi => exact h.stepAttach hi
    next stage hi => exact h.stepClose hi
    next stage hi => exact h.stepSend hi
    next => exact h
  | deliver =>
    simp only [State.step]
    split
    next j rest hwriter hqueue =>
      split
      next => exact h
      next => exact h.deliver hwriter hqueue
    next => exact h
  | writerEnds =>
    simp only [State.step]
    split
    next hwriter => exact h.dropReceiver (by simp [hwriter])
    next => exact h

theorem run (h : Consistent s) (actions : List Action) : Consistent (s.run actions) := by
  induction actions generalizing s with
  | nil => exact h
  | cons a actions ih => exact ih (h.step a)

end Consistent

namespace State

variable {s : State} {i : Nat}

theorem stepSend_link (stage : SendStage) : (s.stepSend i stage).link = s.link := by
  cases stage with
  | push =>
    simp only [stepSend]
    split <;> rfl
  | load | returned => rfl

/-- Only a successful compare-and-swap of an attach moves the state, from connecting to connected. -/
theorem stepAttach_link (stage : AttachStage) :
    (s.stepAttach i stage).link = s.link ∨
      s.link = .connecting ∧ (s.stepAttach i stage).link = .connected := by
  cases stage with
  | take =>
    simp only [stepAttach]
    split <;> exact .inl rfl
  | swap =>
    simp only [stepAttach]
    split
    next hlink => exact .inr ⟨hlink, rfl⟩
    next => exact .inl rfl
  | spawn | register | recheck | abort | returned => exact .inl rfl

theorem stepClose_link (stage : CloseStage) :
    (s.stepClose i stage).link = s.link ∨
      s.link ≠ .disconnected ∧ (s.stepClose i stage).link = .disconnected := by
  cases stage with
  | swap =>
    simp only [stepClose]
    split
    next => exact .inl rfl
    next hlink => exact .inr ⟨hlink, rfl⟩
  | dropOutgoing =>
    simp only [stepClose]
    split <;> exact .inl rfl
  | dropWriter | abort | returned => exact .inl rfl

theorem step_link (a : Action) :
    (s.step a).link = s.link ∨ s.link = .connecting ∧ (s.step a).link = .connected ∨
      s.link ≠ .disconnected ∧ (s.step a).link = .disconnected := by
  cases a with
  | attach | close | send => exact .inl rfl
  | call j =>
    simp only [step]
    split
    next stage _ => exact (stepAttach_link stage).imp_right .inl
    next stage _ => exact (stepClose_link stage).imp_right .inr
    next stage _ => exact .inl (stepSend_link stage)
    next => exact .inl rfl
  | deliver =>
    simp only [step]
    split
    next =>
      split <;> exact .inl rfl
    next => exact .inl rfl
  | writerEnds =>
    simp only [step]
    split <;> exact .inl rfl

theorem step_link_of_disconnected (h : s.link = .disconnected) (a : Action) :
    (s.step a).link = .disconnected := by
  rcases s.step_link a with hsame | ⟨hfrom, _⟩ | ⟨hfrom, _⟩
  · rw [hsame, h]
  · rw [h] at hfrom
    cases hfrom
  · exact absurd h hfrom

theorem run_link_of_disconnected (h : s.link = .disconnected) (actions : List Action) :
    (s.run actions).link = .disconnected := by
  induction actions generalizing s with
  | nil => exact h
  | cons a actions ih => exact ih (step_link_of_disconnected h a)

theorem send_of_stepAttach {stage : AttachStage} {j : Nat} {st : SendStage}
    (hj : (s.stepAttach i stage).calls[j]? = some (.send st)) : s.calls[j]? = some (.send st) := by
  cases stage with
  | take | swap | recheck =>
    simp only [stepAttach] at hj
    split at hj <;> exact getElem?_of_set (by simp) hj
  | spawn | register | abort => exact getElem?_of_set (by simp) hj
  | returned => exact hj

theorem send_of_stepClose {stage : CloseStage} {j : Nat} {st : SendStage}
    (hj : (s.stepClose i stage).calls[j]? = some (.send st)) : s.calls[j]? = some (.send st) := by
  cases stage with
  | swap | dropOutgoing =>
    simp only [stepClose] at hj
    split at hj <;> exact getElem?_of_set (by simp) hj
  | dropWriter | abort => exact getElem?_of_set (by simp) hj
  | returned => exact hj

theorem send_of_step {a : Action} {j : Nat} {st : SendStage} (ha : a ≠ .call j)
    (hj : (s.step a).calls[j]? = some (.send st)) : s.calls[j]? = some (.send st) ∨ st = .load := by
  cases a with
  | attach | close => exact .inl (Consistent.getElem?_of_append (by simp) hj)
  | send =>
    by_cases hst : st = .load
    · exact .inr hst
    · exact .inl (Consistent.getElem?_of_append (by simpa using Ne.symm hst) hj)
  | call i =>
    have hij : i ≠ j := fun hij => ha (hij ▸ rfl)
    simp only [step] at hj
    split at hj
    next stage _ => exact .inl (send_of_stepAttach hj)
    next stage _ => exact .inl (send_of_stepClose hj)
    next stage _ =>
      cases stage with
      | load => exact .inl (by simpa [stepSend, List.getElem?_set_ne hij] using hj)
      | push =>
        simp only [stepSend] at hj
        split at hj <;> exact .inl (by simpa [List.getElem?_set_ne hij] using hj)
      | returned => exact .inl hj
    next => exact .inl hj
  | deliver =>
    simp only [step] at hj
    split at hj
    next =>
      split at hj <;> exact .inl hj
    next => exact .inl hj
  | writerEnds =>
    simp only [step] at hj
    split at hj <;> exact .inl hj

end State

/-- The session is closed, and every send call from the `n`-th on has found it closed or has not
read the state yet. -/
def RefusesFrom (n : Nat) (s : State) : Prop :=
  s.link = .disconnected ∧
    ∀ j stage, n ≤ j → s.calls[j]? = some (.send stage) → stage = .load ∨ stage = .returned false

theorem RefusesFrom.step {n : Nat} {s : State} (h : RefusesFrom n s) (a : Action) :
    RefusesFrom n (s.step a) := by
  refine ⟨State.step_link_of_disconnected h.1 a, fun j stage hj hcall => ?_⟩
  by_cases ha : a = .call j
  · subst ha
    simp only [State.step] at hcall
    split at hcall
    next st hprev => exact absurd (State.send_of_stepAttach hcall) (by simp [hprev])
    next st hprev => exact absurd (State.send_of_stepClose hcall) (by simp [hprev])
    next st hprev =>
      rcases h.2 j st hj hprev with rfl | rfl
      · simp [State.stepSend, h.1, (List.getElem?_eq_some_iff.1 hprev).1] at hcall
        exact .inr hcall.symm
      · simp only [State.stepSend, hprev, Option.some.injEq, Caller.send.injEq] at hcall
        exact .inr hcall.symm
    next hnone => simp [hnone] at hcall
  · rcases State.send_of_step ha hcall with hprev | rfl
    · exact h.2 j stage hj hprev
    · exact .inl rfl

theorem RefusesFrom.run {n : Nat} {s : State} (h : RefusesFrom n s) (actions : List Action) :
    RefusesFrom n (s.run actions) := by
  induction actions generalizing s with
  | nil => exact h
  | cons a actions ih => exact ih (h.step a)

namespace Consistent

variable {s : State}

/-- Once a close has found the session open, every send started afterwards is refused. -/
theorem refusesFrom (h : Consistent s) (hclosed : 0 < s.calls.countP Caller.closer) :
    RefusesFrom s.calls.length s := by
  have hlink : s.link = .disconnected := by
    have := h.closers
    split at this
    · assumption
    · omega
  refine ⟨hlink, fun j stage hj hcall => ?_⟩
  have := (List.getElem?_eq_some_iff.1 hcall).1
  omega

/-- A step moves the session's state along one of its moves, or leaves it. -/
theorem advances (h : Consistent s) (a : Action) :
    (s.step a).link = s.link ∨ Advances s.link (s.step a).link := by
  rcases s.step_link a with hsame | ⟨hfrom, hto⟩ | ⟨hfrom, hto⟩
  · exact .inl hsame
  · rw [hfrom, hto]
    exact .inr .attach
  · right
    rw [hto]
    cases hs : s.link with
    | idle => exact absurd hs h.live
    | connecting => exact .closeConnecting
    | connected => exact .closeConnected
    | disconnected => exact absurd hs hfrom

theorem disconnected_of_returned (h : Consistent s) {b : Bool}
    (hc : Caller.close (.returned b) ∈ s.calls) : s.link = .disconnected := by
  cases b with
  | false => exact h.refused hc
  | true =>
    have hpos : 0 < s.calls.countP Caller.closer := List.countP_pos_iff.2 ⟨_, hc, rfl⟩
    have := h.closers
    split at this
    · assumption
    · omega

/-- Once every close call has returned, exactly one of them answered `true`. -/
theorem one_close_answers_true (h : Consistent s) (hsome : ∃ c ∈ s.calls, c.isClose)
    (hall : ∀ c ∈ s.calls, c.isClose → ∃ b, c = .close (.returned b)) :
    s.calls.count (.close (.returned true)) = 1 := by
  obtain ⟨c, hc, hclose⟩ := hsome
  obtain ⟨b, rfl⟩ := hall c hc hclose
  have hlink : s.link = .disconnected := h.disconnected_of_returned hc
  have hcount : s.calls.countP Caller.closer = s.calls.count (.close (.returned true)) := by
    rw [List.count_eq_countP]
    apply List.countP_congr
    intro d hd
    cases d with
    | close stage =>
      obtain ⟨b', hb'⟩ := hall _ hd rfl
      cases hb'
      cases b' <;> simp [Caller.closer]
    | attach stage | send stage => simp [Caller.closer]
  rw [← hcount, h.closers, if_pos hlink]

/-- With every attach returned and the closing close returned, nothing is left registered and every
task spawned was aborted. -/
theorem tasks_aborted (h : Consistent s)
    (hattach : ∀ stage, Caller.attach stage ∈ s.calls → stage = .returned) (hclose : Caller.close (.returned true) ∈ s.calls) :
    s.tasks = [] ∧ ∀ t ∈ s.spawned, t ∈ s.aborted := by
  have hcloser : s.calls.countP Caller.closer = 1 := by
    have hpos : 0 < s.calls.countP Caller.closer := List.countP_pos_iff.2 ⟨_, hclose, rfl⟩
    have := h.closers
    split at this <;> omega
  have hdraining : s.calls.countP Caller.draining = 0 := by
    rw [List.countP_eq_zero]
    intro c hc hdrain
    cases c with
    | attach stage =>
      rw [hattach stage hc] at hdrain
      cases hdrain
    | close stage =>
      have hne : Caller.close stage ≠ .close (.returned true) := by
        rintro ⟨⟩
        cases hdrain
      have hcloserc : (Caller.close stage).closer = true := by
        cases stage with
        | dropWriter | dropOutgoing | abort => rfl
        | swap | returned _ => cases hdrain
      have := two_le_countP hc hclose hne hcloserc rfl
      omega
    | send stage => cases hdrain
  have hregistering : s.calls.countP Caller.registering = 0 := by
    rw [List.countP_eq_zero]
    intro c hc hreg
    cases c with
    | attach stage =>
      rw [hattach stage hc] at hreg
      cases hreg
    | close stage | send stage => cases hreg
  have hlink : s.link = .disconnected := by
    have := h.closers
    split at this
    · assumption
    · omega
  have htasks : s.tasks = [] := by
    by_contra hne
    have := h.aborting hne hlink
    omega
  refine ⟨htasks, fun t ht => ?_⟩
  rcases h.accounted t ht with htask | habort | hreg
  · rw [htasks] at htask
    cases htask
  · exact habort
  · omega

end Consistent

/-- In whatever order its tasks step, a stream session is closed by exactly one close, its tasks are
spawned once and all aborted, and the writer is handed the sends in order. -/
theorem session_lifecycle (actions : List Action) :
    let s := State.init.run actions
    (∀ a, (s.step a).link = s.link ∨ Advances s.link (s.step a).link) ∧
    (s.link = .disconnected → ∀ more, (s.run more).link = .disconnected) ∧
    s.calls.countP Caller.closer ≤ 1 ∧
    ((∃ c ∈ s.calls, c.isClose) → (∀ c ∈ s.calls, c.isClose → ∃ b, c = .close (.returned b)) →
      s.calls.count (.close (.returned true)) = 1) ∧
    (s.spawned = [] ∨ ∃ j, s.spawned = [.reader j, .writer j] ∧ attachedCalls s.log = [j]) ∧
    ((∀ stage, Caller.attach stage ∈ s.calls → stage = .returned) →
      Caller.close (.returned true) ∈ s.calls → s.tasks = [] ∧ ∀ t ∈ s.spawned, t ∈ s.aborted) ∧
    (0 < s.calls.countP Caller.closer → ∀ more j stage, s.calls.length ≤ j →
      (s.run more).calls[j]? = some (.send stage) → stage = .load ∨ stage = .returned false) ∧
    (s.receiver ≠ .dropped → handedSends s.log ++ s.queue = pushedSends s.log) ∧
    (s.receiver = .slot ∨ s.receiver = .held → handedSends s.log = []) := by
  intro s
  have h : Consistent s := Consistent.init.run actions
  have hclosers : s.calls.countP Caller.closer ≤ 1 := by
    have := h.closers
    split at this <;> omega
  exact ⟨h.advances, fun hd more => State.run_link_of_disconnected hd more, hclosers,
    h.one_close_answers_true, h.spawnedBy, h.tasks_aborted,
    fun hclosed more j stage hj hcall => ((h.refusesFrom hclosed).run more).2 j stage hj hcall,
    h.fifo, h.unhanded⟩

/-- A close lands between the attach's compare-and-swap and its registration of the tasks: the
attach, reading the session closed, aborts both itself. -/
theorem close_during_attach_aborts_spawned_tasks :
    let s := State.init.run [.attach, .close, .call 0, .call 0, .call 0, .call 1, .call 1,
      .call 1, .call 1, .call 0, .call 0, .call 0]
    s.spawned = [.reader 0, .writer 0] ∧
      (∀ stage, Caller.attach stage ∈ s.calls → stage = .returned) ∧
      Caller.close (.returned true) ∈ s.calls ∧
      s.tasks = [] ∧ ∀ t ∈ s.spawned, t ∈ s.aborted := by
  intro s
  have hcalls : s.calls = [.attach .returned, .close (.returned true)] := rfl
  have hattach : ∀ stage, Caller.attach stage ∈ s.calls → stage = .returned := by
    simp [hcalls]
  have hclose : Caller.close (.returned true) ∈ s.calls := by
    simp [hcalls]
  exact ⟨rfl, hattach, hclose, (session_lifecycle [.attach, .close, .call 0, .call 0, .call 0,
    .call 1, .call 1, .call 1, .call 1, .call 0, .call 0, .call 0]).2.2.2.2.2.1 hattach hclose⟩

end Lifecycle

end FrameLink
