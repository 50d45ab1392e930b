import FrameLink.Proofs.ClientReports

/-!
Which sessions a client holds, over every interleaving of its calls. A session it made is in its
slot, or held by a call that closes it (a `disconnect`, a `close_tcp`, a `drop_tcp` or a
`drop_udp` that took it), or, for a datagram session, by the `connect_udp` that stores it next,
or it is closed. This needs one assumption on the calls: no two `connect_tcp`, and no two
`connect_udp`, are between their check and their end at once. Two that are may both find the slot
free and both store a session, and the first stays connected, in no slot
(`overlapping_connects_leave_a_session_open`).

Every call that has not returned is followed by the call that waits for it on its session, so once
every call of the client has returned with its slots empty, every session is closed and its tasks
were aborted (`one_transport_of_each_kind`). Before that, an attach still running may spawn the
reader and the writer of a session already closed; it aborts them itself.
-/

namespace FrameLink

def Lifecycle.Caller.running : Lifecycle.Caller → Bool
  | .attach .returned | .close (.returned _) | .send (.returned _) => false
  | _ => true

namespace Lifecycle

theorem Caller.eq_of_closer {c : Caller} (h : c.closer = true) (hr : c.running = false) :
    c = .close (.returned true) :=
  match c, h, hr with
  | .close (.returned true), _, _ => rfl

/-- A closed session on which no call is running has drained its tasks. -/
theorem Consistent.tasks_aborted_of_settled {s : State} (h : Consistent s)
    (hlink : s.link = .disconnected) (hrun : ∀ c ∈ s.calls, c.running = false) :
    s.tasks = [] ∧ ∀ t ∈ s.spawned, t ∈ s.aborted := by
  have hattach : ∀ stage, Caller.attach stage ∈ s.calls → stage = .returned := by
    intro stage hmem
    have hr := hrun _ hmem
    cases stage <;> first | rfl | cases hr
  have hcloser : 0 < s.calls.countP Caller.closer := by
    rw [h.closers, if_pos hlink]
    exact Nat.one_pos
  obtain ⟨c, hc, hcl⟩ := List.countP_pos_iff.1 hcloser
  have hclose := Caller.eq_of_closer hcl (hrun c hc)
  subst hclose
  exact h.tasks_aborted hattach hc

end Lifecycle

namespace ClientTasks

namespace Caller

/-- The stream session a `connect_tcp` has made and attaches next. -/
def announcing? : Caller → Option Nat
  | .connectTcp _ (.announce k) => some k
  | _ => none

def announcingTcp : Caller → Bool
  | .connectTcp _ (.announce _) => true
  | _ => false

def announcingUdp : Caller → Bool
  | .connectUdp _ (.store _) | .connectUdp _ .announce => true
  | _ => false

/-- The stream session a `connect_tcp` has made, until it has seen its attach return. -/
def creating? : Caller → Option Nat
  | .connectTcp _ (.announce k) | .connectTcp _ (.attach k _) => some k
  | _ => none

def tcpInFlight : Caller → Bool
  | .connectTcp _ .check | .connectTcp _ .await | .connectTcp _ (.announce _)
  | .connectTcp _ (.attach _ _) => true
  | _ => false

def udpInFlight : Caller → Bool
  | .connectUdp _ .check | .connectUdp _ .await | .connectUdp _ (.store _)
  | .connectUdp _ .announce => true
  | _ => false

def awaitingTcp : Caller → Bool
  | .connectTcp _ .await => true
  | _ => false

def awaitingUdp : Caller → Bool
  | .connectUdp _ .await | .connectUdp _ (.store _) => true
  | _ => false

/-- The stream session a call has taken out of the slot, or holds, to close it. -/
def closingStream? : Caller → Option Nat
  | .disconnect _ (.takeUdp tcp) => tcp
  | .disconnect _ (.closeTcp (k, _) _) => some k
  | .closeTcp _ (.close (k, _)) => some k
  | .dropTcp k (.close _) => some k
  | _ => none

/-- The datagram session a call holds: to close it, or to store it in the slot. -/
def holdsDatagram? : Caller → Option Nat
  | .connectUdp _ (.store u) => some u
  | .disconnect _ (.closeTcp _ udp) => udp
  | .disconnect _ (.closeUdp _ (u, _) _) => some u
  | .dropUdp u (.close _ _) => some u
  | _ => none

/-- The call on a stream session that a call waits for, as the numbers of the session and the call. -/
def waitsStream? : Caller → Option (Nat × Nat)
  | .connectTcp _ (.attach k j) => some (k, j)
  | .disconnect _ (.closeTcp r _) => some r
  | .closeTcp _ (.close r) => some r
  | .dropTcp k (.close j) => some (k, j)
  | _ => none

def waitsDatagram? : Caller → Option (Nat × Nat)
  | .disconnect _ (.closeUdp _ r _) => some r
  | .dropUdp u (.close _ j) => some (u, j)
  | _ => none

def returned : Caller → Bool
  | .connectTcp _ (.returned _) | .connectUdp _ (.returned _) | .closeTcp _ (.returned _ _)
  | .disconnect _ (.returned _ _ _) | .close .returned | .dropTcp _ .returned
  | .dropUdp _ (.returned _ _ _) => true
  | _ => false

theorem roles_udpReturns (closeTcp : Bool) (result : Except NetError Unit) :
    (State.udpReturns closeTcp result).announcingTcp = false ∧
      (State.udpReturns closeTcp result).announcingUdp = false ∧
      (State.udpReturns closeTcp result).announcing? = none ∧
      (State.udpReturns closeTcp result).creating? = none ∧
      (State.udpReturns closeTcp result).awaitingTcp = false ∧
      (State.udpReturns closeTcp result).awaitingUdp = false ∧
      (State.udpReturns closeTcp result).closingStream? = none ∧
      (State.udpReturns closeTcp result).holdsDatagram? = none ∧
      (State.udpReturns closeTcp result).waitsStream? = none ∧
      (State.udpReturns closeTcp result).waitsDatagram? = none := by
  unfold State.udpReturns
  split <;> exact ⟨rfl, rfl, rfl, rfl, rfl, rfl, rfl, rfl, rfl, rfl⟩

end Caller

def connectedOf (q : Protocol) : Nat × ClientEvent → Bool
  | (_, .connected p) => p == q
  | _ => false

namespace State

variable {s : State} {i : Nat}

theorem countP_connectedOf_dispatch {e : ClientEvent} (he : ∀ p, e ≠ .connected p)
    (q : Protocol) :
    (s.dispatch i e).trace.countP (connectedOf q) = s.trace.countP (connectedOf q) := by
  cases e with
  | connected p => exact absurd rfl (he p)
  | disconnected p | data payload | failed operation error => simp [connectedOf]

end State

/-- Every session made was announced to the application once, or is about to be by its connect. -/
structure Announced (s : State) : Prop where
  tcp : s.trace.countP (connectedOf .tcp) + s.calls.countP Caller.announcingTcp = s.streams.length
  udp : s.trace.countP (connectedOf .udp) + s.calls.countP Caller.announcingUdp =
    s.datagrams.length

namespace Announced

variable {s t : State} {i : Nat}

theorem init (p : Protocol) : Announced (State.init p) := ⟨rfl, rfl⟩

/-- Call `i` moves from `c` to `c'`: the sessions made, the announcements and the calls about to
announce change together. -/
theorem move (h : Announced s) {c c' : Caller} (hi : s.calls[i]? = some c)
    (hcalls : t.calls = s.calls.set i c')
    (htcp : t.trace.countP (connectedOf .tcp) + s.streams.length + (if c'.announcingTcp then 1 else 0)
      = s.trace.countP (connectedOf .tcp) + t.streams.length + (if c.announcingTcp then 1 else 0))
    (hudp : t.trace.countP (connectedOf .udp) + s.datagrams.length +
        (if c'.announcingUdp then 1 else 0) =
      s.trace.countP (connectedOf .udp) + t.datagrams.length + (if c.announcingUdp then 1 else 0)) :
    Announced t := by
  have htcp' := Lifecycle.countP_set_add (p := Caller.announcingTcp) (b := c') hi
  have hudp' := Lifecycle.countP_set_add (p := Caller.announcingUdp) (b := c') hi
  have h₁ := h.tcp
  have h₂ := h.udp
  constructor
  · rw [hcalls]
    omega
  · rw [hcalls]
    omega

theorem keep (h : Announced s) {c c' : Caller} (hi : s.calls[i]? = some c)
    (hcalls : t.calls = s.calls.set i c') (hS : t.streams.length = s.streams.length)
    (hD : t.datagrams.length = s.datagrams.length)
    (htrace : ∀ q, t.trace.countP (connectedOf q) = s.trace.countP (connectedOf q))
    (htcp : c'.announcingTcp = c.announcingTcp) (hudp : c'.announcingUdp = c.announcingUdp) :
    Announced t :=
  h.move hi hcalls (by rw [htrace, hS, htcp]) (by rw [htrace, hD, hudp])

theorem stepTcpConnect (h : Announced s) {thenUdp : Bool} {stage : TcpConnect}
    (hi : s.calls[i]? = some (.connectTcp thenUdp stage)) (outcome : Except IoError Unit) :
    Announced (s.stepTcpConnect i thenUdp outcome stage) := by
  have hstep := State.tcpStep (s := s) (i := i) thenUdp outcome stage
  generalize s.stepTcpConnect i thenUdp outcome stage = t at hstep
  cases hstep with
  | refuseClosed _ | ensureOpen _ | refuseConnected _ | check _ | attach _ _ _ =>
    exact h.keep hi rfl (by simp) (by simp) (fun _ => rfl) rfl rfl
  | fail e =>
    exact h.keep hi rfl (by simp) (by simp) (State.countP_connectedOf_dispatch (by simp)) rfl rfl
  | connect =>
    exact h.move hi rfl (by simp [Caller.announcingTcp]; omega) (by simp [Caller.announcingUdp])
  | announce k =>
    exact h.move hi rfl (by simp [Caller.announcingTcp, connectedOf]; omega)
      (by simp [Caller.announcingUdp, connectedOf])
  | attached k j hk =>
    cases thenUdp
    · exact h.keep hi rfl rfl rfl (fun _ => rfl) rfl rfl
    · exact h.keep hi rfl rfl rfl (fun _ => rfl) rfl rfl
  | returned r => exact h

theorem stepUdpConnect (h : Announced s) {closeTcp : Bool} {stage : UdpConnect}
    (hi : s.calls[i]? = some (.connectUdp closeTcp stage)) (outcome : Except IoError Unit) :
    Announced (s.stepUdpConnect i closeTcp outcome stage) := by
  have hstep := State.udpStep (s := s) (i := i) closeTcp outcome stage
  generalize s.stepUdpConnect i closeTcp outcome stage = t at hstep
  have hret := Caller.roles_udpReturns closeTcp
  cases hstep with
  | refuseClosed _ | refuseConnected _ | fail _ =>
    exact h.keep hi rfl rfl rfl (fun _ => rfl) (hret _).1 (hret _).2.1
  | ensureOpen _ | check _ | store _ => exact h.keep hi rfl rfl rfl (fun _ => rfl) rfl rfl
  | connect =>
    exact h.move hi rfl (by simp [Caller.announcingTcp]) (by simp [Caller.announcingUdp]; omega)
  | announce =>
    have htcp := (hret (.ok ())).1
    have hudp := (hret (.ok ())).2.1
    refine h.move hi rfl ?_ ?_
    · simp only [htcp]
      simp [connectedOf, Caller.announcingTcp]
    · simp only [hudp]
      simp [connectedOf, Caller.announcingUdp]
      omega
  | returned r => exact h

theorem stepDisconnect (h : Announced s) {n : Bool} {d : Disconnect}
    (hi : s.calls[i]? = some (.disconnect n d)) : Announced (s.stepDisconnect i n d) := by
  have hstep := State.disconnectStep (s := s) (i := i) n d
  generalize s.stepDisconnect i n d = t at hstep
  cases hstep with
  | returned _ _ _ => exact h
  | _ => exact h.keep hi rfl (by simp) (by simp) (fun _ => by simp [connectedOf]) rfl rfl

theorem stepCloseTcp (h : Announced s) {error : NetError} {stage : CloseTcp}
    (hi : s.calls[i]? = some (.closeTcp error stage)) : Announced (s.stepCloseTcp i error stage) := by
  have hstep := State.closeTcpStep (s := s) (i := i) error stage
  generalize s.stepCloseTcp i error stage = t at hstep
  cases hstep with
  | returned _ _ => exact h
  | _ => exact h.keep hi rfl (by simp) (by simp) (fun _ => by simp [connectedOf]) rfl rfl

theorem stepDropTcp (h : Announced s) {k : Nat} {stage : DropTcp}
    (hi : s.calls[i]? = some (.dropTcp k stage)) : Announced (s.stepDropTcp i k stage) := by
  have hstep := State.dropTcpStep (s := s) (i := i) k stage
  generalize s.stepDropTcp i k stage = t at hstep
  cases hstep with
  | returned => exact h
  | _ => exact h.keep hi rfl (by simp) (by simp) (fun _ => rfl) rfl rfl

theorem stepDropUdp (h : Announced s) {u : Nat} {stage : DropUdp}
    (hi : s.calls[i]? = some (.dropUdp u stage)) : Announced (s.stepDropUdp i u stage) := by
  have hstep := State.dropUdpStep (s := s) (i := i) u stage
  generalize s.stepDropUdp i u stage = t at hstep
  cases hstep with
  | returned _ _ _ => exact h
  | _ => exact h.keep hi rfl (by simp) (by simp) (fun _ => by simp [connectedOf]) rfl rfl

theorem stepClose (h : Announced s) {stage : Close} (hi : s.calls[i]? = some (.close stage)) :
    Announced (s.stepClose i stage) := by
  have hstep := State.closeStep (s := s) (i := i) stage
  generalize s.stepClose i stage = t at hstep
  cases hstep with
  | returned => exact h
  | _ => exact h.keep hi rfl rfl rfl (fun _ => rfl) rfl rfl

theorem stepCall (h : Announced s) {c : Caller} (hi : s.calls[i]? = some c)
    (outcome : Except IoError Unit) : Announced (s.stepCall i outcome c) := by
  cases c with
  | connectTcp thenUdp stage => exact h.stepTcpConnect hi outcome
  | connectUdp closeTcp stage => exact h.stepUdpConnect hi outcome
  | closeTcp error stage => exact h.stepCloseTcp hi
  | disconnect n stage => exact h.stepDisconnect hi
  | close stage => exact h.stepClose hi
  | dropTcp k stage => exact h.stepDropTcp hi
  | dropUdp u stage => exact h.stepDropUdp hi

theorem start (h : Announced s) {c : Caller} (htcp : c.announcingTcp = false)
    (hudp : c.announcingUdp = false) : Announced (s.start c) := by
  constructor
  · simpa [htcp] using h.tcp
  · simpa [hudp] using h.udp

theorem step (h : Announced s) (a : Action) : Announced (s.step a) := by
  rcases s.step_cases a with hs | ⟨c, hc, hs⟩ | ⟨i, c, o, hi, hs⟩ <;> rw [hs]
  · exact h
  · exact h.start (by cases hc <;> rfl) (by cases hc <;> rfl)
  · exact h.stepCall hi o

theorem run (h : Announced s) (actions : List Action) : Announced (s.run actions) := by
  induction actions generalizing s with
  | nil => exact h
  | cons a actions ih => exact ih (h.step a)

end Announced

def DatagramClose.running : DatagramClose → Bool
  | .returned _ => false
  | _ => true

/-- After call `c` moved to `c'`, every call running on a stream session is one that `c'` waits
for, or one that was running before and that `c` did not wait for. -/
def StreamsCovered (s t : State) (c c' : Caller) : Prop :=
  ∀ k j st, (t.stream k).calls[j]? = some st → st.running = true →
    c'.waitsStream? = some (k, j) ∨
      ((∃ st', (s.stream k).calls[j]? = some st' ∧ st'.running = true) ∧ c.waitsStream? ≠ some (k, j))

def DatagramsCovered (s t : State) (c c' : Caller) : Prop :=
  ∀ u j st, (t.datagram u).closes[j]? = some st → st.running = true →
    c'.waitsDatagram? = some (u, j) ∨
      ((∃ st', (s.datagram u).closes[j]? = some st' ∧ st'.running = true) ∧
        c.waitsDatagram? ≠ some (u, j))

/-- Every call still running on a session has a call of the client waiting for it. -/
structure Driven (s : State) : Prop where
  streams : ∀ (k j : Nat) (st : Lifecycle.Caller), (s.stream k).calls[j]? = some st →
    st.running = true → ∃ (i : Nat) (c : Caller), s.calls[i]? = some c ∧ c.waitsStream? = some (k, j)
  datagrams : ∀ (u j : Nat) (st : DatagramClose), (s.datagram u).closes[j]? = some st →
    st.running = true → ∃ (i : Nat) (c : Caller), s.calls[i]? = some c ∧
      c.waitsDatagram? = some (u, j)

section Covered

variable {s t : State} {c c' : Caller}

theorem StreamsCovered.same (hs : ∀ k, t.stream k = s.stream k)
    (hw : c'.waitsStream? = c.waitsStream? ∨
      ∀ k j, c.waitsStream? = some (k, j) → ∀ st, (s.stream k).calls[j]? = some st →
        st.running = false) :
    StreamsCovered s t c c' := by
  intro k j st hst hrun
  rw [hs] at hst
  by_cases hc : c.waitsStream? = some (k, j)
  · rcases hw with hw | hw
    · exact .inl (hw.trans hc)
    · rw [hw k j hc st hst] at hrun
      cases hrun
  · exact .inr ⟨⟨st, hst, hrun⟩, hc⟩

theorem StreamsCovered.call {k j : Nat}
    (hs : ∀ k', t.stream k' =
      if k = k' ∧ k < s.streams.length then (s.stream k).step (.call j) else s.stream k')
    (hw : c.waitsStream? = some (k, j)) (hw' : c'.waitsStream? = some (k, j)) :
    StreamsCovered s t c c' := by
  intro k' j' st hst hrun
  by_cases hsame : (k, j) = (k', j')
  · exact .inl (hw'.trans (congrArg some hsame))
  · have hold : (t.stream k').calls[j']? = (s.stream k').calls[j']? := by
      rw [hs]
      split
      next hk =>
        obtain ⟨rfl, -⟩ := hk
        exact Lifecycle.State.step_call_calls_of_ne fun hj => hsame (by rw [hj])
      next => rfl
    rw [hold] at hst
    exact .inr ⟨⟨st, hst, hrun⟩, fun hc => hsame (Option.some.inj (hw.symm.trans hc))⟩

theorem StreamsCovered.fresh {k : Nat} {a : Lifecycle.Action}
    (hs : ∀ k', t.stream k' =
      if k = k' ∧ k < s.streams.length then (s.stream k).step a else s.stream k')
    (ha : ∃ new, ((s.stream k).step a).calls = (s.stream k).calls ++ [new])
    (hw : c.waitsStream? = none) (hw' : c'.waitsStream? = some (k, (s.stream k).calls.length)) :
    StreamsCovered s t c c' := by
  intro k' j' st hst hrun
  have hne : c.waitsStream? ≠ some (k', j') := by simp [hw]
  rw [hs] at hst
  split at hst
  next hk =>
    obtain ⟨rfl, -⟩ := hk
    obtain ⟨new, hnew⟩ := ha
    rw [hnew] at hst
    rcases Lifecycle.getElem?_append_eq_some hst with hold | ⟨hj, -⟩
    · exact .inr ⟨⟨st, hold, hrun⟩, hne⟩
    · exact .inl (by rw [hw', hj])
  next => exact .inr ⟨⟨st, hst, hrun⟩, hne⟩

theorem DatagramsCovered.same (hs : ∀ u, t.datagram u = s.datagram u)
    (hw : c'.waitsDatagram? = c.waitsDatagram? ∨
      ∀ u j, c.waitsDatagram? = some (u, j) → ∀ st, (s.datagram u).closes[j]? = some st →
        st.running = false) :
    DatagramsCovered s t c c' := by
  intro u j st hst hrun
  rw [hs] at hst
  by_cases hc : c.waitsDatagram? = some (u, j)
  · rcases hw with hw | hw
    · exact .inl (hw.trans hc)
    · rw [hw u j hc st hst] at hrun
      cases hrun
  · exact .inr ⟨⟨st, hst, hrun⟩, hc⟩

theorem DatagramsCovered.call {u j : Nat}
    (hs : ∀ u', t.datagram u' =
      if u = u' ∧ u < s.datagrams.length then (s.datagram u).step (.call j) else s.datagram u')
    (hw : c.waitsDatagram? = some (u, j)) (hw' : c'.waitsDatagram? = some (u, j)) :
    DatagramsCovered s t c c' := by
  intro u' j' st hst hrun
  by_cases hsame : (u, j) = (u', j')
  · exact .inl (hw'.trans (congrArg some hsame))
  · have hold : (t.datagram u').closes[j']? = (s.datagram u').closes[j']? := by
      rw [hs]
      split
      next hu =>
        obtain ⟨rfl, -⟩ := hu
        exact Datagram.step_call_closes_of_ne fun hj => hsame (by rw [hj])
      next => rfl
    rw [hold] at hst
    exact .inr ⟨⟨st, hst, hrun⟩, fun hc => hsame (Option.some.inj (hw.symm.trans hc))⟩

theorem DatagramsCovered.fresh {u : Nat}
    (hs : ∀ u', t.datagram u' =
      if u = u' ∧ u < s.datagrams.length then (s.datagram u).step .close else s.datagram u')
    (hw : c.waitsDatagram? = none)
    (hw' : c'.waitsDatagram? = some (u, (s.datagram u).closes.length)) :
    DatagramsCovered s t c c' := by
  intro u' j' st hst hrun
  have hne : c.waitsDatagram? ≠ some (u', j') := by simp [hw]
  rw [hs] at hst
  split at hst
  next hu =>
    obtain ⟨rfl, -⟩ := hu
    rcases Lifecycle.getElem?_append_eq_some hst with hold | ⟨hj, -⟩
    · exact .inr ⟨⟨st, hold, hrun⟩, hne⟩
    · exact .inl (by rw [hw', hj])
  next => exact .inr ⟨⟨st, hst, hrun⟩, hne⟩

end Covered

namespace State

variable {s : State} {k j u : Nat}

theorem running_of_streamAnswer {b : Bool} (hb : s.streamAnswer k j = some b) :
    ∀ st, (s.stream k).calls[j]? = some st → st.running = false := by
  intro st hst
  rw [streamAnswer_eq_some.1 hb] at hst
  cases hst
  rfl

theorem running_of_attachReturned (h : s.attachReturned k j = true) :
    ∀ st, (s.stream k).calls[j]? = some st → st.running = false := by
  intro st hst
  simp only [attachReturned, beq_iff_eq] at h
  rw [h] at hst
  cases hst
  rfl

theorem running_of_answer {b : Bool} (hb : (s.datagram u).answer j = some b) :
    ∀ st, (s.datagram u).closes[j]? = some st → st.running = false := by
  intro st hst
  rw [Datagram.answer_eq_some.1 hb] at hst
  cases hst
  rfl

end State

namespace Driven

variable {s t : State} {i : Nat}

theorem init (p : Protocol) : Driven (State.init p) where
  streams := by simp [State.stream, State.init, Lifecycle.State.init]
  datagrams := by simp [State.datagram, State.init, Datagram.opened]

theorem move (h : Driven s) {c c' : Caller} (hi : s.calls[i]? = some c)
    (hcalls : t.calls = s.calls.set i c') (hS : StreamsCovered s t c c')
    (hD : DatagramsCovered s t c c') : Driven t := by
  have hlt : i < s.calls.length := (List.getElem?_eq_some_iff.1 hi).1
  have hself : t.calls[i]? = some c' := by
    rw [hcalls, List.getElem?_set_self hlt]
  have hother : ∀ i' d, s.calls[i']? = some d → i ≠ i' → t.calls[i']? = some d := by
    intro i' d hd hii
    rw [hcalls, List.getElem?_set_ne hii]
    exact hd
  constructor
  · intro k j st hst hrun
    rcases hS k j st hst hrun with hw | ⟨⟨st', hst', hrun'⟩, hne⟩
    · exact ⟨i, c', hself, hw⟩
    · obtain ⟨i', d, hd, hdw⟩ := h.streams k j st' hst' hrun'
      have hii : i ≠ i' := by
        rintro rfl
        rw [hi] at hd
        cases hd
        exact hne hdw
      exact ⟨i', d, hother i' d hd hii, hdw⟩
  · intro u j st hst hrun
    rcases hD u j st hst hrun with hw | ⟨⟨st', hst', hrun'⟩, hne⟩
    · exact ⟨i, c', hself, hw⟩
    · obtain ⟨i', d, hd, hdw⟩ := h.datagrams u j st' hst' hrun'
      have hii : i ≠ i' := by
        rintro rfl
        rw [hi] at hd
        cases hd
        exact hne hdw
      exact ⟨i', d, hother i' d hd hii, hdw⟩

theorem keep (h : Driven s) {c c' : Caller} (hi : s.calls[i]? = some c)
    (hcalls : t.calls = s.calls.set i c') (hS : ∀ k, t.stream k = s.stream k)
    (hD : ∀ u, t.datagram u = s.datagram u) (hws : c'.waitsStream? = c.waitsStream?)
    (hwd : c'.waitsDatagram? = c.waitsDatagram?) : Driven t :=
  h.move hi hcalls (.same hS (.inl hws)) (.same hD (.inl hwd))

theorem stepTcpConnect (h : Driven s) {thenUdp : Bool} {stage : TcpConnect}
    (hi : s.calls[i]? = some (.connectTcp thenUdp stage)) (outcome : Except IoError Unit) :
    Driven (s.stepTcpConnect i thenUdp outcome stage) := by
  have hstep := State.tcpStep (s := s) (i := i) thenUdp outcome stage
  generalize s.stepTcpConnect i thenUdp outcome stage = t at hstep
  cases hstep with
  | refuseClosed _ | ensureOpen _ | refuseConnected _ | check _ | fail _ =>
    exact h.keep hi rfl (fun _ => rfl) (fun _ => rfl) rfl rfl
  | connect => exact h.keep hi rfl State.stream_newStream (fun _ => rfl) rfl rfl
  | announce k =>
    exact h.move hi rfl
      (.fresh (fun k' => State.stream_onStream (s := s.dispatch i (.connected .tcp)) k' .attach)
        ⟨_, rfl⟩ rfl rfl)
      (.same (fun _ => rfl) (.inl rfl))
  | attached k j hk =>
    refine h.move hi rfl (.same (fun _ => rfl) (.inr fun k' j' hw => ?_))
      (.same (fun _ => rfl) (.inr fun _ _ hw => by cases hw))
    cases hw
    exact State.running_of_attachReturned hk
  | attach k j _ =>
    exact h.move hi rfl (.call (fun k' => State.stream_onStream k' (.call j)) rfl rfl)
      (.same (fun _ => rfl) (.inl rfl))
  | returned r => exact h

theorem stepUdpConnect (h : Driven s) {closeTcp : Bool} {stage : UdpConnect}
    (hi : s.calls[i]? = some (.connectUdp closeTcp stage)) (outcome : Except IoError Unit) :
    Driven (s.stepUdpConnect i closeTcp outcome stage) := by
  have hstep := State.udpStep (s := s) (i := i) closeTcp outcome stage
  generalize s.stepUdpConnect i closeTcp outcome stage = t at hstep
  have hret := Caller.roles_udpReturns closeTcp
  cases hstep with
  | refuseClosed _ | refuseConnected _ | fail _ | announce =>
    exact h.keep hi rfl (fun _ => rfl) (fun _ => rfl) (hret _).2.2.2.2.2.2.2.2.1
      (hret _).2.2.2.2.2.2.2.2.2
  | ensureOpen _ | check _ | store _ => exact h.keep hi rfl (fun _ => rfl) (fun _ => rfl) rfl rfl
  | connect => exact h.keep hi rfl (fun _ => rfl) State.datagram_newDatagram rfl rfl
  | returned r => exact h

theorem stepDisconnect (h : Driven s) {n : Bool} {d : Disconnect}
    (hi : s.calls[i]? = some (.disconnect n d)) : Driven (s.stepDisconnect i n d) := by
  have hstep := State.disconnectStep (s := s) (i := i) n d
  generalize s.stepDisconnect i n d = t at hstep
  cases hstep with
  | takeTcp | takeNothing _ | tell _ _ _ _ | quiet _ _ _ _ =>
    exact h.keep hi rfl (fun _ => rfl) (fun _ => rfl) rfl rfl
  | takeUdp k =>
    exact h.move hi rfl
      (.fresh (fun k' => State.stream_onStream (s := { s with udp := none }) k' .close)
        ⟨_, rfl⟩ rfl rfl)
      (.same (fun _ => rfl) (.inl rfl))
  | takeDatagram u _ =>
    exact h.move hi rfl (.same (fun _ => rfl) (.inl rfl))
      (.fresh (fun u' => State.datagram_onDatagram (s := { s with udp := none }) u' .close) rfl rfl)
  | closeDatagram k j u b hb =>
    refine h.move hi rfl (.same (fun _ => rfl) (.inr fun k' j' hw => ?_))
      (.fresh (fun u' => State.datagram_onDatagram u' .close) rfl rfl)
    cases hw
    exact State.running_of_streamAnswer hb
  | streamClosed k j b hb =>
    refine h.move hi rfl (.same (fun _ => rfl) (.inr fun k' j' hw => ?_))
      (.same (fun _ => rfl) (.inl rfl))
    cases hw
    exact State.running_of_streamAnswer hb
  | awaitStream k j udp _ =>
    exact h.move hi rfl (.call (fun k' => State.stream_onStream k' (.call j)) rfl rfl)
      (.same (fun _ => rfl) (.inl rfl))
  | datagramClosed tcp u j closed b hb =>
    refine h.move hi rfl (.same (fun _ => rfl) (.inl rfl))
      (.same (fun _ => rfl) (.inr fun u' j' hw => ?_))
    cases hw
    exact State.running_of_answer hb
  | awaitDatagram tcp u j closed _ =>
    exact h.move hi rfl (.same (fun _ => rfl) (.inl rfl))
      (.call (fun u' => State.datagram_onDatagram u' (.call j)) rfl rfl)
  | returned _ _ _ => exact h

theorem stepCloseTcp (h : Driven s) {error : NetError} {stage : CloseTcp}
    (hi : s.calls[i]? = some (.closeTcp error stage)) : Driven (s.stepCloseTcp i error stage) := by
  have hstep := State.closeTcpStep (s := s) (i := i) error stage
  generalize s.stepCloseTcp i error stage = t at hstep
  cases hstep with
  | take k _ =>
    exact h.move hi rfl
      (.fresh (fun k' => State.stream_onStream (s := { s with tcp := none }) k' .close)
        ⟨_, rfl⟩ rfl rfl)
      (.same (fun _ => rfl) (.inl rfl))
  | takeNothing _ => exact h.keep hi rfl (fun _ => rfl) (fun _ => rfl) rfl rfl
  | tell k j hb | quiet k j hb =>
    refine h.move hi rfl (.same (fun _ => rfl) (.inr fun k' j' hw => ?_))
      (.same (fun _ => rfl) (.inl rfl))
    cases hw
    exact State.running_of_streamAnswer hb
  | await k j _ =>
    exact h.move hi rfl (.call (fun k' => State.stream_onStream k' (.call j)) rfl rfl)
      (.same (fun _ => rfl) (.inl rfl))
  | returned _ _ => exact h

theorem stepDropTcp (h : Driven s) {k : Nat} {stage : DropTcp}
    (hi : s.calls[i]? = some (.dropTcp k stage)) : Driven (s.stepDropTcp i k stage) := by
  have hstep := State.dropTcpStep (s := s) (i := i) k stage
  generalize s.stepDropTcp i k stage = t at hstep
  cases hstep with
  | current _ => exact h.keep hi rfl (fun _ => rfl) (fun _ => rfl) rfl rfl
  | close _ =>
    exact h.move hi rfl (.fresh (fun k' => State.stream_onStream k' .close) ⟨_, rfl⟩ rfl rfl)
      (.same (fun _ => rfl) (.inl rfl))
  | closed j b hb =>
    refine h.move hi rfl (.same (fun _ => rfl) (.inr fun k' j' hw => ?_))
      (.same (fun _ => rfl) (.inl rfl))
    cases hw
    exact State.running_of_streamAnswer hb
  | await j _ =>
    exact h.move hi rfl (.call (fun k' => State.stream_onStream k' (.call j)) rfl rfl)
      (.same (fun _ => rfl) (.inl rfl))
  | returned => exact h

theorem stepDropUdp (h : Driven s) {u : Nat} {stage : DropUdp}
    (hi : s.calls[i]? = some (.dropUdp u stage)) : Driven (s.stepDropUdp i u stage) := by
  have hstep := State.dropUdpStep (s := s) (i := i) u stage
  generalize s.stepDropUdp i u stage = t at hstep
  cases hstep with
  | current _ =>
    exact h.move hi rfl (.same (fun _ => rfl) (.inl rfl))
      (.fresh (fun u' => State.datagram_onDatagram (s := { s with udp := none }) u' .close) rfl rfl)
  | other _ =>
    exact h.move hi rfl (.same (fun _ => rfl) (.inl rfl))
      (.fresh (fun u' => State.datagram_onDatagram u' .close) rfl rfl)
  | tell j hb | quiet _ j _ hb _ =>
    refine h.move hi rfl (.same (fun _ => rfl) (.inl rfl))
      (.same (fun _ => rfl) (.inr fun u' j' hw => ?_))
    cases hw
    exact State.running_of_answer hb
  | await current j _ =>
    exact h.move hi rfl (.same (fun _ => rfl) (.inl rfl))
      (.call (fun u' => State.datagram_onDatagram u' (.call j)) rfl rfl)
  | returned _ _ _ => exact h

theorem stepClose (h : Driven s) {stage : Close} (hi : s.calls[i]? = some (.close stage)) :
    Driven (s.stepClose i stage) := by
  have hstep := State.closeStep (s := s) (i := i) stage
  generalize s.stepClose i stage = t at hstep
  cases hstep with
  | returned => exact h
  | _ => exact h.keep hi rfl (fun _ => rfl) (fun _ => rfl) rfl rfl

theorem stepCall (h : Driven s) {c : Caller} (hi : s.calls[i]? = some c)
    (outcome : Except IoError Unit) : Driven (s.stepCall i outcome c) := by
  cases c with
  | connectTcp thenUdp stage => exact h.stepTcpConnect hi outcome
  | connectUdp closeTcp stage => exact h.stepUdpConnect hi outcome
  | closeTcp error stage => exact h.stepCloseTcp hi
  | disconnect n stage => exact h.stepDisconnect hi
  | close stage => exact h.stepClose hi
  | dropTcp k stage => exact h.stepDropTcp hi
  | dropUdp u stage => exact h.stepDropUdp hi

theorem start (h : Driven s) (c : Caller) : Driven (s.start c) := by
  constructor
  · intro k j st hst hrun
    obtain ⟨i, d, hd, hw⟩ := h.streams k j st hst hrun
    exact ⟨i, d, State.getElem?_start hd, hw⟩
  · intro u j st hst hrun
    obtain ⟨i, d, hd, hw⟩ := h.datagrams u j st hst hrun
    exact ⟨i, d, State.getElem?_start hd, hw⟩

theorem step (h : Driven s) (a : Action) : Driven (s.step a) := by
  rcases s.step_cases a with hs | ⟨c, -, hs⟩ | ⟨i, c, o, hi, hs⟩ <;> rw [hs]
  · exact h
  · exact h.start c
  · exact h.stepCall hi o

theorem run (h : Driven s) (actions : List Action) : Driven (s.run actions) := by
  induction actions generalizing s with
  | nil => exact h
  | cons a actions ih => exact ih (h.step a)

end Driven

namespace State

variable {s : State} {k : Nat}

theorem stream_onStream_cases {a : Lifecycle.Action} (ha : a ≠ .attach) (k' : Nat) :
    (s.onStream k a).stream k' = s.stream k' ∨
      ∃ a', a' ≠ .attach ∧ (s.onStream k a).stream k' = (s.stream k').step a' := by
  rw [stream_onStream]
  split
  next hk =>
    obtain ⟨rfl, -⟩ := hk
    exact .inr ⟨a, ha, rfl⟩
  next => exact .inl rfl

end State

/-- Each stream session made is attached once, by the `connect_tcp` that made it, and settles as
`Settling` says. -/
structure Attaching (s : State) : Prop where
  once : ∀ k, (s.stream k).calls.countP Lifecycle.Caller.isAttach +
      s.calls.countP (fun c => c.announcing? == some k) = if k < s.streams.length then 1 else 0
  settling : ∀ k, Lifecycle.Settling (s.stream k)
  creator : ∀ k < s.streams.length, (s.stream k).link = .connecting →
    ∃ (i : Nat) (c : Caller), s.calls[i]? = some c ∧ c.creating? = some k

namespace Attaching

variable {s t : State} {i : Nat}

theorem init (p : Protocol) : Attaching (State.init p) where
  once _ := by simp [State.stream, State.init, Lifecycle.State.init]
  settling _ := by simpa [State.stream, State.init] using Lifecycle.Settling.init
  creator _ hk := by simp [State.init] at hk

theorem attach_le_one (h : Attaching s) (k : Nat) :
    (s.stream k).calls.countP Lifecycle.Caller.isAttach ≤ 1 := by
  have := h.once k
  split at this <;> omega

/-- Call `i` moves from `c` to `c'`, each stream session staying or taking one step that is not an
attach. -/
theorem move (h : Attaching s) (hr : Reported s) {c c' : Caller} (hi : s.calls[i]? = some c)
    (hcalls : t.calls = s.calls.set i c') (hlen : t.streams.length = s.streams.length)
    (hs : ∀ k, t.stream k = s.stream k ∨
      ∃ a, a ≠ .attach ∧ t.stream k = (s.stream k).step a)
    (hannouncing : c'.announcing? = c.announcing?)
    (hcreating : c'.creating? = c.creating? ∨
      ∀ k, c.creating? = some k → (t.stream k).link ≠ .connecting) : Attaching t := by
  constructor
  case once =>
    intro k
    have hcount : (t.stream k).calls.countP Lifecycle.Caller.isAttach =
        (s.stream k).calls.countP Lifecycle.Caller.isAttach := by
      rcases hs k with hsame | ⟨a, ha, hstep⟩
      · rw [hsame]
      · rw [hstep, Lifecycle.State.countP_isAttach_step, if_neg ha, Nat.add_zero]
    rw [hcount, hcalls, Lifecycle.countP_set_of_eq hi (by rw [hannouncing]), hlen]
    exact h.once k
  case settling =>
    intro k
    rcases hs k with hsame | ⟨a, _, hstep⟩
    · rw [hsame]
      exact h.settling k
    · rw [hstep]
      exact (h.settling k).step (hr.streams k) (h.attach_le_one k) a
  case creator =>
    intro k hk hconn
    have hconn' : (s.stream k).link = .connecting := by
      rcases hs k with hsame | ⟨a, _, hstep⟩
      · rwa [hsame] at hconn
      · rw [hstep] at hconn
        exact Lifecycle.State.connecting_of_step hconn
    obtain ⟨i', d, hd, hdk⟩ := h.creator k (hlen ▸ hk) hconn'
    by_cases hii : i = i'
    · subst hii
      rw [hi] at hd
      cases hd
      rcases hcreating with hsame | hdone
      · refine ⟨i, c', ?_, hsame.trans hdk⟩
        rw [hcalls, List.getElem?_set_self (List.getElem?_eq_some_iff.1 hi).1]
      · exact absurd hconn (hdone k hdk)
    · exact ⟨i', d, by rw [hcalls, List.getElem?_set_ne hii]; exact hd, hdk⟩

theorem keep (h : Attaching s) (hr : Reported s) {c c' : Caller} (hi : s.calls[i]? = some c)
    (hcalls : t.calls = s.calls.set i c') (hlen : t.streams.length = s.streams.length)
    (hs : ∀ k, t.stream k = s.stream k ∨ ∃ a, a ≠ .attach ∧ t.stream k = (s.stream k).step a)
    (hannouncing : c'.announcing? = c.announcing?) (hcreating : c'.creating? = c.creating?) :
    Attaching t :=
  h.move hr hi hcalls hlen hs hannouncing (.inl hcreating)

theorem newStream (h : Attaching s) {thenUdp : Bool}
    (hi : s.calls[i]? = some (.connectTcp thenUdp .await)) :
    Attaching (s.newStream.setCall i (.connectTcp thenUdp (.announce s.streams.length))) := by
  constructor
  case once =>
    intro k
    have hset := Lifecycle.countP_set_add (p := fun c => c.announcing? == some k)
      (b := .connectTcp thenUdp (.announce s.streams.length)) hi
    rw [show ((Caller.connectTcp thenUdp .await).announcing? == some k) = false from rfl,
      show ((Caller.connectTcp thenUdp (.announce s.streams.length)).announcing? == some k) =
        (s.streams.length == k) from rfl] at hset
    simp only [Bool.false_eq_true, if_false, beq_iff_eq] at hset
    have hold := h.once k
    simp only [State.setCall_calls, State.setCall_streams, State.newStream_streams,
      State.newStream_calls, List.length_append, List.length_singleton]
    rw [show (s.newStream.setCall i _).stream k = s.stream k from State.stream_newStream k]
    split_ifs at hset hold ⊢ <;> omega
  case settling =>
    intro k
    rw [show (s.newStream.setCall i _).stream k = s.stream k from State.stream_newStream k]
    exact h.settling k
  case creator =>
    intro k hk hconn
    simp only [State.setCall_streams, State.newStream_streams, List.length_append,
      List.length_singleton] at hk
    by_cases hlen : k = s.streams.length
    · subst hlen
      refine ⟨i, .connectTcp thenUdp (.announce s.streams.length), ?_, rfl⟩
      simp [List.getElem?_set_self (List.getElem?_eq_some_iff.1 hi).1]
    · rw [show (s.newStream.setCall i _).stream k = s.stream k from State.stream_newStream k] at hconn
      obtain ⟨i', d, hd, hdk⟩ := h.creator k (by omega) hconn
      have hii : i ≠ i' := by
        rintro rfl
        rw [hi] at hd
        cases hd
        cases hdk
      exact ⟨i', d, by simp [List.getElem?_set_ne hii, hd], hdk⟩

theorem announce (h : Attaching s) (hr : Reported s) (hb : Bounded s) {thenUdp : Bool} {k : Nat}
    (hi : s.calls[i]? = some (.connectTcp thenUdp (.announce k))) :
    Attaching (((s.dispatch i (.connected .tcp)).onStream k .attach).setCall i
      (.connectTcp thenUdp (.attach k (s.stream k).calls.length))) := by
  have hk : k < s.streams.length := hb.streams i _ hi k (by simp [Caller.streamsHeld])
  have hstream : ∀ k', (((s.dispatch i (.connected .tcp)).onStream k .attach).setCall i
      (.connectTcp thenUdp (.attach k (s.stream k).calls.length))).stream k' =
      if k = k' then (s.stream k).step .attach else s.stream k' := by
    intro k'
    show ((s.dispatch i (.connected .tcp)).onStream k .attach).stream k' = _
    rw [State.stream_onStream]
    simp only [State.dispatch_streams, hk, and_true]
    rfl
  constructor
  case once =>
    intro k'
    have hset := Lifecycle.countP_set_add (p := fun c => c.announcing? == some k')
      (b := .connectTcp thenUdp (.attach k (s.stream k).calls.length)) hi
    rw [show ((Caller.connectTcp thenUdp (.announce k)).announcing? == some k') = (k == k') from rfl,
      show ((Caller.connectTcp thenUdp (.attach k (s.stream k).calls.length)).announcing? ==
        some k') = false from rfl] at hset
    simp only [Bool.false_eq_true, if_false, beq_iff_eq] at hset
    have hold := h.once k'
    simp only [State.setCall_calls, State.setCall_streams, State.onStream_streams,
      State.onStream_calls, State.dispatch_streams, State.dispatch_calls, List.length_modify]
    rw [hstream]
    by_cases hkk : k = k'
    · subst hkk
      rw [if_pos rfl, Lifecycle.State.countP_isAttach_step, if_pos rfl]
      split_ifs at hset hold ⊢ <;> omega
    · rw [if_neg hkk]
      split_ifs at hset hold ⊢ <;> omega
  case settling =>
    intro k'
    rw [hstream]
    split
    · exact (h.settling k).step (hr.streams k) (h.attach_le_one k) .attach
    · exact h.settling k'
  case creator =>
    intro k' hk' hconn
    rw [hstream] at hconn
    have hconn' : (s.stream k').link = .connecting := by
      split at hconn
      next hkk =>
        subst hkk
        exact Lifecycle.State.connecting_of_step hconn
      next => exact hconn
    simp only [State.setCall_streams, State.onStream_streams, State.dispatch_streams,
      List.length_modify] at hk'
    obtain ⟨i', d, hd, hdk⟩ := h.creator k' hk' hconn'
    by_cases hii : i = i'
    · subst hii
      rw [hi] at hd
      cases hd
      refine ⟨i, .connectTcp thenUdp (.attach k (s.stream k).calls.length), ?_, hdk⟩
      simp [List.getElem?_set_self (List.getElem?_eq_some_iff.1 hi).1]
    · exact ⟨i', d, by simp [List.getElem?_set_ne hii, hd], hdk⟩

theorem stepTcpConnect (h : Attaching s) (hr : Reported s) (hb : Bounded s) {thenUdp : Bool}
    {stage : TcpConnect} (hi : s.calls[i]? = some (.connectTcp thenUdp stage))
    (outcome : Except IoError Unit) : Attaching (s.stepTcpConnect i thenUdp outcome stage) := by
  have hstep := State.tcpStep (s := s) (i := i) thenUdp outcome stage
  generalize s.stepTcpConnect i thenUdp outcome stage = t at hstep
  cases hstep with
  | refuseClosed _ | ensureOpen _ | refuseConnected _ | check _ | fail _ =>
    exact h.keep hr hi rfl rfl (fun _ => .inl rfl) rfl rfl
  | connect => exact h.newStream hi
  | announce k => exact h.announce hr hb hi
  | attached k j hk =>
    refine h.move hr hi rfl rfl (fun _ => .inl rfl) (by cases thenUdp <;> rfl) (.inr ?_)
    intro k' hk'
    cases hk'
    simp only [State.attachReturned, beq_iff_eq] at hk
    exact (h.settling k).link_of_attach_returned hk
  | attach k j _ => exact h.keep hr hi rfl (by simp) (State.stream_onStream_cases (by simp)) rfl rfl
  | returned r => exact h

theorem stepUdpConnect (h : Attaching s) (hr : Reported s) {closeTcp : Bool} {stage : UdpConnect}
    (hi : s.calls[i]? = some (.connectUdp closeTcp stage)) (outcome : Except IoError Unit) :
    Attaching (s.stepUdpConnect i closeTcp outcome stage) := by
  have hstep := State.udpStep (s := s) (i := i) closeTcp outcome stage
  generalize s.stepUdpConnect i closeTcp outcome stage = t at hstep
  have hret := Caller.roles_udpReturns closeTcp
  cases hstep with
  | refuseClosed _ | refuseConnected _ | fail _ | announce =>
    exact h.keep hr hi rfl rfl (fun _ => .inl rfl) (hret _).2.2.1 (hret _).2.2.2.1
  | ensureOpen _ | check _ | connect | store _ => exact h.keep hr hi rfl rfl (fun _ => .inl rfl) rfl rfl
  | returned r => exact h

theorem stepDisconnect (h : Attaching s) (hr : Reported s) {n : Bool} {d : Disconnect}
    (hi : s.calls[i]? = some (.disconnect n d)) : Attaching (s.stepDisconnect i n d) := by
  have hstep := State.disconnectStep (s := s) (i := i) n d
  generalize s.stepDisconnect i n d = t at hstep
  cases hstep with
  | takeUdp k =>
    exact h.keep hr hi rfl (by simp)
      (State.stream_onStream_cases (s := { s with udp := none }) (by simp)) rfl rfl
  | awaitStream k j udp _ =>
    exact h.keep hr hi rfl (by simp) (State.stream_onStream_cases (by simp)) rfl rfl
  | returned _ _ _ => exact h
  | _ => exact h.keep hr hi rfl rfl (fun _ => .inl rfl) rfl rfl

theorem stepCloseTcp (h : Attaching s) (hr : Reported s) {error : NetError} {stage : CloseTcp}
    (hi : s.calls[i]? = some (.closeTcp error stage)) :
    Attaching (s.stepCloseTcp i error stage) := by
  have hstep := State.closeTcpStep (s := s) (i := i) error stage
  generalize s.stepCloseTcp i error stage = t at hstep
  cases hstep with
  | take k _ =>
    exact h.keep hr hi rfl (by simp)
      (State.stream_onStream_cases (s := { s with tcp := none }) (by simp)) rfl rfl
  | await k j _ => exact h.keep hr hi rfl (by simp) (State.stream_onStream_cases (by simp)) rfl rfl
  | returned _ _ => exact h
  | _ => exact h.keep hr hi rfl rfl (fun _ => .inl rfl) rfl rfl

theorem stepDropTcp (h : Attaching s) (hr : Reported s) {k : Nat} {stage : DropTcp}
    (hi : s.calls[i]? = some (.dropTcp k stage)) : Attaching (s.stepDropTcp i k stage) := by
  have hstep := State.dropTcpStep (s := s) (i := i) k stage
  generalize s.stepDropTcp i k stage = t at hstep
  cases hstep with
  | close _ | await _ _ =>
    exact h.keep hr hi rfl (by simp) (State.stream_onStream_cases (by simp)) rfl rfl
  | returned => exact h
  | _ => exact h.keep hr hi rfl rfl (fun _ => .inl rfl) rfl rfl

theorem stepDropUdp (h : Attaching s) (hr : Reported s) {u : Nat} {stage : DropUdp}
    (hi : s.calls[i]? = some (.dropUdp u stage)) : Attaching (s.stepDropUdp i u stage) := by
  have hstep := State.dropUdpStep (s := s) (i := i) u stage
  generalize s.stepDropUdp i u stage = t at hstep
  cases hstep with
  | returned _ _ _ => exact h
  | _ => exact h.keep hr hi rfl rfl (fun _ => .inl rfl) rfl rfl

theorem stepClose (h : Attaching s) (hr : Reported s) {stage : Close}
    (hi : s.calls[i]? = some (.close stage)) : Attaching (s.stepClose i stage) := by
  have hstep := State.closeStep (s := s) (i := i) stage
  generalize s.stepClose i stage = t at hstep
  cases hstep with
  | returned => exact h
  | _ => exact h.keep hr hi rfl rfl (fun _ => .inl rfl) rfl rfl

theorem stepCall (h : Attaching s) (hr : Reported s) (hb : Bounded s) {c : Caller}
    (hi : s.calls[i]? = some c) (outcome : Except IoError Unit) :
    Attaching (s.stepCall i outcome c) := by
  cases c with
  | connectTcp thenUdp stage => exact h.stepTcpConnect hr hb hi outcome
  | connectUdp closeTcp stage => exact h.stepUdpConnect hr hi outcome
  | closeTcp error stage => exact h.stepCloseTcp hr hi
  | disconnect n stage => exact h.stepDisconnect hr hi
  | close stage => exact h.stepClose hr hi
  | dropTcp k stage => exact h.stepDropTcp hr hi
  | dropUdp u stage => exact h.stepDropUdp hr hi

theorem start (h : Attaching s) {c : Caller} (hc : c.announcing? = none) :
    Attaching (s.start c) where
  once k := by simpa [hc, State.stream] using h.once k
  settling := h.settling
  creator k hk hconn := by
    obtain ⟨i, d, hd, hdk⟩ := h.creator k hk hconn
    exact ⟨i, d, State.getElem?_start hd, hdk⟩

theorem step (h : Attaching s) (hr : Reported s) (hb : Bounded s) (a : Action) :
    Attaching (s.step a) := by
  rcases s.step_cases a with hs | ⟨c, hc, hs⟩ | ⟨i, c, o, hi, hs⟩ <;> rw [hs]
  · exact h
  · exact h.start (by cases hc <;> rfl)
  · exact h.stepCall hr hb hi o

theorem run (h : Attaching s) (hr : Reported s) (hb : Bounded s) (actions : List Action) :
    Attaching (s.run actions) := by
  induction actions generalizing s with
  | nil => exact h
  | cons a actions ih => exact ih (h.step hr hb a) (hr.step a) (hb.step a)

end Attaching


namespace Caller

theorem tcpInFlight_of_awaitingTcp {c : Caller} (h : c.awaitingTcp = true) : c.tcpInFlight = true :=
  match c, h with
  | .connectTcp _ .await, _ => rfl

theorem tcpInFlight_of_creating {c : Caller} {k : Nat} (h : c.creating? = some k) :
    c.tcpInFlight = true :=
  match c, h with
  | .connectTcp _ (.announce _), _ | .connectTcp _ (.attach _ _), _ => rfl

theorem udpInFlight_of_awaitingUdp {c : Caller} (h : c.awaitingUdp = true) : c.udpInFlight = true :=
  match c, h with
  | .connectUdp _ .await, _ | .connectUdp _ (.store _), _ => rfl

theorem roles_of_returned {c : Caller} (h : c.returned = true) :
    c.closingStream? = none ∧ c.holdsDatagram? = none ∧ c.waitsStream? = none ∧
      c.waitsDatagram? = none :=
  match c, h with
  | .connectTcp _ (.returned _), _ | .connectUdp _ (.returned _), _
  | .closeTcp _ (.returned _ _), _ | .disconnect _ (.returned _ _ _), _ | .close .returned, _
  | .dropTcp _ .returned, _ | .dropUdp _ (.returned _ _ _), _ => ⟨rfl, rfl, rfl, rfl⟩

end Caller

namespace State

/-- No two `connect_tcp`, and no two `connect_udp`, are between their check and their end. -/
def OneConnect (s : State) : Prop :=
  s.calls.countP Caller.tcpInFlight ≤ 1 ∧ s.calls.countP Caller.udpInFlight ≤ 1

instance : DecidablePred OneConnect := fun _ => inferInstanceAs (Decidable (_ ∧ _))

def TcpQuiet (s : State) : Prop := ∀ k, s.tcp = some k → (s.stream k).link = .disconnected

def UdpQuiet (s : State) : Prop := ∀ u, s.udp = some u → (s.datagram u).isOpen = false

variable {s t : State} {i j : Nat}

theorem OneConnect.tcp_eq (h : s.OneConnect) {c d : Caller} (hj : s.calls[i]? = some c)
    (hj' : s.calls[j]? = some d) (hc : c.tcpInFlight = true) (hd : d.tcpInFlight = true) :
    i = j := by
  by_contra hne
  have htwo := Lifecycle.two_le_countP_of_ne (x := .close .returned) hj hj' hne hc hd rfl
  have := h.1
  omega

theorem OneConnect.udp_eq (h : s.OneConnect) {c d : Caller} (hj : s.calls[i]? = some c)
    (hj' : s.calls[j]? = some d) (hc : c.udpInFlight = true) (hd : d.udpInFlight = true) :
    i = j := by
  by_contra hne
  have htwo := Lifecycle.two_le_countP_of_ne (x := .close .returned) hj hj' hne hc hd rfl
  have := h.2
  omega

theorem udpQuiet_of_udpConnected (h : s.udpConnected = false) : s.UdpQuiet := by
  intro u hu
  simpa [udpConnected, hu] using h

/-- A `connect_tcp` that passes its check finds the slot empty or closed, unless it overlaps
another connect. -/
theorem tcpQuiet_of_check (ha : Attaching s) (hr : Reported s) (hb : Bounded s) {thenUdp : Bool}
    (hi : s.calls[i]? = some (.connectTcp thenUdp .check)) (hc : s.tcpConnected = false)
    (hone : (s.setCall i (.connectTcp thenUdp .await)).OneConnect) : s.TcpQuiet := by
  intro k hk
  have hlink : (s.stream k).link ≠ .connected := by simpa [tcpConnected, hk] using hc
  cases hl : (s.stream k).link with
  | disconnected => rfl
  | connected => exact absurd hl hlink
  | idle => exact absurd hl (hr.streams k).live
  | connecting =>
    obtain ⟨i', d, hd, hdk⟩ := ha.creator k (hb.tcp k hk) hl
    have hii : i ≠ i' := by
      rintro rfl
      rw [hi] at hd
      cases hd
      cases hdk
    have hlt := (List.getElem?_eq_some_iff.1 hi).1
    have hself : (s.setCall i (.connectTcp thenUdp .await)).calls[i]? =
        some (.connectTcp thenUdp .await) := by
      simp [List.getElem?_set_self hlt]
    have hother : (s.setCall i (.connectTcp thenUdp .await)).calls[i']? = some d := by
      simp [List.getElem?_set_ne hii, hd]
    exact absurd (hone.tcp_eq hself hother rfl (Caller.tcpInFlight_of_creating hdk)) hii

end State

namespace Datagram

theorem isOpen_step_of_closed {d : Datagram} (h : d.isOpen = false) (a : Action) :
    (d.step a).isOpen = false := by
  cases a with
  | close => exact h
  | call j =>
    simp only [step]
    split <;> simp [h]

/-- A closed datagram session on which every close has returned has had its tasks aborted. -/
theorem Consistent.aborted_of_settled {d : Datagram} (h : Consistent d) (hclosed : d.isOpen = false)
    (hrun : ∀ c ∈ d.closes, c.running = false) : d.aborted = true := by
  have hcloser : 0 < d.closes.countP DatagramClose.closer := by
    rw [h.closers, hclosed]
    exact Nat.one_pos
  obtain ⟨c, hc, -⟩ := List.countP_pos_iff.1 hcloser
  refine (h.aborted_of_returned (List.ne_nil_of_mem hc) fun c' hc' => ?_).2
  have hr := hrun c' hc'
  cases c' with
  | returned b => exact ⟨b, rfl⟩
  | swap | abort => cases hr

end Datagram

namespace Frame

variable {s t : State} {i k u : Nat}

theorem disconnected (hf : Frame s t i) (h : (s.stream k).link = .disconnected) :
    (t.stream k).link = .disconnected :=
  hf.streams.keeps (P := fun x => x.link = .disconnected)
    (fun _ a hx => Lifecycle.State.step_link_of_disconnected hx a) h

theorem closed (hf : Frame s t i) (h : (s.datagram u).isOpen = false) :
    (t.datagram u).isOpen = false :=
  hf.datagrams.keeps (P := fun x => x.isOpen = false)
    (fun _ a hx => Datagram.isOpen_step_of_closed hx a) h

theorem tcpQuiet (hf : Frame s t i) (hq : s.TcpQuiet) (htcp : t.tcp = s.tcp ∨ t.tcp = none) :
    t.TcpQuiet := by
  intro k hk
  rcases htcp with htcp | htcp
  · exact hf.disconnected (hq k (htcp ▸ hk))
  · rw [htcp] at hk
    cases hk

theorem udpQuiet (hf : Frame s t i) (hq : s.UdpQuiet) (hudp : t.udp = s.udp ∨ t.udp = none) :
    t.UdpQuiet := by
  intro u hu
  rcases hudp with hudp | hudp
  · exact hf.closed (hq u (hudp ▸ hu))
  · rw [hudp] at hu
    cases hu

end Frame

/-- After call `c` moved to `c'`, each stream session that was in the slot or in `c`'s hands is in
the slot, in the hands of `c'`, or closed. -/
def StreamsKept (s t : State) (c c' : Caller) : Prop :=
  ∀ k, (s.tcp = some k ∨ c.closingStream? = some k) → (t.stream k).link ≠ .disconnected →
    t.tcp = some k ∨ c'.closingStream? = some k

def DatagramsKept (s t : State) (c c' : Caller) : Prop :=
  ∀ u, (s.udp = some u ∨ c.holdsDatagram? = some u) → (t.datagram u).isOpen = true →
    t.udp = some u ∨ c'.holdsDatagram? = some u

section Kept

variable {s t : State} {c c' : Caller}

theorem StreamsKept.same (htcp : t.tcp = s.tcp) (hc : c'.closingStream? = c.closingStream?) :
    StreamsKept s t c c' := by
  intro k hk _
  rw [htcp, hc]
  exact hk

theorem StreamsKept.release (htcp : t.tcp = s.tcp)
    (hc : ∀ k, c.closingStream? = some k → (t.stream k).link = .disconnected) :
    StreamsKept s t c c' := by
  intro k hk hlink
  rcases hk with hk | hk
  · exact .inl (htcp ▸ hk)
  · exact absurd (hc k hk) hlink

theorem StreamsKept.take (hc : c'.closingStream? = s.tcp)
    (hc₀ : c.closingStream? = none) : StreamsKept s t c c' := by
  intro k hk _
  rcases hk with hk | hk
  · exact .inr (hc.trans hk)
  · rw [hc₀] at hk
    cases hk

theorem DatagramsKept.same (hudp : t.udp = s.udp) (hc : c'.holdsDatagram? = c.holdsDatagram?) :
    DatagramsKept s t c c' := by
  intro u hu _
  rw [hudp, hc]
  exact hu

theorem DatagramsKept.release (hudp : t.udp = s.udp)
    (hc : ∀ u, c.holdsDatagram? = some u → (t.datagram u).isOpen = false) :
    DatagramsKept s t c c' := by
  intro u hu hopen
  rcases hu with hu | hu
  · exact .inl (hudp ▸ hu)
  · rw [hc u hu] at hopen
    cases hopen

theorem DatagramsKept.take (hc : c'.holdsDatagram? = s.udp)
    (hc₀ : c.holdsDatagram? = none) : DatagramsKept s t c c' := by
  intro u hu _
  rcases hu with hu | hu
  · exact .inr (hc.trans hu)
  · rw [hc₀] at hu
    cases hu

end Kept

namespace Reported

variable {s : State} {k j u : Nat} {b : Bool}

theorem disconnected_of_answer (hr : Reported s) (hb : s.streamAnswer k j = some b) :
    (s.stream k).link = .disconnected :=
  (hr.streams k).disconnected_of_returned (List.mem_of_getElem? (State.streamAnswer_eq_some.1 hb))

theorem closed_of_answer (hr : Reported s) (hb : (s.datagram u).answer j = some b) :
    (s.datagram u).isOpen = false :=
  (hr.datagrams u).closed_of_answer hb

end Reported

/-- Every session made is closed, in its slot, or in the hands of a call that closes or stores it;
a connect waiting for its socket finds the slot empty or closed. -/
structure Custody (s : State) : Prop where
  quietTcp : ∀ (i : Nat) (c : Caller), s.calls[i]? = some c → c.awaitingTcp = true → s.TcpQuiet
  quietUdp : ∀ (i : Nat) (c : Caller), s.calls[i]? = some c → c.awaitingUdp = true → s.UdpQuiet
  streams : ∀ k < s.streams.length, (s.stream k).link ≠ .disconnected →
    s.tcp = some k ∨ ∃ (i : Nat) (c : Caller), s.calls[i]? = some c ∧ c.closingStream? = some k
  datagrams : ∀ u < s.datagrams.length, (s.datagram u).isOpen = true →
    s.udp = some u ∨ ∃ (i : Nat) (c : Caller), s.calls[i]? = some c ∧ c.holdsDatagram? = some u

namespace Custody

variable {s t : State} {i : Nat}

theorem init (p : Protocol) : Custody (State.init p) where
  quietTcp _ _ h := by simp [State.init] at h
  quietUdp _ _ h := by simp [State.init] at h
  streams _ hk := by simp [State.init] at hk
  datagrams _ hu := by simp [State.init] at hu

/-- Call `i` moves from `c` to `c'`: what `c` answered for stays answered for, and every call
waiting for its socket finds the slot quiet. -/
theorem move (h : Custody s) (hf : Frame s t i) {c c' : Caller} (hi : s.calls[i]? = some c)
    (hcalls : t.calls = s.calls.set i c')
    (hlenS : ∀ k < t.streams.length, k < s.streams.length ∨ t.tcp = some k)
    (hlenD : ∀ u < t.datagrams.length, u < s.datagrams.length ∨ c'.holdsDatagram? = some u)
    (hkS : StreamsKept s t c c') (hkD : DatagramsKept s t c c')
    (hqT : ∀ (i' : Nat) (d : Caller), i' ≠ i → s.calls[i']? = some d → d.awaitingTcp = true →
      t.TcpQuiet)
    (hqU : ∀ (i' : Nat) (d : Caller), i' ≠ i → s.calls[i']? = some d → d.awaitingUdp = true →
      t.UdpQuiet)
    (hwT : c'.awaitingTcp = true → t.TcpQuiet) (hwU : c'.awaitingUdp = true → t.UdpQuiet) :
    Custody t := by
  have hlt : i < s.calls.length := (List.getElem?_eq_some_iff.1 hi).1
  have hself : t.calls[i]? = some c' := by
    rw [hcalls, List.getElem?_set_self hlt]
  have hother : ∀ (i' : Nat) (d : Caller), i ≠ i' → s.calls[i']? = some d →
      t.calls[i']? = some d := by
    intro i' d hii hd
    rw [hcalls, List.getElem?_set_ne hii]
    exact hd
  have hcalls' : ∀ (i' : Nat) (d : Caller), t.calls[i']? = some d →
      (i = i' ∧ c' = d) ∨ (i ≠ i' ∧ s.calls[i']? = some d) := by
    intro i' d hd
    rw [hcalls] at hd
    exact Lifecycle.getElem?_set_eq_some hd
  constructor
  case quietTcp =>
    intro i' d hd hw
    rcases hcalls' i' d hd with ⟨rfl, rfl⟩ | ⟨hii, hd⟩
    · exact hwT hw
    · exact hqT i' d (Ne.symm hii) hd hw
  case quietUdp =>
    intro i' d hd hw
    rcases hcalls' i' d hd with ⟨rfl, rfl⟩ | ⟨hii, hd⟩
    · exact hwU hw
    · exact hqU i' d (Ne.symm hii) hd hw
  case streams =>
    intro k hk hlink
    have hkept : s.tcp = some k ∨ c.closingStream? = some k → t.tcp = some k ∨
        ∃ (i' : Nat) (d : Caller), t.calls[i']? = some d ∧ d.closingStream? = some k :=
      fun hk' => (hkS k hk' hlink).imp id fun h' => ⟨i, c', hself, h'⟩
    rcases hlenS k hk with hk | hslot
    · rcases h.streams k hk (fun hd => hlink (hf.disconnected hd)) with hslot | ⟨i', d, hd, hdk⟩
      · exact hkept (.inl hslot)
      · by_cases hii : i = i'
        · subst hii
          rw [hi] at hd
          cases hd
          exact hkept (.inr hdk)
        · exact .inr ⟨i', d, hother i' d hii hd, hdk⟩
    · exact .inl hslot
  case datagrams =>
    intro u hu hopen
    have hkept : s.udp = some u ∨ c.holdsDatagram? = some u → t.udp = some u ∨
        ∃ (i' : Nat) (d : Caller), t.calls[i']? = some d ∧ d.holdsDatagram? = some u :=
      fun hu' => (hkD u hu' hopen).imp id fun h' => ⟨i, c', hself, h'⟩
    have hopen' : (s.datagram u).isOpen = true := by
      cases hs : (s.datagram u).isOpen
      · rw [hf.closed hs] at hopen
        cases hopen
      · rfl
    rcases hlenD u hu with hu | hheld
    · rcases h.datagrams u hu hopen' with hslot | ⟨i', d, hd, hdu⟩
      · exact hkept (.inl hslot)
      · by_cases hii : i = i'
        · subst hii
          rw [hi] at hd
          cases hd
          exact hkept (.inr hdu)
        · exact .inr ⟨i', d, hother i' d hii hd, hdu⟩
    · exact .inr ⟨i, c', hself, hheld⟩

theorem keep (h : Custody s) (hf : Frame s t i) {c c' : Caller} (hi : s.calls[i]? = some c)
    (hcalls : t.calls = s.calls.set i c') (hlenS : t.streams.length = s.streams.length)
    (hlenD : t.datagrams.length = s.datagrams.length)
    (hkS : StreamsKept s t c c') (hkD : DatagramsKept s t c c')
    (htcp : t.tcp = s.tcp ∨ t.tcp = none) (hudp : t.udp = s.udp ∨ t.udp = none)
    (hwT : c'.awaitingTcp = false ∨ c.awaitingTcp = true ∨ t.TcpQuiet)
    (hwU : c'.awaitingUdp = false ∨ c.awaitingUdp = true ∨ t.UdpQuiet) : Custody t := by
  refine h.move hf hi hcalls (fun k hk => .inl (hlenS ▸ hk)) (fun u hu => .inl (hlenD ▸ hu))
    hkS hkD (fun i' d _ hd hw => hf.tcpQuiet (h.quietTcp i' d hd hw) htcp)
    (fun i' d _ hd hw => hf.udpQuiet (h.quietUdp i' d hd hw) hudp) (fun hw => ?_) (fun hw => ?_)
  · rcases hwT with hw' | hc | hq
    · rw [hw'] at hw
      cases hw
    · exact hf.tcpQuiet (h.quietTcp i c hi hc) htcp
    · exact hq
  · rcases hwU with hw' | hc | hq
    · rw [hw'] at hw
      cases hw
    · exact hf.udpQuiet (h.quietUdp i c hi hc) hudp
    · exact hq

/-- A `connect_tcp` stores its new session over a slot that is empty or closed. -/
theorem newStream (h : Custody s) (hone : s.OneConnect) {thenUdp : Bool}
    (hi : s.calls[i]? = some (.connectTcp thenUdp .await)) :
    Custody (s.newStream.setCall i (.connectTcp thenUdp (.announce s.streams.length))) := by
  have hq : s.TcpQuiet := h.quietTcp i _ hi rfl
  have hstream : ∀ k, (s.newStream.setCall i (.connectTcp thenUdp (.announce s.streams.length))).stream k
      = s.stream k := fun k => State.stream_newStream k
  have hf : Frame s (s.newStream.setCall i (.connectTcp thenUdp (.announce s.streams.length))) i :=
    ⟨.same hstream, .same fun _ => rfl, .inl rfl⟩
  refine h.move hf hi rfl ?_ (fun u hu => .inl hu) ?_ (.same rfl rfl) ?_ ?_ nofun nofun
  · intro k hk
    simp only [State.setCall_streams, State.newStream_streams, List.length_append,
      List.length_singleton] at hk
    by_cases hlen : k = s.streams.length
    · exact .inr (by rw [hlen]; rfl)
    · exact .inl (by omega)
  · intro k hk hlink
    rcases hk with hk | hk
    · rw [hstream] at hlink
      exact absurd (hq k hk) hlink
    · cases hk
  · intro i' d hii hd hw
    exact absurd (hone.tcp_eq hd hi (Caller.tcpInFlight_of_awaitingTcp hw) rfl) hii
  · intro i' d _ hd hw
    exact hf.udpQuiet (h.quietUdp i' d hd hw) (.inl rfl)

theorem store (h : Custody s) (hone : s.OneConnect) {closeTcp : Bool} {u : Nat}
    (hi : s.calls[i]? = some (.connectUdp closeTcp (.store u))) :
    Custody (({ s with udp := some u } : State).setCall i (.connectUdp closeTcp .announce)) := by
  have hq : s.UdpQuiet := h.quietUdp i _ hi rfl
  have hf : Frame s (({ s with udp := some u } : State).setCall i (.connectUdp closeTcp .announce))
      i := ⟨.same fun _ => rfl, .same fun _ => rfl, .inl rfl⟩
  refine h.move hf hi rfl (fun k hk => .inl hk) (fun u hu => .inl hu) (.same rfl rfl) ?_ ?_ ?_
    nofun nofun
  · intro u' hu' hopen
    rcases hu' with hu' | hu'
    · have hclosed : (s.datagram u').isOpen = false := hq u' hu'
      exact absurd (hopen.symm.trans hclosed) (by decide)
    · cases hu'
      exact .inl rfl
  · intro i' d _ hd hw
    exact hf.tcpQuiet (h.quietTcp i' d hd hw) (.inl rfl)
  · intro i' d hii hd hw
    exact absurd (hone.udp_eq hd hi (Caller.udpInFlight_of_awaitingUdp hw) rfl) hii

theorem stepTcpConnect (h : Custody s) (ha : Attaching s) (hr : Reported s) (hb : Bounded s)
    (hone : s.OneConnect) {thenUdp : Bool} {stage : TcpConnect}
    (hi : s.calls[i]? = some (.connectTcp thenUdp stage)) (outcome : Except IoError Unit)
    (hone' : (s.stepTcpConnect i thenUdp outcome stage).OneConnect) :
    Custody (s.stepTcpConnect i thenUdp outcome stage) := by
  have hstep := State.tcpStep (s := s) (i := i) thenUdp outcome stage
  have hf := State.frame_stepTcpConnect (s := s) (i := i) thenUdp outcome stage
  generalize s.stepTcpConnect i thenUdp outcome stage = t at hstep hf hone'
  cases hstep with
  | check hc =>
    exact h.keep hf hi rfl rfl rfl (.same rfl rfl) (.same rfl rfl) (.inl rfl) (.inl rfl)
      (.inr (.inr (State.tcpQuiet_of_check (s := s) ha hr hb hi hc hone'))) (.inl rfl)
  | connect => exact h.newStream hone hi
  | announce k =>
    exact h.keep hf hi rfl (by simp) rfl (.same rfl rfl) (.same rfl rfl) (.inl rfl) (.inl rfl)
      (.inl rfl) (.inl rfl)
  | attach k j _ =>
    exact h.keep hf hi rfl (by simp) rfl (.same rfl rfl) (.same rfl rfl) (.inl rfl) (.inl rfl)
      (.inl rfl) (.inl rfl)
  | attached k j _ =>
    cases thenUdp <;>
      exact h.keep hf hi rfl rfl rfl (.same rfl rfl) (.same rfl rfl) (.inl rfl) (.inl rfl)
        (.inl rfl) (.inl rfl)
  | returned r => exact h
  | _ =>
    exact h.keep hf hi rfl rfl rfl (.same rfl rfl) (.same rfl rfl) (.inl rfl) (.inl rfl)
      (.inl rfl) (.inl rfl)

theorem stepUdpConnect (h : Custody s) (hone : s.OneConnect) {closeTcp : Bool}
    {stage : UdpConnect} (hi : s.calls[i]? = some (.connectUdp closeTcp stage))
    (outcome : Except IoError Unit) : Custody (s.stepUdpConnect i closeTcp outcome stage) := by
  have hstep := State.udpStep (s := s) (i := i) closeTcp outcome stage
  have hf := State.frame_stepUdpConnect (s := s) (i := i) closeTcp outcome stage
  generalize s.stepUdpConnect i closeTcp outcome stage = t at hstep hf
  have hret := Caller.roles_udpReturns closeTcp
  cases hstep with
  | refuseClosed _ | refuseConnected _ | fail _ | announce =>
    exact h.keep hf hi rfl rfl rfl (.same rfl (hret _).2.2.2.2.2.2.1)
      (.same rfl (hret _).2.2.2.2.2.2.2.1) (.inl rfl) (.inl rfl) (.inl (hret _).2.2.2.2.1)
      (.inl (hret _).2.2.2.2.2.1)
  | ensureOpen _ =>
    exact h.keep hf hi rfl rfl rfl (.same rfl rfl) (.same rfl rfl) (.inl rfl) (.inl rfl)
      (.inl rfl) (.inl rfl)
  | check hc =>
    exact h.keep hf hi rfl rfl rfl (.same rfl rfl) (.same rfl rfl) (.inl rfl) (.inl rfl)
      (.inl rfl) (.inr (.inr (State.udpQuiet_of_udpConnected hc)))
  | connect =>
    refine h.move hf hi rfl (fun k hk => .inl hk) ?_ (.same rfl rfl)
      (.release rfl fun _ hu => by cases hu)
      (fun i' d _ hd hw => hf.tcpQuiet (h.quietTcp i' d hd hw) (.inl rfl))
      (fun i' d _ hd hw => hf.udpQuiet (h.quietUdp i' d hd hw) (.inl rfl)) nofun
      (fun _ => hf.udpQuiet (h.quietUdp i _ hi rfl) (.inl rfl))
    intro u hu
    simp only [State.setCall_datagrams, State.newDatagram_datagrams, List.length_append,
      List.length_singleton] at hu
    by_cases hlen : u = s.datagrams.length
    · exact .inr (by rw [hlen]; rfl)
    · exact .inl (by omega)
  | store u => exact h.store hone hi
  | returned r => exact h

theorem stepDisconnect (h : Custody s) (hr : Reported s) {n : Bool} {d : Disconnect}
    (hi : s.calls[i]? = some (.disconnect n d)) : Custody (s.stepDisconnect i n d) := by
  have hstep := State.disconnectStep (s := s) (i := i) n d
  have hf := State.frame_stepDisconnect (s := s) (i := i) n d
  generalize s.stepDisconnect i n d = t at hstep hf
  cases hstep with
  | takeTcp =>
    exact h.keep hf hi rfl rfl rfl (.take rfl rfl) (.same rfl rfl) (.inr rfl) (.inl rfl)
      (.inl rfl) (.inl rfl)
  | takeUdp k =>
    exact h.keep hf hi rfl (by simp) rfl (.same rfl rfl) (.take rfl rfl) (.inl rfl) (.inr rfl)
      (.inl rfl) (.inl rfl)
  | takeDatagram u hu =>
    exact h.keep hf hi rfl rfl (by simp) (.same rfl rfl) (.take hu.symm rfl) (.inl rfl) (.inr rfl)
      (.inl rfl) (.inl rfl)
  | closeDatagram k j u b hb =>
    refine h.keep hf hi rfl rfl (by simp) (.release rfl fun _ hk => ?_) (.same rfl rfl) (.inl rfl)
      (.inl rfl) (.inl rfl) (.inl rfl)
    cases hk
    exact hf.disconnected (hr.disconnected_of_answer hb)
  | streamClosed k j b hb =>
    refine h.keep hf hi rfl rfl rfl (.release rfl fun _ hk => ?_) (.same rfl rfl) (.inl rfl)
      (.inl rfl) (.inl rfl) (.inl rfl)
    cases hk
    exact hf.disconnected (hr.disconnected_of_answer hb)
  | awaitStream k j udp _ =>
    exact h.keep hf hi rfl (by simp) rfl (.same rfl rfl) (.same rfl rfl) (.inl rfl) (.inl rfl)
      (.inl rfl) (.inl rfl)
  | datagramClosed tcp u j closed b hb =>
    refine h.keep hf hi rfl rfl rfl (.same rfl rfl) (.release rfl fun _ hu => ?_) (.inl rfl)
      (.inl rfl) (.inl rfl) (.inl rfl)
    cases hu
    exact hf.closed (hr.closed_of_answer hb)
  | awaitDatagram tcp u j closed _ =>
    exact h.keep hf hi rfl rfl (by simp) (.same rfl rfl) (.same rfl rfl) (.inl rfl) (.inl rfl)
      (.inl rfl) (.inl rfl)
  | returned _ _ _ => exact h
  | _ =>
    exact h.keep hf hi rfl rfl rfl (.same rfl rfl) (.same rfl rfl) (.inl rfl) (.inl rfl)
      (.inl rfl) (.inl rfl)

theorem stepCloseTcp (h : Custody s) (hr : Reported s) {error : NetError} {stage : CloseTcp}
    (hi : s.calls[i]? = some (.closeTcp error stage)) : Custody (s.stepCloseTcp i error stage) := by
  have hstep := State.closeTcpStep (s := s) (i := i) error stage
  have hf := State.frame_stepCloseTcp (s := s) (i := i) error stage
  generalize s.stepCloseTcp i error stage = t at hstep hf
  cases hstep with
  | take k hk =>
    exact h.keep hf hi rfl (by simp) rfl (.take hk.symm rfl) (.same rfl rfl) (.inr rfl) (.inl rfl)
      (.inl rfl) (.inl rfl)
  | tell k j hb | quiet k j hb =>
    refine h.keep hf hi rfl rfl rfl (.release rfl fun _ hk => ?_) (.same rfl rfl) (.inl rfl)
      (.inl rfl) (.inl rfl) (.inl rfl)
    cases hk
    exact hf.disconnected (hr.disconnected_of_answer hb)
  | await k j _ =>
    exact h.keep hf hi rfl (by simp) rfl (.same rfl rfl) (.same rfl rfl) (.inl rfl) (.inl rfl)
      (.inl rfl) (.inl rfl)
  | returned _ _ => exact h
  | _ =>
    exact h.keep hf hi rfl rfl rfl (.same rfl rfl) (.same rfl rfl) (.inl rfl) (.inl rfl)
      (.inl rfl) (.inl rfl)

theorem stepDropTcp (h : Custody s) (hr : Reported s) {k : Nat} {stage : DropTcp}
    (hi : s.calls[i]? = some (.dropTcp k stage)) : Custody (s.stepDropTcp i k stage) := by
  have hstep := State.dropTcpStep (s := s) (i := i) k stage
  have hf := State.frame_stepDropTcp (s := s) (i := i) k stage
  generalize s.stepDropTcp i k stage = t at hstep hf
  cases hstep with
  | close _ =>
    refine h.keep hf hi rfl (by simp) rfl (.release rfl fun _ hk => ?_) (.same rfl rfl) (.inl rfl)
      (.inl rfl) (.inl rfl) (.inl rfl)
    cases hk
  | closed j b hb =>
    refine h.keep hf hi rfl rfl rfl (.release rfl fun _ hk => ?_) (.same rfl rfl) (.inl rfl)
      (.inl rfl) (.inl rfl) (.inl rfl)
    cases hk
    exact hf.disconnected (hr.disconnected_of_answer hb)
  | await j _ =>
    exact h.keep hf hi rfl (by simp) rfl (.same rfl rfl) (.same rfl rfl) (.inl rfl) (.inl rfl)
      (.inl rfl) (.inl rfl)
  | returned => exact h
  | _ =>
    exact h.keep hf hi rfl rfl rfl (.same rfl rfl) (.same rfl rfl) (.inl rfl) (.inl rfl)
      (.inl rfl) (.inl rfl)

theorem stepDropUdp (h : Custody s) (hr : Reported s) {u : Nat} {stage : DropUdp}
    (hi : s.calls[i]? = some (.dropUdp u stage)) : Custody (s.stepDropUdp i u stage) := by
  have hstep := State.dropUdpStep (s := s) (i := i) u stage
  have hf := State.frame_stepDropUdp (s := s) (i := i) u stage
  generalize s.stepDropUdp i u stage = t at hstep hf
  cases hstep with
  | current hu =>
    exact h.keep hf hi rfl rfl (by simp) (.same rfl rfl) (.take hu.symm rfl) (.inl rfl) (.inr rfl)
      (.inl rfl) (.inl rfl)
  | other _ =>
    refine h.keep hf hi rfl rfl (by simp) (.same rfl rfl) (.release rfl fun _ hu => ?_) (.inl rfl)
      (.inl rfl) (.inl rfl) (.inl rfl)
    cases hu
  | tell j hb | quiet _ j _ hb _ =>
    refine h.keep hf hi rfl rfl rfl (.same rfl rfl) (.release rfl fun _ hu => ?_) (.inl rfl)
      (.inl rfl) (.inl rfl) (.inl rfl)
    cases hu
    exact hf.closed (hr.closed_of_answer hb)
  | await _ j _ =>
    exact h.keep hf hi rfl rfl (by simp) (.same rfl rfl) (.same rfl rfl) (.inl rfl) (.inl rfl)
      (.inl rfl) (.inl rfl)
  | returned _ _ _ => exact h

theorem stepClose (h : Custody s) {stage : Close} (hi : s.calls[i]? = some (.close stage)) :
    Custody (s.stepClose i stage) := by
  have hstep := State.closeStep (s := s) (i := i) stage
  have hf := State.frame_stepClose (s := s) (i := i) stage
  generalize s.stepClose i stage = t at hstep hf
  cases hstep with
  | returned => exact h
  | _ =>
    exact h.keep hf hi rfl rfl rfl (.same rfl rfl) (.same rfl rfl) (.inl rfl) (.inl rfl)
      (.inl rfl) (.inl rfl)

theorem stepCall (h : Custody s) (ha : Attaching s) (hr : Reported s) (hb : Bounded s)
    (hone : s.OneConnect) {c : Caller} (hi : s.calls[i]? = some c) (outcome : Except IoError Unit)
    (hone' : (s.stepCall i outcome c).OneConnect) : Custody (s.stepCall i outcome c) := by
  cases c with
  | connectTcp thenUdp stage => exact h.stepTcpConnect ha hr hb hone hi outcome hone'
  | connectUdp closeTcp stage => exact h.stepUdpConnect hone hi outcome
  | closeTcp error stage => exact h.stepCloseTcp hr hi
  | disconnect n stage => exact h.stepDisconnect hr hi
  | close stage => exact h.stepClose hi
  | dropTcp k stage => exact h.stepDropTcp hr hi
  | dropUdp u stage => exact h.stepDropUdp hr hi

theorem start (h : Custody s) {c : Caller} (hT : c.awaitingTcp = false)
    (hU : c.awaitingUdp = false) : Custody (s.start c) := by
  have hold : ∀ (i : Nat) (d : Caller), (s.start c).calls[i]? = some d → s.calls[i]? = some d ∨ d = c := by
    intro i d hd
    rw [State.start_calls] at hd
    exact (Lifecycle.getElem?_append_eq_some hd).imp id fun h' => h'.2.symm
  constructor
  case quietTcp =>
    intro i d hd hw
    rcases hold i d hd with hd | rfl
    · exact h.quietTcp i d hd hw
    · rw [hT] at hw
      cases hw
  case quietUdp =>
    intro i d hd hw
    rcases hold i d hd with hd | rfl
    · exact h.quietUdp i d hd hw
    · rw [hU] at hw
      cases hw
  case streams =>
    intro k hk hlink
    exact (h.streams k hk hlink).imp id fun ⟨i, d, hd, hdk⟩ => ⟨i, d, State.getElem?_start hd, hdk⟩
  case datagrams =>
    intro u hu hopen
    exact (h.datagrams u hu hopen).imp id fun ⟨i, d, hd, hdu⟩ => ⟨i, d, State.getElem?_start hd, hdu⟩

theorem step (h : Custody s) (ha : Attaching s) (hr : Reported s) (hb : Bounded s)
    (hone : s.OneConnect) (a : Action) (hone' : (s.step a).OneConnect) : Custody (s.step a) := by
  rcases s.step_cases a with hs | ⟨c, hc, hs⟩ | ⟨i, c, o, hi, hs⟩ <;> rw [hs] at hone' ⊢
  · exact h
  · exact h.start (by cases hc <;> rfl) (by cases hc <;> rfl)
  · exact h.stepCall ha hr hb hone hi o hone'

/-- Custody holds along a run in which no two connects of a kind overlap at any point. -/
theorem run (h : Custody s) (ha : Attaching s) (hr : Reported s) (hb : Bounded s)
    (actions : List Action) (hone : ∀ n ≤ actions.length, (s.run (actions.take n)).OneConnect) :
    Custody (s.run actions) := by
  induction actions generalizing s with
  | nil => exact h
  | cons a actions ih =>
    have h₀ : s.OneConnect := hone 0 (Nat.zero_le _)
    have h₁ : (s.step a).OneConnect := hone 1 (by simp)
    refine ih (h.step ha hr hb h₀ a h₁) (ha.step hr hb a) (hr.step a) (hb.step a) fun n hn => ?_
    have := hone (n + 1) (by simp; omega)
    simpa [State.run] using this

end Custody

namespace Driven

variable {s : State}

theorem streams_settled (h : Driven s) (hret : ∀ c ∈ s.calls, c.returned = true) (k : Nat) :
    ∀ st ∈ (s.stream k).calls, st.running = false := by
  intro st hst
  obtain ⟨j, hj, rfl⟩ := List.getElem_of_mem hst
  cases hrun : ((s.stream k).calls[j]).running
  · rfl
  · obtain ⟨i, c, hc, hw⟩ := h.streams k j _ (List.getElem?_eq_getElem hj) hrun
    rw [(Caller.roles_of_returned (hret c (List.mem_of_getElem? hc))).2.2.1] at hw
    cases hw

theorem datagrams_settled (h : Driven s) (hret : ∀ c ∈ s.calls, c.returned = true) (u : Nat) :
    ∀ st ∈ (s.datagram u).closes, st.running = false := by
  intro st hst
  obtain ⟨j, hj, rfl⟩ := List.getElem_of_mem hst
  cases hrun : ((s.datagram u).closes[j]).running
  · rfl
  · obtain ⟨i, c, hc, hw⟩ := h.datagrams u j _ (List.getElem?_eq_getElem hj) hrun
    rw [(Caller.roles_of_returned (hret c (List.mem_of_getElem? hc))).2.2.2] at hw
    cases hw

end Driven

namespace Custody

variable {s : State} {k u : Nat}

/-- With every call returned and the stream slot empty, every stream session is closed. -/
theorem disconnected_of_settled (h : Custody s) (hret : ∀ c ∈ s.calls, c.returned = true)
    (htcp : s.tcp = none) (hk : k < s.streams.length) : (s.stream k).link = .disconnected := by
  by_contra hlink
  rcases h.streams k hk hlink with hslot | ⟨i, c, hc, hck⟩
  · rw [htcp] at hslot
    cases hslot
  · rw [(Caller.roles_of_returned (hret c (List.mem_of_getElem? hc))).1] at hck
    cases hck

theorem closed_of_settled (h : Custody s) (hret : ∀ c ∈ s.calls, c.returned = true)
    (hudp : s.udp = none) (hu : u < s.datagrams.length) : (s.datagram u).isOpen = false := by
  cases hopen : (s.datagram u).isOpen
  · rfl
  · rcases h.datagrams u hu hopen with hslot | ⟨i, c, hc, hcu⟩
    · rw [hudp] at hslot
      cases hslot
    · rw [(Caller.roles_of_returned (hret c (List.mem_of_getElem? hc))).2.1] at hcu
      cases hcu

end Custody

/-- Over every interleaving in which no two connects of a kind overlap, every open session is in its
slot or held by a call that closes it, and once all calls return every session is closed. -/
theorem one_transport_of_each_kind (p : Protocol) (actions : List Action)
    (hone : ∀ n ≤ actions.length, ((State.init p).run (actions.take n)).OneConnect) :
    let s := (State.init p).run actions
    (∀ k < s.streams.length, (s.stream k).link ≠ .disconnected → s.tcp = some k ∨
      ∃ (i : Nat) (c : Caller), s.calls[i]? = some c ∧ c.closingStream? = some k) ∧
    (∀ u < s.datagrams.length, (s.datagram u).isOpen = true → s.udp = some u ∨
      ∃ (i : Nat) (c : Caller), s.calls[i]? = some c ∧ c.holdsDatagram? = some u) ∧
    (∀ (i : Nat) (c : Caller), s.calls[i]? = some c → c.awaitingTcp = true → s.TcpQuiet) ∧
    (∀ (i : Nat) (c : Caller), s.calls[i]? = some c → c.awaitingUdp = true → s.UdpQuiet) ∧
    s.trace.countP (connectedOf .tcp) + s.calls.countP Caller.announcingTcp = s.streams.length ∧
    s.trace.countP (connectedOf .udp) + s.calls.countP Caller.announcingUdp = s.datagrams.length ∧
    ((∀ c ∈ s.calls, c.returned = true) → s.tcp = none → s.udp = none →
      (∀ k < s.streams.length, (s.stream k).link = .disconnected ∧ (s.stream k).tasks = [] ∧
        ∀ t ∈ (s.stream k).spawned, t ∈ (s.stream k).aborted) ∧
      (∀ u < s.datagrams.length, (s.datagram u).isOpen = false ∧ (s.datagram u).aborted = true)) := by
  intro s
  have hr : Reported s := (Reported.init p).run actions
  have hd : Driven s := (Driven.init p).run actions
  have hn : Announced s := (Announced.init p).run actions
  have hc : Custody s :=
    (Custody.init p).run (Attaching.init p) (Reported.init p) (Bounded.init p) actions hone
  refine ⟨hc.streams, hc.datagrams, hc.quietTcp, hc.quietUdp, hn.tcp, hn.udp,
    fun hret htcp hudp => ⟨fun k hk => ?_, fun u hu => ?_⟩⟩
  · have hlink := hc.disconnected_of_settled hret htcp hk
    exact ⟨hlink, (hr.streams k).tasks_aborted_of_settled hlink (hd.streams_settled hret k)⟩
  · have hclosed := hc.closed_of_settled hret hudp hu
    exact ⟨hclosed, (hr.datagrams u).aborted_of_settled hclosed (hd.datagrams_settled hret u)⟩

/-- A `connect` for both transports followed by a `disconnect`, one call after the other. -/
theorem connect_then_disconnect_closes_both :
    let actions : List Action := [.connect] ++ List.replicate 15 (.call 0) ++ [.disconnect] ++
      List.replicate 11 (.call 1)
    (∀ n ≤ actions.length, ((State.init .both).run (actions.take n)).OneConnect) ∧
    let s := (State.init .both).run actions
    (∀ k < s.streams.length, (s.stream k).link ≠ .disconnected → s.tcp = some k ∨
      ∃ (i : Nat) (c : Caller), s.calls[i]? = some c ∧ c.closingStream? = some k) ∧
    (∀ u < s.datagrams.length, (s.datagram u).isOpen = true → s.udp = some u ∨
      ∃ (i : Nat) (c : Caller), s.calls[i]? = some c ∧ c.holdsDatagram? = some u) ∧
    (∀ (i : Nat) (c : Caller), s.calls[i]? = some c → c.awaitingTcp = true → s.TcpQuiet) ∧
    (∀ (i : Nat) (c : Caller), s.calls[i]? = some c → c.awaitingUdp = true → s.UdpQuiet) ∧
    s.trace.countP (connectedOf .tcp) + s.calls.countP Caller.announcingTcp = s.streams.length ∧
    s.trace.countP (connectedOf .udp) + s.calls.countP Caller.announcingUdp = s.datagrams.length ∧
    ((∀ c ∈ s.calls, c.returned = true) → s.tcp = none → s.udp = none →
      (∀ k < s.streams.length, (s.stream k).link = .disconnected ∧ (s.stream k).tasks = [] ∧
        ∀ t ∈ (s.stream k).spawned, t ∈ (s.stream k).aborted) ∧
      (∀ u < s.datagrams.length, (s.datagram u).isOpen = false ∧ (s.datagram u).aborted = true)) :=
  have hone : ∀ n ≤ 28, ((State.init .both).run (([.connect] ++ List.replicate 15 (.call 0) ++
      [.disconnect] ++ List.replicate 11 (.call 1) : List Action).take n)).OneConnect := by decide
  ⟨hone, one_transport_of_each_kind .both _ hone⟩

/-- Two `connect_tcp` pass their checks before either stores its session: the first stays connected,
its tasks running, in no slot after a `disconnect` and once every call has returned. -/
theorem overlapping_connects_leave_a_session_open :
    let actions : List Action := [.connectTcp, .connectTcp, .call 0, .call 0, .call 1, .call 1,
      .call 0, .call 1] ++ List.replicate 7 (.call 0) ++ List.replicate 7 (.call 1) ++
      [.disconnect] ++ List.replicate 8 (.call 2)
    let s := (State.init .tcp).run actions
    ¬((State.init .tcp).run (actions.take 6)).OneConnect ∧
    s.calls[0]? = some (.connectTcp false (.returned (.ok ()))) ∧
    s.calls[1]? = some (.connectTcp false (.returned (.ok ()))) ∧
    (∀ c ∈ s.calls, c.returned = true) ∧ s.tcp = none ∧ s.udp = none ∧
    (s.stream 0).link = .connected ∧ (s.stream 0).tasks = [.reader 0, .writer 0] ∧
    (s.stream 0).aborted = [] :=
  ⟨by decide, rfl, rfl, by decide, rfl, rfl, rfl, rfl, rfl⟩

end ClientTasks

end FrameLink
