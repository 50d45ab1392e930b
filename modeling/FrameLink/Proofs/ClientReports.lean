import FrameLink.Proofs.ClientSteps

/-!
What the client tells the application when its transports are closed, over every interleaving of
its calls.
-/

namespace FrameLink

namespace ClientTasks

/-- Whether a dispatch is an `on_disconnected(q)` handed over by call `i`. -/
def disconnectedBy (i : Nat) (q : Protocol) : Nat × ClientEvent → Bool
  | (j, .disconnected p) => j == i && p == q
  | _ => false

theorem fst_of_disconnectedBy {i : Nat} {q : Protocol} {e : Nat × ClientEvent}
    (h : disconnectedBy i q e = true) : e.1 = i := by
  obtain ⟨j, e⟩ := e
  cases e <;> simp_all [disconnectedBy]

namespace Caller

/-- What a call has read from its closes: its stream close and datagram close, each as the numbers
of the session and the call, and the or of their answers. -/
def read? : Caller → Option (Option (Nat × Nat) × Option (Nat × Nat) × Bool)
  | .disconnect _ (.closeUdp tcp _ closed) => some (tcp, none, closed)
  | .disconnect _ (.notify tcp udp closed) => some (tcp, udp, closed)
  | .disconnect _ (.returned tcp udp closed) => some (tcp, udp, closed)
  | .closeTcp _ (.returned tcp closed) => some (tcp, none, closed)
  | .dropUdp u (.returned _ j closed) => some (none, some (u, j), closed)
  | _ => none

/-- The disconnection a call has reported: `Both` from a `disconnect` asked to tell, `Udp` from a
current `drop_udp`, `Tcp` from a `close_tcp`, once a close of its own answered `true`. -/
def report : Caller → Option Protocol
  | .disconnect tell (.returned _ _ closed) => if tell && closed then some .both else none
  | .dropUdp _ (.returned current _ closed) => if current && closed then some .udp else none
  | .closeTcp _ (.returned _ closed) => if closed then some .tcp else none
  | _ => none

theorem report_udpReturns (closeTcp : Bool) (result : Except NetError Unit) :
    (State.udpReturns closeTcp result).report = none := by
  unfold State.udpReturns
  split <;> rfl

theorem read_udpReturns (closeTcp : Bool) (result : Except NetError Unit) :
    (State.udpReturns closeTcp result).read? = none := by
  unfold State.udpReturns
  split <;> rfl

end Caller

namespace State

variable {s t : State} {i k j u : Nat} {b : Bool}

def streamClosed (s : State) : Option (Nat × Nat) → Option Bool
  | none => some false
  | some (k, j) => s.streamAnswer k j

def datagramClosed (s : State) : Option (Nat × Nat) → Option Bool
  | none => some false
  | some (u, j) => (s.datagram u).answer j

/-- What a call keeps of the answers of its closes is what they answered. -/
def Answered (s : State) (c : Caller) : Prop :=
  ∀ tcp udp closed, c.read? = some (tcp, udp, closed) →
    ∃ b₁ b₂, s.streamClosed tcp = some b₁ ∧ s.datagramClosed udp = some b₂ ∧ closed = (b₁ || b₂)

theorem answered_of_read_none {c : Caller} (h : c.read? = none) : s.Answered c := by
  intro _ _ _ hread
  rw [h] at hread
  cases hread

theorem countP_dispatch {e : ClientEvent} (he : ∀ p, e ≠ .disconnected p) (q : Protocol) :
    (s.dispatch i e).trace.countP (disconnectedBy i q) = s.trace.countP (disconnectedBy i q) := by
  cases e with
  | disconnected p => exact absurd rfl (he p)
  | connected p | data payload | failed operation error => simp [disconnectedBy]

theorem Answered.of_read {c c' : Caller} (h : s.Answered c) (hread : c'.read? = c.read?) :
    s.Answered c' :=
  fun tcp udp closed h' => h tcp udp closed (hread ▸ h')

theorem streamAnswer_eq_some :
    s.streamAnswer k j = some b ↔ (s.stream k).calls[j]? = some (.close (.returned b)) := by
  unfold streamAnswer
  split
  next closed hclosed => simp [hclosed]
  next hnone =>
    simp only [reduceCtorEq, false_iff]
    exact hnone b

theorem answered_closeTcp {error : NetError} (hb : s.streamAnswer k j = some b) :
    s.Answered (.closeTcp error (.returned (some (k, j)) b)) := by
  intro tcp udp closed hread
  cases hread
  exact ⟨b, false, hb, rfl, by simp⟩

theorem answered_dropUdp {current : Bool} (hb : (s.datagram u).answer j = some b) :
    s.Answered (.dropUdp u (.returned current j b)) := by
  intro tcp udp closed hread
  cases hread
  exact ⟨false, b, rfl, hb, by simp⟩

end State

theorem StreamsStep.streamAnswer (h : StreamsStep s t) (hb : s.streamAnswer k j = some b) :
    t.streamAnswer k j = some b :=
  State.streamAnswer_eq_some.2 (h.keeps (P := fun x => x.calls[j]? = some (.close (.returned b)))
    (fun _ a hx => Lifecycle.State.step_close_returned hx a) (State.streamAnswer_eq_some.1 hb))

theorem DatagramsStep.answer (h : DatagramsStep s t) (hb : (s.datagram u).answer j = some b) :
    (t.datagram u).answer j = some b :=
  h.keeps (P := fun x => x.answer j = some b) (fun _ a hx => Datagram.answer_step hx a) hb

namespace Frame

theorem streamClosed (h : Frame s t i) {r : Option (Nat × Nat)} (hr : s.streamClosed r = some b) :
    t.streamClosed r = some b := by
  cases r with
  | none => exact hr
  | some r => exact h.streams.streamAnswer hr

theorem datagramClosed (h : Frame s t i) {r : Option (Nat × Nat)}
    (hr : s.datagramClosed r = some b) : t.datagramClosed r = some b := by
  cases r with
  | none => exact hr
  | some r => exact h.datagrams.answer hr

/-- Answers, once given, stay: what a call keeps of them stays true. -/
theorem answered (h : Frame s t i) {c : Caller} (hc : s.Answered c) : t.Answered c := by
  intro tcp udp closed hread
  obtain ⟨b₁, b₂, h₁, h₂, hb⟩ := hc tcp udp closed hread
  exact ⟨b₁, b₂, h.streamClosed h₁, h.datagramClosed h₂, hb⟩

theorem countP_disconnectedBy (h : Frame s t i) {j : Nat} (hij : i ≠ j) (q : Protocol) :
    t.trace.countP (disconnectedBy j q) = s.trace.countP (disconnectedBy j q) := by
  rcases h.trace with htrace | ⟨e, htrace⟩
  · rw [htrace]
  · rw [htrace, List.countP_append]
    cases e <;> simp [disconnectedBy, hij]

end Frame

/-- What holds in every state the client's calls can reach: every session is consistent, each call
has dispatched what it reports, and keeps what its closes answered. -/
structure Reported (s : State) : Prop where
  streams : ∀ k, Lifecycle.Consistent (s.stream k)
  datagrams : ∀ u, Datagram.Consistent (s.datagram u)
  traced : ∀ e ∈ s.trace, e.1 < s.calls.length
  reports : ∀ (i : Nat) (c : Caller), s.calls[i]? = some c →
    ∀ q, s.trace.countP (disconnectedBy i q) = if c.report = some q then 1 else 0
  answered : ∀ (i : Nat) (c : Caller), s.calls[i]? = some c → s.Answered c

namespace Reported

theorem init (p : Protocol) : Reported (State.init p) where
  streams _ := by simpa [State.stream, State.init] using Lifecycle.Consistent.init
  datagrams _ := by simpa [State.datagram, State.init] using Datagram.Consistent.opened
  traced := by simp [State.init]
  reports := by simp [State.init]
  answered := by simp [State.init]

theorem move (h : Reported s) {c : Caller} (hi : s.calls[i]? = some c) {c' : Caller}
    (hframe : Frame s t i) (hcalls : t.calls = s.calls.set i c')
    (hreport : ∀ q, t.trace.countP (disconnectedBy i q) = if c'.report = some q then 1 else 0)
    (hanswered : t.Answered c') : Reported t := by
  have hlt : i < s.calls.length := (List.getElem?_eq_some_iff.1 hi).1
  constructor
  case streams => exact fun k => hframe.streams.keeps (fun _ a hx => hx.step a) (h.streams k)
  case datagrams => exact fun u => hframe.datagrams.keeps (fun _ a hx => hx.step a) (h.datagrams u)
  case traced =>
    intro e he
    rw [hcalls, List.length_set]
    rcases hframe.trace with htrace | ⟨e', htrace⟩
    · exact h.traced e (htrace ▸ he)
    · rw [htrace, List.mem_append, List.mem_singleton] at he
      rcases he with he | rfl
      · exact h.traced e he
      · exact hlt
  case reports =>
    intro j d hj q
    rw [hcalls, List.getElem?_set] at hj
    by_cases hij : i = j
    · subst hij
      simp only [if_true, hlt] at hj
      cases hj
      exact hreport q
    · simp only [hij, if_false] at hj
      rw [hframe.countP_disconnectedBy hij]
      exact h.reports j d hj q
  case answered =>
    intro j d hj
    rw [hcalls, List.getElem?_set] at hj
    by_cases hij : i = j
    · subst hij
      simp only [if_true, hlt] at hj
      cases hj
      exact hanswered
    · simp only [hij, if_false] at hj
      exact hframe.answered (h.answered j d hj)

theorem plain (h : Reported s) {c c' : Caller} (hi : s.calls[i]? = some c) (hframe : Frame s t i)
    (hcalls : t.calls = s.calls.set i c')
    (htrace : ∀ q, t.trace.countP (disconnectedBy i q) = s.trace.countP (disconnectedBy i q))
    (hc : c.report = none) (hc' : c'.report = none) (hanswered : t.Answered c') : Reported t := by
  refine h.move hi hframe hcalls (fun q => ?_) hanswered
  rw [htrace, h.reports i c hi q, hc, hc']

theorem tell (h : Reported s) {c c' : Caller} (hi : s.calls[i]? = some c) (hframe : Frame s t i)
    (hcalls : t.calls = s.calls.set i c') {q : Protocol}
    (htrace : t.trace = s.trace ++ [(i, .disconnected q)]) (hc : c.report = none)
    (hc' : c'.report = some q) (hanswered : t.Answered c') : Reported t := by
  refine h.move hi hframe hcalls (fun q' => ?_) hanswered
  rw [htrace, List.countP_append, h.reports i c hi q', hc, hc']
  by_cases hq : q = q' <;> simp [disconnectedBy, hq]

theorem stepDisconnect (h : Reported s) {n : Bool} {d : Disconnect}
    (hi : s.calls[i]? = some (.disconnect n d)) : Reported (s.stepDisconnect i n d) := by
  have hstep := State.disconnectStep (s := s) (i := i) n d
  have hframe := State.frame_stepDisconnect (s := s) (i := i) n d
  generalize s.stepDisconnect i n d = t at hstep hframe
  cases hstep with
  | takeDatagram u _ | takeNothing _ =>
    refine h.plain hi hframe rfl (fun _ => rfl) rfl rfl ?_
    intro tcp udp closed hread
    cases hread
    exact ⟨false, false, rfl, rfl, rfl⟩
  | closeDatagram k j u b hb | streamClosed k j b hb =>
    refine h.plain hi hframe rfl (fun _ => rfl) rfl rfl ?_
    intro tcp' udp' closed hread
    cases hread
    exact ⟨b, false, hb, rfl, by simp⟩
  | datagramClosed tcp u j closed b hb =>
    refine h.plain hi hframe rfl (fun _ => rfl) rfl rfl ?_
    intro tcp' udp' closed' hread
    cases hread
    obtain ⟨b₁, b₂, h₁, h₂, hclosed⟩ := h.answered i _ hi tcp none closed rfl
    cases h₂
    exact ⟨b₁, b, h₁, hb, by simp [hclosed]⟩
  | awaitDatagram tcp u j closed _ =>
    exact h.plain hi hframe rfl (fun _ => rfl) rfl rfl (hframe.answered (h.answered i _ hi))
  | tell tcp udp closed htold =>
    obtain ⟨hclosed, hn⟩ := Bool.and_eq_true_iff.1 htold
    subst hclosed hn
    exact h.tell hi hframe rfl rfl rfl rfl (hframe.answered ((h.answered i _ hi).of_read rfl))
  | quiet tcp udp closed hquiet =>
    refine h.plain hi hframe rfl (fun _ => rfl) rfl ?_
      (hframe.answered ((h.answered i _ hi).of_read rfl))
    cases n <;> cases closed <;> simp_all [Caller.report]
  | returned tcp udp closed => exact h
  | _ => exact h.plain hi hframe rfl (fun _ => rfl) rfl rfl (State.answered_of_read_none rfl)

theorem stepTcpConnect (h : Reported s) {thenUdp : Bool} {stage : TcpConnect}
    (hi : s.calls[i]? = some (.connectTcp thenUdp stage)) (outcome : Except IoError Unit) :
    Reported (s.stepTcpConnect i thenUdp outcome stage) := by
  have hstep := State.tcpStep (s := s) (i := i) thenUdp outcome stage
  have hframe := State.frame_stepTcpConnect (s := s) (i := i) thenUdp outcome stage
  generalize s.stepTcpConnect i thenUdp outcome stage = t at hstep hframe
  cases hstep with
  | fail _ | announce _ =>
    exact h.plain hi hframe rfl (State.countP_dispatch (by simp)) rfl rfl
      (State.answered_of_read_none rfl)
  | attached k j _ =>
    cases thenUdp <;>
      exact h.plain hi hframe rfl (fun _ => rfl) rfl rfl (State.answered_of_read_none rfl)
  | returned result => exact h
  | _ => exact h.plain hi hframe rfl (fun _ => rfl) rfl rfl (State.answered_of_read_none rfl)

theorem stepUdpConnect (h : Reported s) {closeTcp : Bool} {stage : UdpConnect}
    (hi : s.calls[i]? = some (.connectUdp closeTcp stage)) (outcome : Except IoError Unit) :
    Reported (s.stepUdpConnect i closeTcp outcome stage) := by
  have hstep := State.udpStep (s := s) (i := i) closeTcp outcome stage
  have hframe := State.frame_stepUdpConnect (s := s) (i := i) closeTcp outcome stage
  generalize s.stepUdpConnect i closeTcp outcome stage = t at hstep hframe
  cases hstep with
  | refuseClosed _ | refuseConnected _ | fail _ =>
    exact h.plain hi hframe rfl (fun _ => rfl) rfl (Caller.report_udpReturns _ _)
      (State.answered_of_read_none (Caller.read_udpReturns _ _))
  | announce =>
    exact h.plain hi hframe rfl (State.countP_dispatch (by simp)) rfl
      (Caller.report_udpReturns _ _) (State.answered_of_read_none (Caller.read_udpReturns _ _))
  | returned result => exact h
  | _ => exact h.plain hi hframe rfl (fun _ => rfl) rfl rfl (State.answered_of_read_none rfl)

theorem stepCloseTcp (h : Reported s) {error : NetError} {stage : CloseTcp}
    (hi : s.calls[i]? = some (.closeTcp error stage)) : Reported (s.stepCloseTcp i error stage) := by
  have hstep := State.closeTcpStep (s := s) (i := i) error stage
  have hframe := State.frame_stepCloseTcp (s := s) (i := i) error stage
  generalize s.stepCloseTcp i error stage = t at hstep hframe
  cases hstep with
  | takeNothing _ =>
    refine h.plain hi hframe rfl (fun _ => rfl) rfl rfl ?_
    intro tcp udp closed hread
    cases hread
    exact ⟨false, false, rfl, rfl, rfl⟩
  | tell k j hb =>
    exact h.tell hi hframe rfl rfl rfl (by simp [Caller.report]) (State.answered_closeTcp hb)
  | quiet k j hb =>
    exact h.plain hi hframe rfl (fun _ => rfl) rfl (by simp [Caller.report])
      (State.answered_closeTcp hb)
  | returned tcp closed => exact h
  | _ => exact h.plain hi hframe rfl (fun _ => rfl) rfl rfl (State.answered_of_read_none rfl)

theorem stepDropTcp (h : Reported s) {k : Nat} {stage : DropTcp}
    (hi : s.calls[i]? = some (.dropTcp k stage)) : Reported (s.stepDropTcp i k stage) := by
  have hstep := State.dropTcpStep (s := s) (i := i) k stage
  have hframe := State.frame_stepDropTcp (s := s) (i := i) k stage
  generalize s.stepDropTcp i k stage = t at hstep hframe
  cases hstep with
  | returned => exact h
  | _ => exact h.plain hi hframe rfl (fun _ => rfl) rfl rfl (State.answered_of_read_none rfl)

theorem stepDropUdp (h : Reported s) {u : Nat} {stage : DropUdp}
    (hi : s.calls[i]? = some (.dropUdp u stage)) : Reported (s.stepDropUdp i u stage) := by
  have hstep := State.dropUdpStep (s := s) (i := i) u stage
  have hframe := State.frame_stepDropUdp (s := s) (i := i) u stage
  generalize s.stepDropUdp i u stage = t at hstep hframe
  cases hstep with
  | tell j hb =>
    exact h.tell hi hframe rfl rfl rfl (by simp [Caller.report]) (State.answered_dropUdp hb)
  | quiet current j b hb hquiet =>
    exact h.plain hi hframe rfl (fun _ => rfl) rfl (by simp [Caller.report, hquiet])
      (State.answered_dropUdp hb)
  | returned current j closed => exact h
  | _ => exact h.plain hi hframe rfl (fun _ => rfl) rfl rfl (State.answered_of_read_none rfl)

theorem stepClose (h : Reported s) {stage : Close} (hi : s.calls[i]? = some (.close stage)) :
    Reported (s.stepClose i stage) := by
  have hstep := State.closeStep (s := s) (i := i) stage
  have hframe := State.frame_stepClose (s := s) (i := i) stage
  generalize s.stepClose i stage = t at hstep hframe
  cases hstep with
  | returned => exact h
  | _ => exact h.plain hi hframe rfl (fun _ => rfl) rfl rfl (State.answered_of_read_none rfl)

theorem stepCall (h : Reported s) {c : Caller} (hi : s.calls[i]? = some c)
    (outcome : Except IoError Unit) : Reported (s.stepCall i outcome c) := by
  cases c with
  | connectTcp thenUdp stage => exact h.stepTcpConnect hi outcome
  | connectUdp closeTcp stage => exact h.stepUdpConnect hi outcome
  | closeTcp error stage => exact h.stepCloseTcp hi
  | disconnect n stage => exact h.stepDisconnect hi
  | close stage => exact h.stepClose hi
  | dropTcp k stage => exact h.stepDropTcp hi
  | dropUdp u stage => exact h.stepDropUdp hi

theorem start (h : Reported s) {c : Caller} (hc : c.report = none) (hread : c.read? = none) :
    Reported (s.start c) := by
  have hframe : Frame s (s.start c) s.calls.length :=
    ⟨.same fun _ => rfl, .same fun _ => rfl, .inl rfl⟩
  constructor
  case streams => exact h.streams
  case datagrams => exact h.datagrams
  case traced =>
    intro e he
    simpa using Nat.lt_succ_of_lt (h.traced e he)
  case reports =>
    intro j d hj q
    rw [State.start_calls] at hj
    rcases Lifecycle.getElem?_append_eq_some hj with hj | ⟨rfl, rfl⟩
    · exact h.reports j d hj q
    · rw [hc, if_neg (by simp), State.start_trace, List.countP_eq_zero]
      intro e he hby
      have hlt := h.traced e he
      rw [fst_of_disconnectedBy hby] at hlt
      exact Nat.lt_irrefl _ hlt
  case answered =>
    intro j d hj
    rw [State.start_calls] at hj
    rcases Lifecycle.getElem?_append_eq_some hj with hj | ⟨-, rfl⟩
    · exact hframe.answered (h.answered j d hj)
    · exact State.answered_of_read_none hread

theorem step (h : Reported s) (a : Action) : Reported (s.step a) := by
  rcases s.step_cases a with hs | ⟨c, hc, hs⟩ | ⟨i, c, o, hi, hs⟩ <;> rw [hs]
  · exact h
  · exact h.start (by cases hc <;> rfl) (by cases hc <;> rfl)
  · exact h.stepCall hi o

theorem run (h : Reported s) (actions : List Action) : Reported (s.run actions) := by
  induction actions generalizing s with
  | nil => exact h
  | cons a actions ih => exact ih (h.step a)

end Reported


namespace Caller

/-- The close of a stream session that a call has made and waits for or has read. -/
def streamRef? : Caller → Option (Nat × Nat)
  | .disconnect _ (.closeTcp r _) => some r
  | .disconnect _ (.closeUdp r _ _) | .disconnect _ (.notify r _ _)
  | .disconnect _ (.returned r _ _) => r
  | .closeTcp _ (.close r) => some r
  | .closeTcp _ (.returned r _) => r
  | _ => none

def datagramRef? : Caller → Option (Nat × Nat)
  | .disconnect _ (.closeUdp _ r _) => some r
  | .disconnect _ (.notify _ r _) | .disconnect _ (.returned _ r _) => r
  | .dropUdp u (.close _ j) | .dropUdp u (.returned _ j _) => some (u, j)
  | _ => none

theorem streamRef_of_read {c : Caller} {r : Nat × Nat} {udp : Option (Nat × Nat)} {closed : Bool}
    (h : c.read? = some (some r, udp, closed)) : c.streamRef? = some r := by
  unfold read? at h
  split at h <;> cases h <;> rfl

theorem datagramRef_of_read {c : Caller} {tcp : Option (Nat × Nat)} {r : Nat × Nat} {closed : Bool}
    (h : c.read? = some (tcp, some r, closed)) : c.datagramRef? = some r := by
  unfold read? at h
  split at h <;> cases h <;> rfl

theorem refs_udpReturns (closeTcp : Bool) (result : Except NetError Unit) :
    (State.udpReturns closeTcp result).streamRef? = none ∧
      (State.udpReturns closeTcp result).datagramRef? = none := by
  unfold State.udpReturns
  split <;> exact ⟨rfl, rfl⟩

end Caller

/-- Of the calls, every close that `ref` names was made on its session, and no two calls name the
same close. -/
structure Refs (calls : List Caller) (ref : Caller → Option (Nat × Nat)) (made : Nat → Nat) :
    Prop where
  made : ∀ (i : Nat) (c : Caller), calls[i]? = some c → ∀ k j, ref c = some (k, j) → j < made k
  owner : ∀ (i i' : Nat) (c c' : Caller) (r : Nat × Nat), calls[i]? = some c → calls[i']? = some c' →
    ref c = some r → ref c' = some r → i = i'

/-- How a move of a call changes the close it names: it keeps it, or names one just made. -/
inductive RefMove (old new : Option (Nat × Nat)) (made made' : Nat → Nat) : Prop
  | keep : new = old → RefMove old new made made'
  | fresh (k : Nat) : new = some (k, made k) → made k < made' k → RefMove old new made made'

namespace Refs

variable {calls : List Caller} {ref : Caller → Option (Nat × Nat)} {made made' : Nat → Nat}
  {i : Nat} {c c' : Caller}

theorem move (h : Refs calls ref made) (hi : calls[i]? = some c) (hmade : ∀ k, made k ≤ made' k)
    (hmove : RefMove (ref c) (ref c') made made') : Refs (calls.set i c') ref made' := by
  have hnew : ∀ k j, ref c' = some (k, j) → j < made' k := by
    intro k j hj
    cases hmove with
    | keep heq => exact Nat.lt_of_lt_of_le (h.made i c hi k j (heq ▸ hj)) (hmade k)
    | fresh k' heq hlt =>
      rw [heq] at hj
      cases hj
      exact hlt
  have hown : ∀ i' d r, i ≠ i' → calls[i']? = some d → ref c' = some r → ref d = some r → False := by
    intro i' d r hne hd hr hdr
    cases hmove with
    | keep heq => exact hne (h.owner i i' c d r hi hd (heq ▸ hr) hdr)
    | fresh k heq _ =>
      rw [heq] at hr
      cases hr
      exact Nat.lt_irrefl _ (h.made i' d hd k (made k) hdr)
  constructor
  case made =>
    intro j d hj k l hl
    rcases Lifecycle.getElem?_set_eq_some hj with ⟨_, rfl⟩ | ⟨_, hj⟩
    · exact hnew k l hl
    · exact Nat.lt_of_lt_of_le (h.made j d hj k l hl) (hmade k)
  case owner =>
    intro j j' d d' r hj hj' hr hr'
    rcases Lifecycle.getElem?_set_eq_some hj with ⟨hij, rfl⟩ | ⟨hij, hj⟩
    · rcases Lifecycle.getElem?_set_eq_some hj' with ⟨hij', _⟩ | ⟨hij', hj'⟩
      · exact hij.symm.trans hij'
      · exact (hown j' d' r (hij ▸ hij') hj' hr hr').elim
    · rcases Lifecycle.getElem?_set_eq_some hj' with ⟨hij', rfl⟩ | ⟨_, hj'⟩
      · exact (hown j d r (hij' ▸ hij) hj hr' hr).elim
      · exact h.owner j j' d d' r hj hj' hr hr'

theorem start (h : Refs calls ref made) (hc : ref c = none) : Refs (calls ++ [c]) ref made := by
  constructor
  case made =>
    intro j d hj k l hl
    rcases Lifecycle.getElem?_append_eq_some hj with hj | ⟨_, rfl⟩
    · exact h.made j d hj k l hl
    · rw [hc] at hl
      cases hl
  case owner =>
    intro j j' d d' r hj hj' hr hr'
    rcases Lifecycle.getElem?_append_eq_some hj with hj | ⟨_, rfl⟩
    · rcases Lifecycle.getElem?_append_eq_some hj' with hj' | ⟨_, rfl⟩
      · exact h.owner j j' d d' r hj hj' hr hr'
      · rw [hc] at hr'
        cases hr'
    · rw [hc] at hr
      cases hr

end Refs

/-- Every close a call names is its own: made on its session, and named by no other call. -/
structure Owned (s : State) : Prop where
  streams : Refs s.calls Caller.streamRef? fun k => (s.stream k).calls.length
  datagrams : Refs s.calls Caller.datagramRef? fun u => (s.datagram u).closes.length

namespace Owned

variable {s t : State} {i : Nat}

theorem init (p : Protocol) : Owned (State.init p) where
  streams := ⟨by simp [State.init], by simp [State.init]⟩
  datagrams := ⟨by simp [State.init], by simp [State.init]⟩

theorem move (h : Owned s) {c c' : Caller} (hi : s.calls[i]? = some c) (hframe : Frame s t i)
    (hcalls : t.calls = s.calls.set i c')
    (hstream : RefMove c.streamRef? c'.streamRef? (fun k => (s.stream k).calls.length)
      fun k => (t.stream k).calls.length)
    (hdatagram : RefMove c.datagramRef? c'.datagramRef? (fun u => (s.datagram u).closes.length)
      fun u => (t.datagram u).closes.length) : Owned t := by
  constructor
  case streams =>
    rw [hcalls]
    exact h.streams.move hi hframe.streams.length_le hstream
  case datagrams =>
    rw [hcalls]
    exact h.datagrams.move hi hframe.datagrams.length_le hdatagram

theorem keep (h : Owned s) {c c' : Caller} (hi : s.calls[i]? = some c) (hframe : Frame s t i)
    (hcalls : t.calls = s.calls.set i c') (hstream : c'.streamRef? = c.streamRef?)
    (hdatagram : c'.datagramRef? = c.datagramRef?) : Owned t :=
  h.move hi hframe hcalls (.keep hstream) (.keep hdatagram)

theorem stepDisconnect (h : Owned s) (hb : Bounded s) {n : Bool} {d : Disconnect}
    (hi : s.calls[i]? = some (.disconnect n d)) : Owned (s.stepDisconnect i n d) := by
  have hstep := State.disconnectStep (s := s) (i := i) n d
  have hframe := State.frame_stepDisconnect (s := s) (i := i) n d
  generalize s.stepDisconnect i n d = t at hstep hframe
  cases hstep with
  | takeUdp k =>
    have hk := hb.streams i _ hi k (by simp [Caller.streamsHeld])
    exact h.move hi hframe rfl
      (.fresh k rfl (State.length_onStream_close (s := { s with udp := none }) hk)) (.keep rfl)
  | takeDatagram u hu =>
    exact h.move hi hframe rfl (.keep rfl)
      (.fresh u rfl (State.length_onDatagram_close (s := { s with udp := none }) (hb.udp u hu)))
  | closeDatagram k j u b _ =>
    have hu := hb.datagrams i _ hi u (by simp [Caller.datagramsHeld])
    exact h.move hi hframe rfl (.keep rfl) (.fresh u rfl (State.length_onDatagram_close hu))
  | returned tcp udp closed => exact h
  | _ => exact h.keep hi hframe rfl rfl rfl

theorem stepTcpConnect (h : Owned s) {thenUdp : Bool} {stage : TcpConnect}
    (hi : s.calls[i]? = some (.connectTcp thenUdp stage)) (outcome : Except IoError Unit) :
    Owned (s.stepTcpConnect i thenUdp outcome stage) := by
  have hstep := State.tcpStep (s := s) (i := i) thenUdp outcome stage
  have hframe := State.frame_stepTcpConnect (s := s) (i := i) thenUdp outcome stage
  generalize s.stepTcpConnect i thenUdp outcome stage = t at hstep hframe
  cases hstep with
  | attached k j _ => cases thenUdp <;> exact h.keep hi hframe rfl rfl rfl
  | returned result => exact h
  | _ => exact h.keep hi hframe rfl rfl rfl

theorem stepUdpConnect (h : Owned s) {closeTcp : Bool} {stage : UdpConnect}
    (hi : s.calls[i]? = some (.connectUdp closeTcp stage)) (outcome : Except IoError Unit) :
    Owned (s.stepUdpConnect i closeTcp outcome stage) := by
  have hstep := State.udpStep (s := s) (i := i) closeTcp outcome stage
  have hframe := State.frame_stepUdpConnect (s := s) (i := i) closeTcp outcome stage
  generalize s.stepUdpConnect i closeTcp outcome stage = t at hstep hframe
  have hnone := Caller.refs_udpReturns closeTcp
  cases hstep with
  | refuseClosed _ | refuseConnected _ | fail _ | announce =>
    exact h.keep hi hframe rfl (hnone _).1 (hnone _).2
  | returned result => exact h
  | _ => exact h.keep hi hframe rfl rfl rfl

theorem stepCloseTcp (h : Owned s) (hb : Bounded s) {error : NetError} {stage : CloseTcp}
    (hi : s.calls[i]? = some (.closeTcp error stage)) : Owned (s.stepCloseTcp i error stage) := by
  have hstep := State.closeTcpStep (s := s) (i := i) error stage
  have hframe := State.frame_stepCloseTcp (s := s) (i := i) error stage
  generalize s.stepCloseTcp i error stage = t at hstep hframe
  cases hstep with
  | take k hk =>
    exact h.move hi hframe rfl
      (.fresh k rfl (State.length_onStream_close (s := { s with tcp := none }) (hb.tcp k hk)))
      (.keep rfl)
  | returned tcp closed => exact h
  | _ => exact h.keep hi hframe rfl rfl rfl

theorem stepDropTcp (h : Owned s) {k : Nat} {stage : DropTcp}
    (hi : s.calls[i]? = some (.dropTcp k stage)) : Owned (s.stepDropTcp i k stage) := by
  have hstep := State.dropTcpStep (s := s) (i := i) k stage
  have hframe := State.frame_stepDropTcp (s := s) (i := i) k stage
  generalize s.stepDropTcp i k stage = t at hstep hframe
  cases hstep with
  | returned => exact h
  | _ => exact h.keep hi hframe rfl rfl rfl

theorem stepDropUdp (h : Owned s) (hb : Bounded s) {u : Nat} {stage : DropUdp}
    (hi : s.calls[i]? = some (.dropUdp u stage)) : Owned (s.stepDropUdp i u stage) := by
  have hu := hb.datagrams i _ hi u (by simp [Caller.datagramsHeld])
  have hstep := State.dropUdpStep (s := s) (i := i) u stage
  have hframe := State.frame_stepDropUdp (s := s) (i := i) u stage
  generalize s.stepDropUdp i u stage = t at hstep hframe
  cases hstep with
  | current _ =>
    exact h.move hi hframe rfl (.keep rfl)
      (.fresh u rfl (State.length_onDatagram_close (s := { s with udp := none }) hu))
  | other _ =>
    exact h.move hi hframe rfl (.keep rfl) (.fresh u rfl (State.length_onDatagram_close hu))
  | returned current j closed => exact h
  | _ => exact h.keep hi hframe rfl rfl rfl

theorem stepClose (h : Owned s) {stage : Close} (hi : s.calls[i]? = some (.close stage)) :
    Owned (s.stepClose i stage) := by
  have hstep := State.closeStep (s := s) (i := i) stage
  have hframe := State.frame_stepClose (s := s) (i := i) stage
  generalize s.stepClose i stage = t at hstep hframe
  cases hstep with
  | returned => exact h
  | _ => exact h.keep hi hframe rfl rfl rfl

theorem stepCall (h : Owned s) (hb : Bounded s) {c : Caller} (hi : s.calls[i]? = some c)
    (outcome : Except IoError Unit) : Owned (s.stepCall i outcome c) := by
  cases c with
  | connectTcp thenUdp stage => exact h.stepTcpConnect hi outcome
  | connectUdp closeTcp stage => exact h.stepUdpConnect hi outcome
  | closeTcp error stage => exact h.stepCloseTcp hb hi
  | disconnect n stage => exact h.stepDisconnect hb hi
  | close stage => exact h.stepClose hi
  | dropTcp k stage => exact h.stepDropTcp hi
  | dropUdp u stage => exact h.stepDropUdp hb hi

theorem start (h : Owned s) {c : Caller} (hS : c.streamRef? = none) (hD : c.datagramRef? = none) :
    Owned (s.start c) :=
  ⟨h.streams.start hS, h.datagrams.start hD⟩

theorem step (h : Owned s) (hb : Bounded s) (a : Action) : Owned (s.step a) := by
  rcases s.step_cases a with hs | ⟨c, hc, hs⟩ | ⟨i, c, o, hi, hs⟩ <;> rw [hs]
  · exact h
  · exact h.start (by cases hc <;> rfl) (by cases hc <;> rfl)
  · exact h.stepCall hb hi o

theorem run (h : Owned s) (hb : Bounded s) (actions : List Action) : Owned (s.run actions) := by
  induction actions generalizing s with
  | nil => exact h
  | cons a actions ih => exact ih (h.step hb a) (hb.step a)

end Owned


inductive SessionId where
  | stream (k : Nat)
  | datagram (u : Nat)

/-- Call `c` has closed session `x`: a close it made of the session found it open. -/
def State.ClosedBy (s : State) (c : Caller) : SessionId → Prop
  | .stream k => ∃ j, c.streamRef? = some (k, j) ∧ s.streamAnswer k j = some true
  | .datagram u => ∃ j, c.datagramRef? = some (u, j) ∧ (s.datagram u).answer j = some true

theorem Caller.read_of_report {c : Caller} {q : Protocol} (h : c.report = some q) :
    ∃ tcp udp, c.read? = some (tcp, udp, true) := by
  unfold report at h
  split at h
  next tell tcp udp closed =>
    cases closed
    · simp at h
    · exact ⟨tcp, udp, rfl⟩
  next u current j closed =>
    cases closed
    · simp at h
    · exact ⟨none, some (u, j), rfl⟩
  next error tcp closed =>
    cases closed
    · simp at h
    · exact ⟨tcp, none, rfl⟩
  next => cases h

variable {s : State} {i : Nat}

/-- A call that has reported a disconnection has closed a session. -/
theorem Reported.closedBy_of_report (h : Reported s) {c : Caller} (hi : s.calls[i]? = some c)
    {q : Protocol} (hq : c.report = some q) : ∃ x, s.ClosedBy c x := by
  obtain ⟨tcp, udp, hread⟩ := Caller.read_of_report hq
  obtain ⟨b₁, b₂, h₁, h₂, hb⟩ := h.answered i c hi tcp udp true hread
  cases b₁ with
  | true =>
    cases tcp with
    | none => cases h₁
    | some r => exact ⟨.stream r.1, r.2, Caller.streamRef_of_read hread, h₁⟩
  | false =>
    obtain rfl : b₂ = true := by simpa using hb.symm
    cases udp with
    | none => cases h₂
    | some r => exact ⟨.datagram r.1, r.2, Caller.datagramRef_of_read hread, h₂⟩

/-- Two calls never closed the same session. -/
theorem Owned.eq_of_closedBy (h : Owned s) (hr : Reported s) {i' : Nat} {c c' : Caller}
    (hi : s.calls[i]? = some c) (hi' : s.calls[i']? = some c') {x : SessionId}
    (hc : s.ClosedBy c x) (hc' : s.ClosedBy c' x) : i = i' := by
  cases x with
  | stream k =>
    obtain ⟨j, hj, ha⟩ := hc
    obtain ⟨j', hj', ha'⟩ := hc'
    have hjj : j = j' :=
      (hr.streams k).eq_of_closed (State.streamAnswer_eq_some.1 ha) (State.streamAnswer_eq_some.1 ha')
    subst hjj
    exact h.streams.owner i i' c c' (k, j) hi hi' hj hj'
  | datagram u =>
    obtain ⟨j, hj, ha⟩ := hc
    obtain ⟨j', hj', ha'⟩ := hc'
    have hjj : j = j' := (hr.datagrams u).eq_of_answer_true ha ha'
    subst hjj
    exact h.datagrams.owner i i' c c' (u, j) hi hi' hj hj'

/-- Over every interleaving of the client's calls, each session is closed at most once, and each
call dispatches one `on_disconnected` exactly when a close of its own answered `true`. -/
theorem on_disconnected_follows_own_close (p : Protocol) (actions : List Action) :
    let s := (State.init p).run actions
    (∀ k, (s.stream k).calls.countP (· == .close (.returned true)) ≤ 1) ∧
    (∀ u, (s.datagram u).closes.countP (· == .returned true) ≤ 1) ∧
    (∀ (i : Nat) (c : Caller), s.calls[i]? = some c → ∀ q,
      s.trace.countP (disconnectedBy i q) = if c.report = some q then 1 else 0) ∧
    (∀ (i : Nat) (c : Caller), s.calls[i]? = some c → s.Answered c) ∧
    (∀ (i : Nat) (c : Caller) (q : Protocol), s.calls[i]? = some c → c.report = some q →
      ∃ x, s.ClosedBy c x) ∧
    (∀ (i i' : Nat) (c c' : Caller) (x : SessionId), s.calls[i]? = some c →
      s.calls[i']? = some c' → s.ClosedBy c x → s.ClosedBy c' x → i = i') := by
  intro s
  have hr : Reported s := (Reported.init p).run actions
  have hown : Owned s := (Owned.init p).run (Bounded.init p) actions
  exact ⟨fun k => (hr.streams k).countP_closed_le_one,
    fun u => (hr.datagrams u).countP_closed_le_one, hr.reports, hr.answered,
    fun i c _ hi hq => hr.closedBy_of_report hi hq,
    fun i i' c c' _ hi hi' hc hc' => hown.eq_of_closedBy hr hi hi' hc hc'⟩

/-- A `disconnect` takes the open datagram session out of the slot, a `drop_udp` closes it first and
tells nothing, and the `disconnect` returns `false`, telling nothing either. -/
theorem disconnect_outrun_by_drop_udp_reports_nothing :
    let opened := (State.init .udp).run ([.connect] ++ List.replicate 5 (.call 0))
    let s := opened.run ([.disconnect] ++ List.replicate 2 (.call 1) ++ [.dropUdp 0] ++
      List.replicate 4 (.call 2) ++ List.replicate 3 (.call 1))
    opened.udpConnected = true ∧
      s.calls[1]? = some (.disconnect true (.returned none (some (0, 0)) false)) ∧
      s.calls[2]? = some (.dropUdp 0 (.returned false 1 true)) ∧
      s.trace = [(0, .connected .udp)] :=
  ⟨rfl, rfl, rfl, rfl⟩

end ClientTasks

end FrameLink
