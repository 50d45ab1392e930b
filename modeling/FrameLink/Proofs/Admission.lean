import FrameLink.Server.Incoming

/-! Datagram admission over whole runs. A session's binding holds, if anything, an endpoint at the
address of the session's stream peer, both seen canonically (`DatagramBinding.OnPeer`). A datagram
is handed to the application only when its source passes the binding rule
(`DatagramBinding.Admits`): it is the bound endpoint, or nothing is bound and it is at the peer's
address; in the second case it becomes the bound endpoint. Nothing but a teardown of the session
changes a bound endpoint, so between two teardowns every datagram that reaches the application comes
from one endpoint.

The runs are sequences of `DatagramStep`s: datagrams from any source, and teardowns of any
session, of its datagram side only or whole. Main statement: `datagram_admission_over_runs`. -/

namespace FrameLink

namespace DatagramBinding

/-- A binding holds, if anything, an endpoint at the address of `peer`, both seen canonically. -/
def OnPeer (b : DatagramBinding) (peer : SocketAddr) : Prop :=
  ∀ e, b.endpoint = some e → e.ip.canonical = peer.ip.canonical

/-- The binding rule: a source is let through when it is the bound endpoint, or when nothing is
bound and it is at the address of `peer`. -/
def Admits (b : DatagramBinding) (source peer : SocketAddr) : Prop :=
  b.endpoint = some source ∨ (b.endpoint = none ∧ source.ip.canonical = peer.ip.canonical)

variable {b : DatagramBinding} {source peer : SocketAddr}

theorem onPeer_empty : empty.OnPeer peer := fun _ h => by cases h

theorem checkSource_of_bound {e : SocketAddr} (h : b.endpoint = some e) :
    (b.checkSource source peer).2 = b := by
  simp only [checkSource, h]
  split <;> rfl

/-- The verdict lets the datagram through exactly when the binding rule admits its source. -/
theorem checkSource_admitted_iff :
    ((b.checkSource source peer).1 = .bound ∨ (b.checkSource source peer).1 = .accepted) ↔
      b.Admits source peer := by
  rcases hb : b.endpoint with _ | e
  · by_cases hip : source.ip.canonical = peer.ip.canonical <;>
      simp [checkSource, Admits, hb, hip]
  · by_cases he : e = source <;> simp [checkSource, Admits, hb, he]

theorem endpoint_checkSource_of_admitted
    (h : (b.checkSource source peer).1 = .bound ∨ (b.checkSource source peer).1 = .accepted) :
    (b.checkSource source peer).2.endpoint = some source := by
  rcases checkSource_admitted_iff.1 h with hbound | ⟨hnone, hip⟩
  · rw [checkSource_of_bound hbound, hbound]
  · simp [checkSource, hnone, hip]

theorem onPeer_checkSource (h : b.OnPeer peer) : (b.checkSource source peer).2.OnPeer peer := by
  rcases hb : b.endpoint with _ | e
  · by_cases hip : source.ip.canonical = peer.ip.canonical
    · intro e he
      simp only [checkSource, hb, hip, if_true] at he
      cases he
      exact hip
    · simp only [checkSource, hb, hip, if_false]
      exact h
  · rw [checkSource_of_bound hb]
    exact h

end DatagramBinding

namespace ClientSession

variable {α : Type} {c : ClientSession α}

@[simp] theorem checkSource_id (source : SocketAddr) : (c.checkSource source).2.id = c.id := rfl

@[simp] theorem checkSource_stream (source : SocketAddr) :
    (c.checkSource source).2.stream = c.stream := rfl

@[simp] theorem checkSource_binding (source : SocketAddr) :
    (c.checkSource source).2.binding = (c.binding.checkSource source c.stream.peer).2 := rfl

@[simp] theorem checkSource_verdict (source : SocketAddr) :
    (c.checkSource source).1 = (c.binding.checkSource source c.stream.peer).1 := rfl

@[simp] theorem clearBinding_id : c.clearBinding.2.id = c.id := rfl

@[simp] theorem clearBinding_stream : c.clearBinding.2.stream = c.stream := rfl

@[simp] theorem clearBinding_binding : c.clearBinding.2.binding = DatagramBinding.empty := rfl

@[simp] theorem beginTeardown_id : c.beginTeardown.2.id = c.id := by
  unfold beginTeardown
  split <;> rfl

@[simp] theorem beginTeardown_stream : c.beginTeardown.2.stream = c.stream := by
  unfold beginTeardown
  split <;> rfl

@[simp] theorem beginTeardown_binding : c.beginTeardown.2.binding = c.binding := by
  unfold beginTeardown
  split <;> rfl

end ClientSession

namespace Server

variable {α : Type}

/-! ### The session table -/

section Table

variable {s : Server α} {c d : ClientSession α} {k : ClientId}

theorem id_of_session?_eq_some (h : s.session? k = some c) : c.id = k := by
  simpa using List.find?_some h

theorem mem_of_session?_eq_some (h : s.session? k = some c) : c ∈ s.sessions :=
  List.mem_of_find?_eq_some h

theorem find?_put_self (sessions : List (ClientSession α)) :
    (putSession.put c sessions).find? (·.id = c.id) = some c := by
  induction sessions with
  | nil => simp [putSession.put]
  | cons d rest ih =>
    simp only [putSession.put]
    split
    · simp
    · split
      · simp
      · next hne _ => simp [hne, ih]

theorem find?_put_of_ne (sessions : List (ClientSession α)) (hk : k ≠ c.id) :
    (putSession.put c sessions).find? (·.id = k) = sessions.find? (·.id = k) := by
  induction sessions with
  | nil => simp [putSession.put, Ne.symm hk]
  | cons d rest ih =>
    simp only [putSession.put]
    split
    · next heq => simp [Ne.symm hk, heq]
    · split
      · simp [List.find?_cons, Ne.symm hk]
      · by_cases hd : d.id = k <;> simp [hd, ih]

@[simp] theorem session?_putSession_self : (s.putSession c).session? c.id = some c :=
  find?_put_self s.sessions

theorem session?_putSession_of_ne (hk : k ≠ c.id) : (s.putSession c).session? k = s.session? k :=
  find?_put_of_ne s.sessions hk

theorem mem_put {sessions : List (ClientSession α)} (h : d ∈ putSession.put c sessions) :
    d = c ∨ d ∈ sessions := by
  induction sessions with
  | nil => simpa [putSession.put] using h
  | cons e rest ih =>
    simp only [putSession.put] at h
    split at h
    · rcases List.mem_cons.1 h with rfl | h
      · exact .inl rfl
      · exact .inr (List.mem_cons_of_mem e h)
    · split at h
      · rcases List.mem_cons.1 h with rfl | h
        · exact .inl rfl
        · exact .inr h
      · rcases List.mem_cons.1 h with rfl | h
        · exact .inr List.mem_cons_self
        · exact (ih h).imp_right (List.mem_cons_of_mem e)

theorem mem_putSession (h : d ∈ (s.putSession c).sessions) : d = c ∨ d ∈ s.sessions :=
  mem_put h

@[simp] theorem putSession_queue : (s.putSession c).queue = s.queue := rfl

@[simp] theorem dispatch_sessions (e : ServerEvent α) : (s.dispatch e).sessions = s.sessions := rfl

@[simp] theorem session?_dispatch (e : ServerEvent α) : (s.dispatch e).session? k = s.session? k :=
  rfl

theorem session?_removeSession_of_ne {k' : ClientId} (hk : k ≠ k') :
    (s.removeSession k').session? k = s.session? k := by
  simp only [session?, removeSession, List.find?_filter]
  congr 1
  funext d
  by_cases hd : d.id = k
  · simp [hd, hk]
  · simp [hd]

/-- What a teardown can do to the table: nothing; put the session back with its binding cleared, or
as it was; or remove it. -/
theorem teardown_sessions (s : Server α) (k : ClientId) (protocol : Protocol) (notify : Bool) :
    (s.teardown k protocol notify).2.sessions = s.sessions ∨
      (∃ c, s.session? k = some c ∧
        ((s.teardown k protocol notify).2.sessions = (s.putSession c.clearBinding.2).sessions ∨
          (s.teardown k protocol notify).2.sessions = (s.putSession c).sessions)) ∨
      (s.teardown k protocol notify).2.sessions = (s.removeSession k).sessions := by
  unfold teardown
  split
  · exact .inl rfl
  · next c hc =>
    split
    · split
      next was c' heq =>
      have hc' : c' = c.clearBinding.2 := by rw [heq]
      split
      · exact .inl rfl
      · refine .inr (.inl ⟨c, hc, .inl ?_⟩)
        split <;> simp [hc']
    · split
      next first c' heq =>
      split
      · next hfirst =>
        have hc' : c' = c := by
          unfold ClientSession.beginTeardown at heq
          split at heq
          · exact (Prod.mk.inj heq).2.symm
          · simp only [Prod.mk.injEq] at heq
            simp [heq.1] at hfirst
        exact .inr (.inl ⟨c, hc, .inr (by rw [hc'])⟩)
      · refine .inr (.inr ?_)
        split
        split
        split <;> rfl

theorem session?_teardown_of_ne {k' : ClientId} (hk : k ≠ k') (protocol : Protocol)
    (notify : Bool) : (s.teardown k' protocol notify).2.session? k = s.session? k := by
  have hsession : ∀ t : Server α, t.sessions = s.sessions → t.session? k = s.session? k :=
    fun t ht => by simp [session?, ht]
  rcases teardown_sessions s k' protocol notify with h | ⟨c, hc, h | h⟩ | h
  · exact hsession _ h
  · rw [show (s.teardown k' protocol notify).2.session? k = (s.putSession c.clearBinding.2).session? k
      by simp [session?, h]]
    exact session?_putSession_of_ne (by simp [id_of_session?_eq_some hc, hk])
  · rw [show (s.teardown k' protocol notify).2.session? k = (s.putSession c).session? k
      by simp [session?, h]]
    exact session?_putSession_of_ne (by simp [id_of_session?_eq_some hc, hk])
  · rw [show (s.teardown k' protocol notify).2.session? k = (s.removeSession k').session? k
      by simp [session?, h]]
    exact session?_removeSession_of_ne hk

end Table

/-! ### One datagram -/

/-- What a datagram can do to the server: nothing; reach the application whole; or have its source
judged by a session's binding and, when admitted, hand on a payload of that session. -/
theorem handleDatagram_cases (s : Server α) (source : SocketAddr) (bytes : List UInt8) :
    s.handleDatagram source bytes = s ∨
      s.handleDatagram source bytes = s.dispatch (.unidentified source (Packet.ofBytes bytes)) ∨
      ∃ k c, s.session? k = some c ∧
        (s.handleDatagram source bytes = s.putSession (c.checkSource source).2 ∨
          (c.binding.Admits source c.stream.peer ∧
            ∃ p, s.handleDatagram source bytes =
              (s.putSession (c.checkSource source).2).dispatch (.data k p))) := by
  unfold handleDatagram
  by_cases hplain : s.options.requireClientIdInUdpData = false
  · exact .inr (.inl (by simp [hplain]))
  have hmode : s.options.requireClientIdInUdpData = true := by simpa using hplain
  by_cases hrunt : isRunt bytes
  · exact .inl (by simp [hmode, hrunt])
  rcases hread : (Packet.ofBytes bytes).readBytes 4 with e | ⟨idBytes, rest⟩
  · exact .inl (by simp [hmode, hrunt])
  rcases hc : s.session? (UInt32.ofNat (LittleEndian.decode idBytes)) with _ | c
  · exact .inl (by simp [hmode, hrunt, hc])
  refine .inr (.inr ⟨_, c, hc, ?_⟩)
  rcases hcs : c.checkSource source with ⟨verdict, c'⟩
  have hadmits := @DatagramBinding.checkSource_admitted_iff c.binding source c.stream.peer
  simp only [← ClientSession.checkSource_verdict, hcs] at hadmits
  simp only [hmode, hrunt, hc, hcs, Bool.not_true, Bool.false_eq_true, if_false]
  cases verdict with
  | addressMismatch => exact .inl rfl
  | spoofed => exact .inl rfl
  | bound =>
    dsimp only
    split
    · exact .inl rfl
    split
    · exact .inr ⟨hadmits.1 (.inl rfl), _, rfl⟩
    · exact .inl rfl
  | accepted =>
    dsimp only
    split
    · exact .inl rfl
    split
    · exact .inr ⟨hadmits.1 (.inr rfl), _, rfl⟩
    · exact .inl rfl

/-! ### The binding invariant and what reaches the application -/

/-- Every session's binding holds, if anything, an endpoint at its stream peer's address. -/
def BindingsOnPeer (s : Server α) : Prop :=
  ∀ c ∈ s.sessions, c.binding.OnPeer c.stream.peer

def boundEndpoint? (s : Server α) (k : ClientId) : Option SocketAddr :=
  (s.clientInfo? k).bind (·.udpEndpoint)

/-- From `s` to `s'` the server handed its queue exactly one job: the payload `p` of the client
holding `k`. -/
def DispatchesData (s s' : Server α) (k : ClientId) (p : Packet) : Prop :=
  s'.queue.pending = s.queue.pending ++ [.deliver (.data k p)]

section Invariant

variable {s t : Server α} {c : ClientSession α} {k : ClientId}

theorem boundEndpoint?_eq : s.boundEndpoint? k = (s.session? k).bind (·.binding.endpoint) := by
  simp only [boundEndpoint?, clientInfo?]
  cases s.session? k <;> rfl

theorem bindingsOnPeer_of_sessions_eq (h : t.sessions = s.sessions) (hs : s.BindingsOnPeer) :
    t.BindingsOnPeer :=
  fun c hc => hs c (h ▸ hc)

theorem bindingsOnPeer_putSession (hs : s.BindingsOnPeer) (hc : c.binding.OnPeer c.stream.peer) :
    (s.putSession c).BindingsOnPeer := fun d hd => by
  rcases mem_putSession hd with rfl | hd
  · exact hc
  · exact hs d hd

theorem onPeer_checkSource_of_mem (hs : s.BindingsOnPeer) (hc : c ∈ s.sessions)
    (source : SocketAddr) :
    (c.checkSource source).2.binding.OnPeer (c.checkSource source).2.stream.peer := by
  simpa using DatagramBinding.onPeer_checkSource (hs c hc)

theorem bindingsOnPeer_handleDatagram (hs : s.BindingsOnPeer) (source : SocketAddr)
    (bytes : List UInt8) : (s.handleDatagram source bytes).BindingsOnPeer := by
  rcases handleDatagram_cases s source bytes with h | h | ⟨k, c, hc, h | ⟨-, p, h⟩⟩ <;> rw [h]
  · exact hs
  · exact hs
  · exact bindingsOnPeer_putSession hs (onPeer_checkSource_of_mem hs (mem_of_session?_eq_some hc) _)
  · exact bindingsOnPeer_putSession hs (onPeer_checkSource_of_mem hs (mem_of_session?_eq_some hc) _)

theorem bindingsOnPeer_teardown (hs : s.BindingsOnPeer) (k : ClientId) (protocol : Protocol)
    (notify : Bool) : (s.teardown k protocol notify).2.BindingsOnPeer := by
  rcases teardown_sessions s k protocol notify with h | ⟨c, hc, h | h⟩ | h <;>
    refine bindingsOnPeer_of_sessions_eq h ?_
  · exact hs
  · exact bindingsOnPeer_putSession hs (by simpa using DatagramBinding.onPeer_empty)
  · exact bindingsOnPeer_putSession hs (hs c (mem_of_session?_eq_some hc))
  · exact fun d hd => hs d (List.mem_filter.1 hd).1

theorem not_dispatchesData_of_queue_eq (h : t.queue = s.queue) (p : Packet) :
    ¬DispatchesData s t k p := by
  intro hd
  have hlength := congrArg List.length hd
  simp [h] at hlength

theorem eq_data_of_dispatchesData_dispatch (h : t.queue = s.queue) {e : ServerEvent α}
    {p : Packet} (hd : DispatchesData s (t.dispatch e) k p) : e = .data k p := by
  simp only [DispatchesData, dispatch, DispatchQueue.execute, h] at hd
  split at hd
  · simpa using hd
  · have hlength := congrArg List.length hd
    simp at hlength

end Invariant

/-! ### Runs of datagrams and teardowns -/

/-- A step on the datagram side: a datagram from a source, or a teardown of a session, of its
datagram side only or whole. -/
inductive DatagramStep where
  | datagram (source : SocketAddr) (bytes : List UInt8)
  | teardown (id : ClientId) (protocol : Protocol) (notify : Bool)

def DatagramStep.apply (s : Server α) : DatagramStep → Server α
  | .datagram source bytes => s.handleDatagram source bytes
  | .teardown id protocol notify => (s.teardown id protocol notify).2

def runDatagramSteps (s : Server α) : List DatagramStep → Server α
  | [] => s
  | step :: rest => runDatagramSteps (DatagramStep.apply s step) rest

section Runs

variable {s : Server α} {k : ClientId}

/-- Run lemma: the binding invariant holds along every run. -/
theorem bindingsOnPeer_run (hs : s.BindingsOnPeer) (steps : List DatagramStep) :
    (s.runDatagramSteps steps).BindingsOnPeer := by
  induction steps generalizing s with
  | nil => exact hs
  | cons step rest ih =>
    apply ih
    cases step with
    | datagram source bytes => exact bindingsOnPeer_handleDatagram hs source bytes
    | teardown id protocol notify => exact bindingsOnPeer_teardown hs id protocol notify

theorem bound_putSession_checkSource {k' : ClientId} {c : ClientSession α} {e : SocketAddr}
    (hc : s.session? k' = some c) (h : (s.session? k).bind (·.binding.endpoint) = some e)
    (source : SocketAddr) :
    ((s.putSession (c.checkSource source).2).session? k).bind (·.binding.endpoint) = some e := by
  by_cases hk : k = k'
  · subst hk
    rw [hc] at h
    have hsame : (c.checkSource source).2 = c := by
      simp only [ClientSession.checkSource, DatagramBinding.checkSource_of_bound (by simpa using h)]
    rw [hsame, ← id_of_session?_eq_some hc, session?_putSession_self]
    simpa using h
  · rw [session?_putSession_of_ne (by simp [id_of_session?_eq_some hc, hk])]
    exact h

theorem boundEndpoint?_handleDatagram {e : SocketAddr} (h : s.boundEndpoint? k = some e)
    (source : SocketAddr) (bytes : List UInt8) :
    (s.handleDatagram source bytes).boundEndpoint? k = some e := by
  rw [boundEndpoint?_eq] at h ⊢
  rcases handleDatagram_cases s source bytes with hd | hd | ⟨k', c, hc, hd | ⟨-, p, hd⟩⟩ <;>
    rw [hd]
  · exact h
  · exact h
  · exact bound_putSession_checkSource hc h source
  · exact bound_putSession_checkSource hc h source

theorem boundEndpoint?_apply {e : SocketAddr} {step : DatagramStep}
    (hstep : ∀ protocol notify, step ≠ .teardown k protocol notify)
    (h : s.boundEndpoint? k = some e) : (DatagramStep.apply s step).boundEndpoint? k = some e := by
  cases step with
  | datagram source bytes => exact boundEndpoint?_handleDatagram h source bytes
  | teardown k' protocol notify =>
    have hk : k ≠ k' := fun heq => hstep protocol notify (heq ▸ rfl)
    rw [boundEndpoint?_eq] at h ⊢
    simpa [DatagramStep.apply, session?_teardown_of_ne hk] using h

/-- Run lemma for bound endpoints: a run with no teardown of the client holding `k` leaves its
bound endpoint as it was. -/
theorem boundEndpoint?_run {e : SocketAddr} {steps : List DatagramStep}
    (hsteps : ∀ protocol notify, DatagramStep.teardown k protocol notify ∉ steps)
    (h : s.boundEndpoint? k = some e) : (s.runDatagramSteps steps).boundEndpoint? k = some e := by
  induction steps generalizing s with
  | nil => exact h
  | cons step rest ih =>
    apply ih (fun protocol notify hmem => hsteps protocol notify (List.mem_cons_of_mem step hmem))
    exact boundEndpoint?_apply
      (fun protocol notify heq => hsteps protocol notify (heq ▸ List.mem_cons_self)) h

theorem admitted_of_dispatchesData {source : SocketAddr} {bytes : List UInt8} {p : Packet}
    (hd : DispatchesData s (s.handleDatagram source bytes) k p) :
    (∃ c, s.session? k = some c ∧ c.binding.Admits source c.stream.peer) ∧
      (s.handleDatagram source bytes).boundEndpoint? k = some source := by
  rcases handleDatagram_cases s source bytes with h | h | ⟨k', c, hc, h | ⟨hadmits, p', h⟩⟩ <;>
    rw [h] at hd ⊢
  · exact absurd hd (not_dispatchesData_of_queue_eq rfl p)
  · cases eq_data_of_dispatchesData_dispatch rfl hd
  · exact absurd hd (not_dispatchesData_of_queue_eq rfl p)
  · obtain ⟨rfl, -⟩ := ServerEvent.data.inj (eq_data_of_dispatchesData_dispatch rfl hd)
    refine ⟨⟨c, hc, hadmits⟩, ?_⟩
    have hbound := DatagramBinding.endpoint_checkSource_of_admitted
      (DatagramBinding.checkSource_admitted_iff.2 hadmits)
    rw [boundEndpoint?_eq, session?_dispatch, ← id_of_session?_eq_some hc,
      ← ClientSession.checkSource_id source, session?_putSession_self]
    simpa using hbound

/-- Between two teardowns of a client, every datagram that reaches the application for it comes
from the endpoint the first one came from. -/
theorem source_eq_of_dispatchesData_after {source source' : SocketAddr}
    {bytes bytes' : List UInt8} {p p' : Packet} {mid : List DatagramStep}
    (hfirst : DispatchesData s (s.handleDatagram source bytes) k p)
    (hmid : ∀ protocol notify, DatagramStep.teardown k protocol notify ∉ mid)
    (hlater : DispatchesData ((s.handleDatagram source bytes).runDatagramSteps mid)
      (((s.handleDatagram source bytes).runDatagramSteps mid).handleDatagram source' bytes') k p') :
    source' = source := by
  have hbound := boundEndpoint?_run hmid (admitted_of_dispatchesData hfirst).2
  obtain ⟨c, hc, hadmits⟩ := (admitted_of_dispatchesData hlater).1
  rw [boundEndpoint?_eq, hc] at hbound
  rcases hadmits with heq | ⟨hnone, -⟩
  · simpa [heq] using hbound
  · simp [hnone] at hbound

end Runs

/-- Over every run of datagrams and teardowns, every binding stays at its stream peer's address, and
between two teardowns of a client its datagrams reach the application from one endpoint. -/
theorem datagram_admission_over_runs :
    (∀ (s : Server α) (steps : List DatagramStep), s.BindingsOnPeer →
        (s.runDatagramSteps steps).BindingsOnPeer) ∧
      (∀ (s : Server α) (step : DatagramStep) (k : ClientId) (e : SocketAddr),
        (∀ protocol notify, step ≠ .teardown k protocol notify) →
        s.boundEndpoint? k = some e → (DatagramStep.apply s step).boundEndpoint? k = some e) ∧
      (∀ (s : Server α) (source : SocketAddr) (bytes : List UInt8) (k : ClientId) (p : Packet),
        DispatchesData s (s.handleDatagram source bytes) k p →
        (∃ c, s.session? k = some c ∧ c.binding.Admits source c.stream.peer) ∧
          (s.handleDatagram source bytes).boundEndpoint? k = some source) ∧
      (∀ (s : Server α) (source source' : SocketAddr) (bytes bytes' : List UInt8) (k : ClientId)
        (p p' : Packet) (mid : List DatagramStep),
        DispatchesData s (s.handleDatagram source bytes) k p →
        (∀ protocol notify, DatagramStep.teardown k protocol notify ∉ mid) →
        DispatchesData ((s.handleDatagram source bytes).runDatagramSteps mid)
          (((s.handleDatagram source bytes).runDatagramSteps mid).handleDatagram source' bytes') k p' →
        source' = source) :=
  ⟨fun _ steps hs => bindingsOnPeer_run hs steps,
    fun _ _ _ _ hstep h => boundEndpoint?_apply hstep h,
    fun _ _ _ _ _ hd => admitted_of_dispatchesData hd,
    fun _ _ _ _ _ _ _ _ _ hfirst hmid hlater => source_eq_of_dispatchesData_after hfirst hmid hlater⟩

/-- A first datagram from the stream peer's address binds its endpoint; one from another port is
dropped, and the next from the bound endpoint comes through. -/
theorem first_datagram_binds_its_source :
    let s : Server Unit :=
      { options := {}, identities := ⟨100, [0]⟩,
        sessions := [ClientSession.new 1 (.v4 (Ipv4.ofOctets 10 0 0 5) 4000)],
        queue := DispatchQueue.start, tcpAddr := none, udpAddr := none, outgoing := [],
        listening := true, stopped := false }
    let first := s.handleDatagram (.v4 (Ipv4.ofOctets 10 0 0 5) 5000) [1, 0, 0, 0, 1, 0, 0, 0, 9]
    let later := first.runDatagramSteps
      [.datagram (.v4 (Ipv4.ofOctets 10 0 0 5) 5001) [1, 0, 0, 0, 1, 0, 0, 0, 7]]
    DispatchesData s first 1 (Packet.ofBytes [9]) ∧
      DispatchesData later
        (later.handleDatagram (.v4 (Ipv4.ofOctets 10 0 0 5) 5000) [1, 0, 0, 0, 1, 0, 0, 0, 8]) 1
        (Packet.ofBytes [8]) ∧
      first.boundEndpoint? 1 = some (.v4 (Ipv4.ofOctets 10 0 0 5) 5000) := by
  intro s first later
  have hfirst : DispatchesData s first 1 (Packet.ofBytes [9]) := rfl
  have hlater : DispatchesData later
      (later.handleDatagram (.v4 (Ipv4.ofOctets 10 0 0 5) 5000) [1, 0, 0, 0, 1, 0, 0, 0, 8]) 1
      (Packet.ofBytes [8]) := rfl
  have hmid : ∀ protocol notify, DatagramStep.teardown 1 protocol notify ∉
      [DatagramStep.datagram (.v4 (Ipv4.ofOctets 10 0 0 5) 5001) [1, 0, 0, 0, 1, 0, 0, 0, 7]] := by
    intro protocol notify hmem
    simp at hmem
  have hsame := (@datagram_admission_over_runs Unit).2.2.2 s _ _ _ _ 1 _ _ _ hfirst hmid hlater
  exact ⟨hfirst, hlater, hsame ▸ ((@datagram_admission_over_runs Unit).2.2.1 s _ _ 1 _ hfirst).2⟩

end Server

end FrameLink
