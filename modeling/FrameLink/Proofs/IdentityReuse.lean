import FrameLink.Proofs.SessionTable

/-!
An identity passes from one client object to the next: a teardown frees it, and the accept loop
may claim it again for a new connection. This module says what the application is told, and in
which order, around that hand-over.

The trace of the server's calls only grows, each step appending its calls. A teardown that tore a
client object down frees the identity as its last call, after the notice of the disconnection, so
once the identity is free again the notice is already in the trace: it comes before the new
admission's `accept` and before its `connected` (`disconnection_told_before_identity_reused`).

Two orders the server does not keep. An admission announces its client after putting the session in
the table, so a teardown that runs in between has its notice dispatched before the announcement
(`teardown_before_recheck_announces_after_disconnection`). A failed datagram send names only an
identity, resolved through the table when the failure comes, so it reports and tears down whichever
client object holds the identity then: one admitted after the datagram was queued, if the identity
has passed on (`send_failure_acts_on_current_holder`,
`stale_send_failure_tears_down_newer_session`).
-/

namespace FrameLink

namespace Concurrent

namespace State

variable {α : Type} (s : State α)

/-! ### What a step leaves in place -/

theorem trace_prefix_advanceTeardown (i client : Nat) (protocol : Protocol) (notify : Bool)
    (stage : TeardownStage) :
    s.trace <+: (s.advanceTeardown i client protocol notify stage).trace := by
  cases stage <;> simp only [advanceTeardown] <;> (repeat' split) <;> simp

theorem trace_prefix_step (a : Action) : s.trace <+: (s.step a).trace := by
  cases a
  case advance i =>
    simp only [step]
    split
    · exact s.trace_prefix_advanceTeardown ..
    · exact List.prefix_refl _
  all_goals (simp only [step]; (repeat' split) <;> simp)

theorem trace_prefix_run (actions : List Action) : s.trace <+: (s.run actions).trace := by
  induction actions generalizing s with
  | nil => exact List.prefix_refl _
  | cons a actions ih => exact (s.trace_prefix_step a).trans (ih (s.step a))

theorem clients_length_advanceTeardown (i client : Nat) (protocol : Protocol) (notify : Bool)
    (stage : TeardownStage) :
    (s.advanceTeardown i client protocol notify stage).clients.length = s.clients.length := by
  cases stage <;> simp only [advanceTeardown] <;> (repeat' split) <;> simp

theorem clients_length_le_step (a : Action) : s.clients.length ≤ (s.step a).clients.length := by
  cases a
  case advance i =>
    simp only [step]
    split
    · exact (s.clients_length_advanceTeardown ..).ge
    · exact Nat.le_refl _
  all_goals (simp only [step]; (repeat' split) <;> simp)

variable {s}

theorem mem_table_of_mem_step {a : Action} {k : ClientId} {client : Nat}
    (he : (k, client) ∈ (s.step a).table) (hlt : client < s.clients.length) :
    (k, client) ∈ s.table := by
  rcases s.table_step a with hsame | ⟨i, id, peer, -, -, hins⟩ | ⟨i, client', protocol, notify, k',
      -, -, -, -, hrem⟩
  · exact hsame ▸ he
  · rw [hins] at he
    rcases List.mem_cons.1 he with heq | hmem
    · cases heq
      omega
    · exact (List.mem_filter.1 hmem).1
  · rw [hrem] at he
    exact (List.mem_filter.1 he).1

/-- An entry of the table for a client object that existed at the start of a run was in the table
then. -/
theorem mem_table_of_mem_run {actions : List Action} {k : ClientId} {client : Nat}
    (he : (k, client) ∈ (s.run actions).table) (hlt : client < s.clients.length) :
    (k, client) ∈ s.table := by
  induction actions generalizing s with
  | nil => exact he
  | cons a actions ih =>
    exact mem_table_of_mem_step (ih he (Nat.lt_of_lt_of_le hlt (s.clients_length_le_step a))) hlt

theorem mem_trace_of_mem_callsOf {i : Nat} {call : Call α} (h : call ∈ s.callsOf i) :
    (some i, call) ∈ s.trace := by
  obtain ⟨e, he, hcall⟩ := List.mem_filterMap.1 h
  split at hcall
  · next htag =>
    cases hcall
    exact htag ▸ he
  · cases hcall

end State

namespace Consistent

variable {α : Type} {s : State α}

/-- While the pool has the identity of a client object free, every call that tore that object down
has returned. -/
theorem teardown_done_of_free (h : Consistent s) {j client : Nat} {k : ClientId}
    {protocol : Protocol} {notify : Bool} {stage : TeardownStage}
    (hfree : k.toNat ∉ s.identities.ids) (hk : s.idOf client = some k)
    (hj : s.tasks[j]? = some (.teardown client protocol notify stage))
    (hmarked : stage.marked = true) : stage = .done true := by
  have hheld : k ∉ s.keys ++ s.holders := fun hmem => hfree ((h.ledger.2 k).2 hmem)
  have hentry : ∀ k', s.idOf client = some k' → (k', client) ∉ s.table := by
    intro k' hk' hmem
    rw [hk] at hk'
    cases hk'
    exact hheld (List.mem_append_left _ (List.mem_map_of_mem (f := Prod.fst) hmem))
  have hholds : holding s.idOf (.teardown client protocol notify stage) ≠ some k := fun hh =>
    hheld (List.mem_append_right _ (List.mem_filterMap.2 ⟨_, List.mem_of_getElem? hj, hh⟩))
  cases stage with
  | start => cases hmarked
  | done result =>
    cases result with
    | false => cases hmarked
    | true => rfl
  | notify => exact absurd hk hholds
  | release => exact absurd hk hholds
  | close | clear | remove =>
    obtain ⟨k', hk', hmem⟩ := h.beforeRemoval j client protocol notify _ hj rfl
    exact absurd hmem (hentry k' hk')

/-- A returned teardown asked to tell the application has its notice in the trace. -/
theorem notice_mem_trace (h : Consistent s) {j client : Nat} {protocol : Protocol}
    (hj : s.tasks[j]? = some (.teardown client protocol true (.done true))) :
    ∃ info : ClientInfo α, s.idOf client = some info.id ∧
      (some j, .dispatch (.disconnected info protocol)) ∈ s.trace := by
  obtain ⟨info, hid, hcalls⟩ := h.calls j client protocol true _ hj
  refine ⟨info, hid, State.mem_trace_of_mem_callsOf ?_⟩
  rw [hcalls]
  simp [teardownCalls]

end Consistent

/-! ### The disconnection is told before the identity is offered again -/

/-- When the accept loop claims a slot again, the notice of every earlier holder's teardown is in
the trace before the new admission's `accept` and `connected`. -/
theorem disconnection_told_before_identity_reused {α : Type} (options : ServerOptions)
    (hfits : options.maxClients < UInt32.size) (before after : List Action) (peer : SocketAddr)
    (slot client j : Nat) (protocol : Protocol) (stage : TeardownStage) :
    let s : State α := (State.init options).run before
    let t := ((s.step (.accept peer slot)).run after).trace
    slot < s.identities.capacity → slot ∉ s.identities.held →
    s.idOf client = some (IdentityPool.identityOf slot) →
    s.tasks[j]? = some (.teardown client protocol true stage) → stage.marked = true →
    ∃ p < s.trace.length, ∃ info : ClientInfo α, info.id = IdentityPool.identityOf slot ∧
      t[p]? = some (some j, .dispatch (.disconnected info protocol)) ∧
      t[s.trace.length]? = some (some s.tasks.length,
        .dispatch (.accept (Server.candidate (IdentityPool.identityOf slot) peer))) ∧
      ∀ r (info' : ClientInfo α),
        t[r]? = some (some s.tasks.length, .dispatch (.connected info')) → s.trace.length < r := by
  intro s t hslot hfree hclient hj hmarked
  have h : Consistent s := (Consistent.init hfits).run before
  have hnat : (IdentityPool.identityOf slot).toNat = slot + 1 :=
    IdentityPool.toNat_identityOf (by have := h.capacity ▸ h.fits; omega)
  have hfreeId : (IdentityPool.identityOf slot).toNat ∉ s.identities.ids := by
    rw [hnat, IdentityPool.mem_ids]
    simpa using hfree
  obtain rfl := h.teardown_done_of_free hfreeId hclient hj hmarked
  obtain ⟨info, hid, hmem⟩ := h.notice_mem_trace hj
  rw [hclient] at hid
  obtain ⟨p, hp⟩ := List.mem_iff_getElem?.1 hmem
  have hplt : p < s.trace.length := (List.getElem?_eq_some_iff.1 hp).1
  have hstep : (s.step (.accept peer slot)).trace = s.trace ++ [(some s.tasks.length,
      .dispatch (.accept (Server.candidate (IdentityPool.identityOf slot) peer)))] := by
    simp [State.step, hslot, hfree]
  obtain ⟨rest, hrest⟩ := (s.step (.accept peer slot)).trace_prefix_run after
  have ht : t = s.trace ++ (some s.tasks.length,
      .dispatch (.accept (Server.candidate (IdentityPool.identityOf slot) peer))) :: rest := by
    simp only [t, ← hrest, hstep, List.append_assoc, List.singleton_append]
  refine ⟨p, hplt, info, Option.some.inj hid.symm, ?_, ?_, ?_⟩
  · rw [ht, List.getElem?_append_left hplt, hp]
  · rw [ht, List.getElem?_append_right (Nat.le_refl _), Nat.sub_self]
    rfl
  · intro r info' hr
    rw [ht] at hr
    rcases Nat.lt_trichotomy r s.trace.length with hlt | heq | hgt
    · rw [List.getElem?_append_left hlt] at hr
      have := h.tags _ (List.mem_of_getElem? hr) s.tasks.length rfl
      omega
    · subst heq
      simp at hr
    · exact hgt

/-- A client is torn down with a notice; a second connection then claims the same slot. -/
theorem reconnection_announced_after_notice :
    let s : State Unit := (State.init { maxClients := 1 }).run
      [.accept (.v4 (Ipv4.ofOctets 10 0 0 5) 4000) 0, .verdict 0 true, .configure 0 (.ok ()),
        .insert 0, .recheck 0, .attach 0, .disconnect 1 .both,
        .advance 1, .advance 1, .advance 1, .advance 1, .advance 1, .advance 1]
    let t := ((s.step (.accept (.v4 (Ipv4.ofOctets 10 0 0 6) 4001) 0)).run
      [.verdict 2 true, .configure 2 (.ok ()), .insert 2, .recheck 2]).trace
    0 < s.identities.capacity ∧ 0 ∉ s.identities.held ∧
      s.idOf 0 = some (IdentityPool.identityOf 0) ∧
      s.tasks[1]? = some (.teardown 0 .both true (.done true)) ∧
      (TeardownStage.done true).marked = true ∧
      ∃ p < s.trace.length, ∃ info : ClientInfo Unit, info.id = IdentityPool.identityOf 0 ∧
        t[p]? = some (some 1, .dispatch (.disconnected info .both)) ∧
        t[s.trace.length]? = some (some s.tasks.length, .dispatch (.accept
          (Server.candidate (IdentityPool.identityOf 0) (.v4 (Ipv4.ofOctets 10 0 0 6) 4001)))) ∧
        ∀ r (info' : ClientInfo Unit),
          t[r]? = some (some s.tasks.length, .dispatch (.connected info')) → s.trace.length < r :=
  ⟨by decide, by decide, by decide, by decide, rfl,
    disconnection_told_before_identity_reused _ (by decide) _ _ _ 0 0 1 .both (.done true)
      (by decide) (by decide) (by decide) (by decide) rfl⟩

/-- A teardown the application starts between the insertion and the announcement runs to its end
first: the disconnection is told before the connection. -/
theorem teardown_before_recheck_announces_after_disconnection :
    ((State.init {} : State Unit).run
      [.accept (.v4 (Ipv4.ofOctets 10 0 0 5) 4000) 0, .verdict 0 true, .configure 0 (.ok ()),
        .insert 0, .disconnect 1 .both, .advance 1, .advance 1, .advance 1, .advance 1, .advance 1,
        .advance 1, .recheck 0]).trace =
      [(some 0, .dispatch (.accept (Server.candidate 1 (.v4 (Ipv4.ofOctets 10 0 0 5) 4000)))),
        (some 1, .dispatch (.disconnected
          ⟨1, .v4 (Ipv4.ofOctets 10 0 0 5) 4000, none, false, false, none⟩ .both)),
        (some 1, .release 1 true),
        (some 0, .dispatch (.connected
          ⟨1, .v4 (Ipv4.ofOctets 10 0 0 5) 4000, none, false, false, none⟩))] :=
  rfl

/-! ### A failed send acts on whoever holds the identity -/

/-- A failed datagram send for identity `k` acts on the client object the table maps `k` to when it
fails: the one seen at any earlier moment, or one made since. -/
theorem send_failure_acts_on_current_holder {α : Type} (options : ServerOptions)
    (hfits : options.maxClients < UInt32.size) (before mid : List Action) (k : ClientId)
    (client : Nat) (error : IoError) :
    let s₀ : State α := (State.init options).run before
    let s := s₀.run mid
    let holder := s.table.lookup k
    s₀.table.lookup k = some client →
    (holder = none ∨ holder = some client ∨
      ∃ newer, s₀.clients.length ≤ newer ∧ holder = some newer) ∧
    (s.step (.sendFailed k error)).trace = s.trace ++ [(none, .dispatch
      (.failed ((holder.bind (s.clients[·]?)).map ClientSession.info) .sendUdp (.io error)))] ∧
    (s.step (.sendFailed k error)).tasks = s.tasks ++
      if options.disconnectClientOnError then (holder.map (.teardown · .udp true .start)).toList
      else [] := by
  intro s₀ s holder hk
  have h₀ : Consistent s₀ := (Consistent.init hfits).run before
  have hoptions : s.options = options := by
    show ((State.init options).run before |>.run mid).options = options
    rw [State.options_run, State.options_run]
    rfl
  refine ⟨?_, ?_⟩
  · rcases hholder : holder with _ | holder'
    · exact .inl rfl
    · by_cases hlt : holder' < s₀.clients.length
      · have hmem := State.mem_table_of_mem_run (mem_of_lookup_eq_some hholder) hlt
        have hnodup : (s₀.table.map Prod.fst).Nodup := (List.nodup_append.1 h₀.ledger.1).1
        exact .inr (.inl (congrArg some (eq_of_mem_of_mem hnodup hmem (mem_of_lookup_eq_some hk))))
      · exact .inr (.inr ⟨holder', Nat.le_of_not_lt hlt, rfl⟩)
  · rcases hholder : holder with _ | holder'
    · have hlookup : s.table.lookup k = none := hholder
      simp [State.step, hlookup]
    · have hlookup : s.table.lookup k = some holder' := hholder
      cases hdisconnect : options.disconnectClientOnError <;>
        simp [State.step, hlookup, hoptions, hdisconnect]

/-- Identity `1` is taken by a second client before a send fails: the failure acts on the second. -/
theorem send_failure_after_reuse_acts_on_newer :
    let s₀ : State Unit := (State.init {}).run
      [.accept (.v4 (Ipv4.ofOctets 10 0 0 5) 4000) 0, .verdict 0 true, .configure 0 (.ok ()),
        .insert 0, .recheck 0, .attach 0, .datagram 1 (.v4 (Ipv4.ofOctets 10 0 0 5) 5000)]
    let s := s₀.run
      [.disconnect 1 .both, .advance 1, .advance 1, .advance 1, .advance 1, .advance 1, .advance 1,
        .accept (.v4 (Ipv4.ofOctets 10 0 0 6) 4001) 0, .verdict 2 true, .configure 2 (.ok ()),
        .insert 2, .recheck 2, .attach 2, .datagram 1 (.v4 (Ipv4.ofOctets 10 0 0 6) 5001)]
    let holder := s.table.lookup 1
    ({} : ServerOptions).maxClients < UInt32.size ∧ s₀.table.lookup 1 = some 0 ∧
      (holder = none ∨ holder = some 0 ∨
        ∃ newer, s₀.clients.length ≤ newer ∧ holder = some newer) ∧
      (s.step (.sendFailed 1 (.os .networkUnreachable))).trace = s.trace ++ [(none, .dispatch
        (.failed ((holder.bind (s.clients[·]?)).map ClientSession.info) .sendUdp
          (.io (.os .networkUnreachable))))] ∧
      (s.step (.sendFailed 1 (.os .networkUnreachable))).tasks = s.tasks ++
        if ({} : ServerOptions).disconnectClientOnError then
          (holder.map (.teardown · .udp true .start)).toList
        else [] :=
  ⟨by decide, by decide, send_failure_acts_on_current_holder _ (by decide) _ _ 1 0 _ (by decide)⟩

/-- A send queued for the first client of identity `1` fails after a second client took identity
`1`: the teardown it starts clears the second client's binding. -/
theorem stale_send_failure_tears_down_newer_session :
    let s₀ : State Unit := (State.init {}).run
      [.accept (.v4 (Ipv4.ofOctets 10 0 0 5) 4000) 0, .verdict 0 true, .configure 0 (.ok ()),
        .insert 0, .recheck 0, .attach 0, .datagram 1 (.v4 (Ipv4.ofOctets 10 0 0 5) 5000)]
    let s := s₀.run
      [.disconnect 1 .both, .advance 1, .advance 1, .advance 1, .advance 1, .advance 1, .advance 1,
        .accept (.v4 (Ipv4.ofOctets 10 0 0 6) 4001) 0, .verdict 2 true, .configure 2 (.ok ()),
        .insert 2, .recheck 2, .attach 2, .datagram 1 (.v4 (Ipv4.ofOctets 10 0 0 6) 5001)]
    let s' := (s.step (.sendFailed 1 (.os .networkUnreachable))).step (.advance 3)
    s₀.table.lookup 1 = some 0 ∧
      s₀.clients[0]?.map (·.binding.endpoint) = some (some (.v4 (Ipv4.ofOctets 10 0 0 5) 5000)) ∧
      s.table.lookup 1 = some 1 ∧
      s'.trace.drop s.trace.length =
        [(none, .dispatch (.failed (some ⟨1, .v4 (Ipv4.ofOctets 10 0 0 6) 4001,
            some (.v4 (Ipv4.ofOctets 10 0 0 6) 5001), true, true, none⟩) .sendUdp
            (.io (.os .networkUnreachable)))),
          (some 3, .dispatch (.disconnected
            ⟨1, .v4 (Ipv4.ofOctets 10 0 0 6) 4001, none, true, false, none⟩ .udp))] ∧
      s'.clients[1]?.map (·.binding) = some .empty :=
  ⟨by decide, by decide, by decide, rfl, by decide⟩

end Concurrent

end FrameLink
