import FrameLink.Proofs.Interleavings

/-!
The session table and the identity pool after any run of the server's tasks, read off the
invariant `Consistent`. Every table entry names a client object of its identity, and the pool holds
that identity. The pool holds exactly the identities of the table and those the tasks hold on their
own, each once, so the table never has more sessions than the pool has identities out, nor the
pool more than it has slots. One call tears each client object down: it announces the
disconnection if asked and releases the identity once, and only its removal step takes a session
out of the table. A teardown returns `false` exactly when its first step changed no client object.

The identities have to fit in 32 bits: a pool of `2 ^ 32` slots hands out `0` for its last slot,
an identity that names no slot, and the admission that holds it puts it in the table all the same.
-/

namespace FrameLink

namespace Concurrent

theorem set_eq_self_iff {β : Type} {l : List β} {i : Nat} {x y : β} (h : l[i]? = some x) :
    l.set i y = l ↔ y = x := by
  obtain ⟨hlt, rfl⟩ := List.getElem?_eq_some_iff.1 h
  constructor
  · intro heq
    have hget := congrArg (·[i]?) heq
    simpa [hlt] using hget
  · rintro rfl
    exact List.set_getElem_self hlt

namespace ClientSession

variable {α : Type} (c : ClientSession α)

theorem clearBinding_snd_eq_self_iff : c.clearBinding.2 = c ↔ c.clearBinding.1 = false := by
  obtain ⟨id, stream, ⟨endpoint⟩, data, torn⟩ := c
  cases endpoint <;> simp [ClientSession.clearBinding, DatagramBinding.clear, DatagramBinding.empty]

theorem beginTeardown_snd_eq_self_iff : c.beginTeardown.2 = c ↔ c.beginTeardown.1 = false := by
  obtain ⟨id, stream, binding, data, torn⟩ := c
  cases torn <;> simp [ClientSession.beginTeardown]

end ClientSession

namespace State

variable {α : Type} (s : State α)

/-! ### What a step can do to the options and the table -/

theorem options_advanceTeardown (i client : Nat) (protocol : Protocol) (notify : Bool)
    (stage : TeardownStage) :
    (s.advanceTeardown i client protocol notify stage).options = s.options := by
  cases stage <;> simp only [advanceTeardown] <;> (repeat' split) <;> rfl

theorem options_step (a : Action) : (s.step a).options = s.options := by
  cases a
  case advance i =>
    simp only [step]
    split
    · exact s.options_advanceTeardown ..
    · rfl
  all_goals (simp only [step]; (repeat' split) <;> rfl)

theorem options_run (actions : List Action) : (s.run actions).options = s.options := by
  induction actions generalizing s with
  | nil => rfl
  | cons a actions ih => exact (ih (s.step a)).trans (s.options_step a)

/-- Only the removal step of a teardown changes the table, and only while the entry still names
its client object. -/
theorem table_advanceTeardown (i client : Nat) (protocol : Protocol) (notify : Bool)
    (stage : TeardownStage) :
    (s.advanceTeardown i client protocol notify stage).table = s.table ∨
      stage = .remove ∧ ∃ k, s.idOf client = some k ∧ s.table.lookup k = some client ∧
        (s.advanceTeardown i client protocol notify stage).table = s.table.filter (·.1 != k) := by
  cases stage
  case remove =>
    simp only [advanceTeardown]
    split
    · exact .inl rfl
    · next k hk =>
      by_cases hlookup : s.table.lookup k = some client
      · exact .inr ⟨trivial, k, hk, hlookup, by simp [hlookup]⟩
      · exact .inl (by simp [hlookup])
  all_goals exact .inl (by simp only [advanceTeardown] <;> (repeat' split) <;> rfl)

/-- What a step does to the table: it keeps it, an admission puts its session in, or a teardown's
removal step takes an entry out. -/
theorem table_step (a : Action) :
    (s.step a).table = s.table ∨
      (∃ i id peer, a = .insert i ∧ s.tasks[i]? = some (.admission id peer .insert) ∧
        (s.step a).table = (id, s.clients.length) :: s.table.filter (·.1 != id)) ∨
      ∃ i client protocol notify k, a = .advance i ∧
        s.tasks[i]? = some (.teardown client protocol notify .remove) ∧ s.idOf client = some k ∧
        s.table.lookup k = some client ∧ (s.step a).table = s.table.filter (·.1 != k) := by
  cases a
  case insert i =>
    simp only [step]
    split
    · next id peer hi => exact .inr (.inl ⟨i, id, peer, rfl, hi, rfl⟩)
    · exact .inl rfl
  case advance i =>
    simp only [step]
    split
    · next client protocol notify stage hi =>
      rcases s.table_advanceTeardown i client protocol notify stage with
        h | ⟨rfl, k, hk, hlookup, h⟩
      · exact .inl h
      · exact .inr (.inr ⟨i, client, protocol, notify, k, rfl, hi, hk, hlookup, h⟩)
    · exact .inl rfl
  all_goals exact .inl (by simp only [step]; (repeat' split) <;> rfl)

end State

namespace Consistent

variable {α : Type} {s : State α}

/-! ### The pool against the table and the tasks -/

theorem isAcquired_iff (h : Consistent s) (k : ClientId) :
    s.identities.isAcquired k = true ↔ k ∈ s.keys ++ s.holders := by
  rw [IdentityPool.isAcquired_eq h.pool, decide_eq_true_iff]
  exact h.ledger.2 k

/-- Every entry of the table names a client object of its identity, and the pool holds the identity. -/
theorem entry (h : Consistent s) {k : ClientId} {client : Nat} (he : (k, client) ∈ s.table) :
    s.idOf client = some k ∧ s.identities.isAcquired k = true :=
  ⟨h.entries k client he,
    (h.isAcquired_iff k).2 (List.mem_append_left _ (List.mem_map_of_mem (f := Prod.fst) he))⟩

/-- The pool has out one identity per session of the table and one per task that holds one. -/
theorem inUse_eq (h : Consistent s) : s.identities.inUse = s.clientCount + s.holders.length := by
  have hfits : s.identities.capacity < UInt32.size := by
    rw [h.capacity]
    exact h.fits
  rw [h.ledger.inUse_eq h.pool hfits, List.length_append]
  simp [State.keys, State.clientCount]

theorem inUse_le_maxClients (h : Consistent s) : s.identities.inUse ≤ s.options.maxClients :=
  h.capacity ▸ IdentityPool.inUse_le_capacity h.pool

/-! ### Removing sessions and the first step of a teardown -/

/-- Only the removal step of a whole teardown takes an entry out, and only that of the client object
it tears down. -/
theorem entry_removed (h : Consistent s) (a : Action) {k : ClientId} {client : Nat}
    (he : (k, client) ∈ s.table) (hgone : (k, client) ∉ (s.step a).table) :
    ∃ i protocol notify, a = .advance i ∧
      s.tasks[i]? = some (.teardown client protocol notify .remove) ∧ protocol ≠ .udp := by
  have hnodup : (s.table.map Prod.fst).Nodup := (List.nodup_append.1 h.ledger.1).1
  rcases s.table_step a with hsame | ⟨i, id, peer, rfl, hi, hins⟩ |
      ⟨i, client', protocol, notify, k', rfl, hi, -, hlookup, hrem⟩
  · exact absurd (hsame ▸ he) hgone
  · have hheld : id ∈ s.holders := List.mem_filterMap.2 ⟨_, List.mem_of_getElem? hi, rfl⟩
    have hfresh : id ∉ s.table.map Prod.fst := fun hkey =>
      (List.nodup_append.1 h.ledger.1).2.2 id hkey id hheld rfl
    rw [hins, filter_ne_eq_self hfresh] at hgone
    exact absurd (List.mem_cons_of_mem _ he) hgone
  · rw [hrem] at hgone
    have hkey : k = k' := by
      by_contra hne
      exact hgone (List.mem_filter.2 ⟨he, by simpa using hne⟩)
    subst hkey
    have hclient : client = client' := eq_of_mem_of_mem hnodup he (mem_of_lookup_eq_some hlookup)
    subst hclient
    exact ⟨i, protocol, notify, rfl, hi, h.inProgress i client protocol notify .remove hi rfl⟩

theorem start_done_false_iff (h : Consistent s) {i client : Nat} {protocol : Protocol}
    {notify : Bool} (hi : s.tasks[i]? = some (.teardown client protocol notify .start)) :
    (s.step (.advance i)).tasks[i]? = some (.teardown client protocol notify (.done false)) ↔
      (s.step (.advance i)).clients = s.clients := by
  have hlt : i < s.tasks.length := (List.getElem?_eq_some_iff.1 hi).1
  have hclient : client < s.clients.length := h.refers _ (List.mem_of_getElem? hi) client rfl
  obtain ⟨c, hc⟩ : ∃ c, s.clients[client]? = some c := ⟨_, List.getElem?_eq_getElem hclient⟩
  simp only [State.step, hi, State.advanceTeardown, hc]
  by_cases hudp : protocol = .udp
  · simp only [hudp, if_true]
    split <;> simp [hlt, set_eq_self_iff hc, ClientSession.clearBinding_snd_eq_self_iff]
  · simp only [hudp, if_false]
    simp [hlt, set_eq_self_iff hc, ClientSession.beginTeardown_snd_eq_self_iff]

end Consistent

/-! ### Every run -/

/-- After any interleaving of the server's tasks, the table and the pool agree, at most one call
tears a client object down, and every release freed a held identity. -/
theorem sessions_and_identities_in_every_interleaving {α : Type} (options : ServerOptions)
    (hfits : options.maxClients < UInt32.size) (actions : List Action) :
    let s : State α := (State.init options).run actions
    (∀ k client, (k, client) ∈ s.table →
      s.idOf client = some k ∧ s.identities.isAcquired k = true) ∧
    (s.keys ++ s.holders).Nodup ∧
    (∀ k, s.identities.isAcquired k = true ↔ k ∈ s.keys ++ s.holders) ∧
    s.identities.inUse = s.clientCount + s.holders.length ∧
    s.clientCount ≤ s.identities.inUse ∧ s.identities.inUse ≤ options.maxClients ∧
    (∀ client i j, s.TearsDown client i → s.TearsDown client j → i = j) ∧
    (∀ i client protocol notify stage,
      s.tasks[i]? = some (.teardown client protocol notify stage) →
        ∃ info : ClientInfo α, s.idOf client = some info.id ∧
          s.callsOf i = teardownCalls info protocol notify stage) ∧
    (∀ e ∈ s.trace, ∀ id freed, e.2 = .release id freed →
      freed = true ∧ ∃ i, e.1 = some i ∧ s.ReleasedBy i id) ∧
    (∀ a k client, (k, client) ∈ s.table → (k, client) ∉ (s.step a).table →
      ∃ i protocol notify, a = .advance i ∧
        s.tasks[i]? = some (.teardown client protocol notify .remove) ∧ protocol ≠ .udp) ∧
    (∀ i client protocol notify, s.tasks[i]? = some (.teardown client protocol notify .start) →
      ((s.step (.advance i)).tasks[i]? = some (.teardown client protocol notify (.done false)) ↔
        (s.step (.advance i)).clients = s.clients)) := by
  intro s
  have h : Consistent s := (Consistent.init hfits).run actions
  have hoptions : s.options = options := (State.init options).options_run actions
  have hcount := h.inUse_eq
  refine ⟨fun k client he => h.entry he, h.ledger.1, h.isAcquired_iff, hcount, by omega,
    hoptions ▸ h.inUse_le_maxClients, h.once, h.calls, h.releases,
    fun a k client => h.entry_removed a, fun i client protocol notify => h.start_done_false_iff⟩

/-- Stopping while an admission re-checks the stopped flag: at most one of its two teardowns tears
the new client object down. -/
theorem stop_during_admission_tears_down_once :
    let s : State Unit := (State.init { maxClients := 2 }).run
      [.accept (.v4 (Ipv4.ofOctets 10 0 0 5) 4000) 0, .verdict 0 true, .configure 0 (.ok ()),
        .insert 0, .stop, .recheck 0, .collect 1]
    ({ maxClients := 2 } : ServerOptions).maxClients < UInt32.size ∧
      ∀ i j, s.TearsDown 0 i → s.TearsDown 0 j → i = j :=
  ⟨by decide, (sessions_and_identities_in_every_interleaving _ (by decide) _).2.2.2.2.2.2.1 0⟩

/-! ### Identities past 32 bits -/

theorem IdentityPool.isAcquired_zero (pool : IdentityPool) : pool.isAcquired 0 = false := by
  simp [IdentityPool.isAcquired, IdentityPool.slotOf?]

namespace State

variable {α : Type}

theorem run_append (s : State α) (xs ys : List Action) : s.run (xs ++ ys) = (s.run xs).run ys :=
  List.foldl_append ..

/-- Accepting `m` connections in a row from a fresh server: the pool holds the first `m` slots and
each connection waits for its verdict. -/
theorem run_accepts (options : ServerOptions) (peer : SocketAddr) {m : Nat}
    (hm : m ≤ options.maxClients) :
    (init options : State α).run ((List.range m).map (.accept peer)) =
      { (init options : State α) with
        identities := ⟨options.maxClients, List.range m⟩
        tasks := (List.range m).map fun j => .admission (IdentityPool.identityOf j) peer .verdict
        trace := (List.range m).map fun j =>
          (some j, .dispatch (.accept (Server.candidate (IdentityPool.identityOf j) peer))) } := by
  induction m with
  | zero => rfl
  | succ m ih =>
    rw [List.range_succ, List.map_append, run_append, ih (by omega)]
    have hfree : m < options.maxClients ∧ m ∉ List.range m := ⟨by omega, by simp⟩
    simp only [run, List.map_cons, List.map_nil, List.foldl_cons, List.foldl_nil, step]
    rw [if_pos hfree]
    simp only [record, spawn, IdentityPool.claim,
      IdentityPool.insertSorted_eq_append fun x hx => List.mem_range.1 hx, List.length_map,
      List.length_range, List.map_append, List.map_cons, List.map_nil]

/-- From a fresh server, fill every slot and let the last admission through: its session enters the
table under the last slot's identity. -/
theorem last_admission_enters_table (options : ServerOptions) (peer : SocketAddr) {m : Nat}
    (hm : m + 1 = options.maxClients) :
    (IdentityPool.identityOf m, 0) ∈ ((init options : State α).run
      ((List.range (m + 1)).map (.accept peer) ++
        [.verdict m true, .configure m (.ok ()), .insert m])).table := by
  rw [run_append, run_accepts options peer hm.le]
  simp [run, step, init]

end State

/-- With `2 ^ 32` slots the last slot's identity wraps to `0`, which enters the table while the pool
does not hold it. -/
theorem wrapped_identity_enters_table_unheld :
    let s : State Unit := (State.init { maxClients := UInt32.size }).run
      ((List.range UInt32.size).map (.accept (.v4 (Ipv4.ofOctets 10 0 0 5) 4000)) ++
        [.verdict (UInt32.size - 1) true, .configure (UInt32.size - 1) (.ok ()),
          .insert (UInt32.size - 1)])
    (0, 0) ∈ s.table ∧ s.identities.isAcquired 0 = false := by
  have hlast : IdentityPool.identityOf (UInt32.size - 1) = 0 := by decide
  have hsize : UInt32.size - 1 + 1 = UInt32.size := by decide
  have hentry := State.last_admission_enters_table (α := Unit) { maxClients := UInt32.size }
    (.v4 (Ipv4.ofOctets 10 0 0 5) 4000) hsize
  rw [hlast, hsize] at hentry
  -- no `intro`: with the run behind a local name, unifying with `hentry` would evaluate it
  exact ⟨hentry, IdentityPool.isAcquired_zero _⟩

end Concurrent

end FrameLink
