import FrameLink.Proofs.Tasks

/-!
The session table and the identity pool in every interleaving of the server's tasks. Whatever the
order in which accepts, admissions, teardowns and stopping take their steps, the pool holds
exactly the identities of the table and those the tasks hold on their own, each once; every table
entry names a client object of its identity; a client object is torn down by one call only, which
announces the disconnection if asked and frees the identity last; a teardown of the datagram side
never takes a session out of the table nor frees an identity; and every release frees an identity
that was held.

All of it is one invariant, `Consistent`, that holds of the starting state and that every step
keeps. Each kind of action gets its own lemma, built from a few general ones: recording a call to
the dispatch queue, starting a task, updating a client object, moving an admission on.
-/

namespace FrameLink

namespace Concurrent

/-! ### What the invariant speaks of -/

/-- Whether a teardown at this stage has marked its client and not yet returned. -/
def TeardownStage.inProgress : TeardownStage → Bool
  | .close | .clear | .remove | .notify | .release => true
  | _ => false

/-- Whether a teardown at this stage has marked its client and its session is still in the table. -/
def TeardownStage.beforeRemoval : TeardownStage → Bool
  | .close | .clear | .remove => true
  | _ => false

def TeardownStage.marked : TeardownStage → Bool
  | .start | .done false => false
  | _ => true

/-- Whether a task is the teardown of `client` past marking it, not for the datagram side only: the
call that tears the session down. -/
def Task.tearsDown (client : Nat) : Task → Bool
  | .teardown client' protocol _ stage => client' == client && protocol != .udp && stage.marked
  | _ => false

/-- The calls a teardown has made by `stage`: none if it changed nothing; otherwise the notice if
asked and, unless for the datagram side only, then the release. -/
def teardownCalls {α : Type} (info : ClientInfo α) (protocol : Protocol) (notify : Bool) :
    TeardownStage → List (Call α)
  | .release => if notify then [.dispatch (.disconnected info protocol)] else []
  | .done true =>
    (if notify then [.dispatch (.disconnected info protocol)] else []) ++
      if protocol = .udp then [] else [.release info.id true]
  | _ => []

/-- A list of identities that stands for a set of numbers: each identity in it once, and the set
holds exactly their values. -/
def Ledger (ids : List ClientId) (held : Finset Nat) : Prop :=
  ids.Nodup ∧ ∀ k : ClientId, k.toNat ∈ held ↔ k ∈ ids

namespace State

variable {α : Type}

def TearsDown (s : State α) (client i : Nat) : Prop :=
  ∃ t, s.tasks[i]? = some t ∧ t.tearsDown client = true

/-- Task `i` has returned after releasing `id`, as an admission that gave up or as the teardown of
the client object of that identity. -/
def ReleasedBy (s : State α) (i : Nat) (id : ClientId) : Prop :=
  (∃ peer, s.tasks[i]? = some (.admission id peer .done)) ∨
    ∃ client protocol notify, s.tasks[i]? = some (.teardown client protocol notify (.done true)) ∧
      protocol ≠ .udp ∧ s.idOf client = some id

end State

/-! ### The ledger -/

section Ledger

variable {ids ids' : List ClientId} {held : Finset Nat} {k : ClientId}

theorem Ledger.perm (h : Ledger ids held) (hperm : ids'.Perm ids) : Ledger ids' held :=
  ⟨hperm.nodup_iff.2 h.1, fun k => (h.2 k).trans hperm.mem_iff.symm⟩

theorem Ledger.claim (h : Ledger ids held) (hk : k.toNat ∉ held) (hperm : ids'.Perm (ids ++ [k])) :
    Ledger ids' (insert k.toNat held) := by
  have hnotin : k ∉ ids := fun hm => hk ((h.2 k).2 hm)
  refine ⟨hperm.nodup_iff.2 (h.1.append (List.nodup_singleton k) ?_), fun k' => ?_⟩
  · simpa using hnotin
  · rw [Finset.mem_insert, hperm.mem_iff, List.mem_append, List.mem_singleton, h.2 k',
      UInt32.toNat_inj]
    exact or_comm

theorem Ledger.release (h : Ledger ids held) (hperm : (ids' ++ [k]).Perm ids) :
    Ledger ids' (held.erase k.toNat) ∧ k.toNat ∈ held := by
  have hnodup : (ids' ++ [k]).Nodup := hperm.nodup_iff.2 h.1
  have hnotin : k ∉ ids' := fun hm =>
    (List.nodup_append.1 hnodup).2.2 k hm k (List.mem_singleton_self k) rfl
  have hmem : ∀ k', k' ∈ ids ↔ k' ∈ ids' ∨ k' = k := fun k' => by
    rw [← hperm.mem_iff, List.mem_append, List.mem_singleton]
  refine ⟨⟨hnodup.sublist (List.sublist_append_left _ _), fun k' => ?_⟩,
    (h.2 k).2 ((hmem k).2 (.inr rfl))⟩
  rw [Finset.mem_erase, h.2 k', hmem k', Ne, UInt32.toNat_inj]
  constructor
  · rintro ⟨hne, hk' | rfl⟩
    · exact hk'
    · exact absurd rfl hne
  · intro hk'
    exact ⟨fun heq => hnotin (heq ▸ hk'), .inl hk'⟩

/-- The identities a well-formed pool holds, as numbers, are those of its ledger. -/
theorem Ledger.ids_eq {pool : IdentityPool} (h : Ledger ids pool.ids) (hwf : pool.WellFormed)
    (hfits : pool.capacity < UInt32.size) : pool.ids = (ids.map UInt32.toNat).toFinset := by
  ext m
  constructor
  · intro hm
    have hlt : m < UInt32.size := by
      have hle := IdentityPool.le_capacity_of_mem_ids hwf hm
      omega
    have hval : (UInt32.ofNat m).toNat = m := UInt32.toNat_ofNat_of_lt' hlt
    refine List.mem_toFinset.2 (List.mem_map.2 ⟨UInt32.ofNat m, (h.2 _).1 ?_, hval⟩)
    rwa [hval]
  · intro hm
    obtain ⟨k, hk, rfl⟩ := List.mem_map.1 (List.mem_toFinset.1 hm)
    exact (h.2 k).2 hk

theorem Ledger.inUse_eq {pool : IdentityPool} (h : Ledger ids pool.ids) (hwf : pool.WellFormed)
    (hfits : pool.capacity < UInt32.size) : pool.inUse = ids.length := by
  have hinj : Function.Injective UInt32.toNat := fun _ _ hk => UInt32.toNat_inj.1 hk
  rw [← IdentityPool.card_ids hwf, h.ids_eq hwf hfits, List.toFinset_card_of_nodup (h.1.map hinj),
    List.length_map]

end Ledger

/-! ### The invariant -/

/-- What holds in every state the server's tasks can reach. -/
structure Consistent {α : Type} (s : State α) : Prop where
  pool : s.identities.WellFormed
  capacity : s.identities.capacity = s.options.maxClients
  fits : s.options.maxClients < UInt32.size
  /-- The pool holds exactly the table's keys and the identities the tasks hold, each once. -/
  ledger : Ledger (s.keys ++ s.holders) s.identities.ids
  entries : ∀ k client, (k, client) ∈ s.table → s.idOf client = some k
  /-- A client object not marked for teardown is in the table under its identity. -/
  untorn : ∀ client c, s.clients[client]? = some c → c.tornDown = false → (c.id, client) ∈ s.table
  refers : ∀ t ∈ s.tasks, ∀ client ∈ t.client?, client < s.clients.length
  /-- A teardown between marking its client and returning is not for the datagram side only. -/
  inProgress : ∀ (i client : Nat) (protocol : Protocol) (notify : Bool) (stage : TeardownStage),
    s.tasks[i]? = some (.teardown client protocol notify stage) → stage.inProgress = true →
      protocol ≠ .udp
  /-- Until its removal step, the session a teardown tears down is in the table. -/
  beforeRemoval : ∀ (i client : Nat) (protocol : Protocol) (notify : Bool) (stage : TeardownStage),
    s.tasks[i]? = some (.teardown client protocol notify stage) → stage.beforeRemoval = true →
      ∃ k, s.idOf client = some k ∧ (k, client) ∈ s.table
  marked : ∀ client i, s.TearsDown client i → ∃ c, s.clients[client]? = some c ∧ c.tornDown = true
  /-- At most one call tears a client object down. -/
  once : ∀ client i j, s.TearsDown client i → s.TearsDown client j → i = j
  calls : ∀ (i client : Nat) (protocol : Protocol) (notify : Bool) (stage : TeardownStage),
    s.tasks[i]? = some (.teardown client protocol notify stage) →
      ∃ info : ClientInfo α, s.idOf client = some info.id ∧
        s.callsOf i = teardownCalls info protocol notify stage
  tags : ∀ e ∈ s.trace, ∀ i ∈ e.1, i < s.tasks.length
  /-- Every release freed a held identity, for one of the two reasons there are. -/
  releases : ∀ e ∈ s.trace, ∀ id freed, e.2 = .release id freed →
    freed = true ∧ ∃ i, e.1 = some i ∧ s.ReleasedBy i id

/-! ### Facts about single tasks -/

section Tasks

variable {α : Type} {s s' : State α} {t : Task} {i client : Nat} {id : ClientId}

theorem tearsDown_eq_false
    (hstart : ∀ client protocol notify stage, t = .teardown client protocol notify stage →
      stage = .start) (client : Nat) : t.tearsDown client = false := by
  rcases t with ⟨id, peer, stage⟩ | ⟨client', protocol, notify, stage⟩ | collected
  · rfl
  · simp [Task.tearsDown, hstart client' protocol notify stage rfl, TeardownStage.marked]
  · rfl

theorem State.ReleasedBy.lt_length (h : s.ReleasedBy i id) : i < s.tasks.length := by
  rcases h with ⟨peer, hi⟩ | ⟨client, protocol, notify, hi, -⟩ <;>
    exact (List.getElem?_eq_some_iff.1 hi).1

theorem State.ReleasedBy.of_eq (h : s.ReleasedBy i id) (htask : s'.tasks[i]? = s.tasks[i]?)
    (hid : ∀ client k, s.idOf client = some k → s'.idOf client = some k) : s'.ReleasedBy i id := by
  rcases h with ⟨peer, hi⟩ | ⟨client, protocol, notify, hi, hudp, hclient⟩
  · exact .inl ⟨peer, htask.trans hi⟩
  · exact .inr ⟨client, protocol, notify, htask.trans hi, hudp, hid client id hclient⟩

theorem State.ReleasedBy.admission_done (h : s.ReleasedBy i id) {id' : ClientId} {peer : SocketAddr}
    {stage : AdmissionStage} (hi : s.tasks[i]? = some (.admission id' peer stage)) :
    stage = .done := by
  rcases h with ⟨peer', hi'⟩ | ⟨client, protocol, notify, hi', -⟩ <;> rw [hi] at hi' <;> cases hi'
  rfl

theorem State.ReleasedBy.teardown_done (h : s.ReleasedBy i id) {protocol : Protocol}
    {notify : Bool} {stage : TeardownStage}
    (hi : s.tasks[i]? = some (.teardown client protocol notify stage)) : stage = .done true := by
  rcases h with ⟨peer', hi'⟩ | ⟨client', protocol', notify', hi', -⟩ <;> rw [hi] at hi' <;> cases hi'
  rfl

theorem State.ReleasedBy.of_rest {j : Nat} (hby : s.ReleasedBy j id) (hfresh : ¬s.ReleasedBy i id)
    (hrest : ∀ j, i ≠ j → s'.tasks[j]? = s.tasks[j]?)
    (hid : ∀ client k, s.idOf client = some k → s'.idOf client = some k) : s'.ReleasedBy j id :=
  hby.of_eq (hrest j fun hij => hfresh (hij ▸ hby)) hid

/-- Where each task of `s'` is that of `s` or no teardown, a call that tears a client object down
in `s'` does so in `s`. -/
theorem State.TearsDown.of_tasks {j : Nat} (hj : s'.TearsDown client j)
    (htasks : ∀ u, s'.tasks[j]? = some u →
      s.tasks[j]? = some u ∨ ∀ c p n st, u ≠ .teardown c p n st) :
    s.TearsDown client j := by
  obtain ⟨u, hu, htd⟩ := hj
  rcases htasks u hu with hu | hnot
  · exact ⟨u, hu, htd⟩
  · rw [tearsDown_eq_false fun c p n st heq => absurd heq (hnot c p n st)] at htd
    cases htd

theorem teardown_of_tasks {j : Nat} {protocol : Protocol} {notify : Bool} {stage : TeardownStage}
    (hj : s'.tasks[j]? = some (.teardown client protocol notify stage))
    (htasks : ∀ u, s'.tasks[j]? = some u →
      s.tasks[j]? = some u ∨ ∀ c p n st, u ≠ .teardown c p n st) :
    s.tasks[j]? = some (.teardown client protocol notify stage) :=
  (htasks _ hj).resolve_right fun hnot => hnot client protocol notify stage rfl

theorem State.tearsDown_iff_of_set {u u' : Task} {j : Nat} (hi : s.tasks[i]? = some u)
    (htasks : s'.tasks = s.tasks.set i u') (hsame : u'.tearsDown client = u.tearsDown client) :
    s'.TearsDown client j ↔ s.TearsDown client j := by
  have hlt : i < s.tasks.length := (List.getElem?_eq_some_iff.1 hi).1
  by_cases hij : i = j
  · subst hij
    simp only [State.TearsDown, htasks, List.getElem?_set_self hlt, hi, Option.some.injEq,
      exists_eq_left', hsame]
  · simp only [State.TearsDown, htasks, List.getElem?_set_ne hij]

theorem teardown_of_moved {u : Task} {j client' : Nat} {protocol' : Protocol} {notify' : Bool}
    {st : TeardownStage} (hself : s'.tasks[i]? = some u)
    (hrest : ∀ j, i ≠ j → s'.tasks[j]? = s.tasks[j]?)
    (hj : s'.tasks[j]? = some (.teardown client' protocol' notify' st)) :
    (i = j ∧ u = .teardown client' protocol' notify' st) ∨
      (i ≠ j ∧ s.tasks[j]? = some (.teardown client' protocol' notify' st)) := by
  by_cases hij : i = j
  · subst hij
    rw [hself] at hj
    exact .inl ⟨rfl, Option.some.inj hj⟩
  · exact .inr ⟨hij, (hrest j hij) ▸ hj⟩

theorem TeardownStage.inProgress_of_beforeRemoval {stage : TeardownStage}
    (h : stage.beforeRemoval = true) : stage.inProgress = true := by
  cases stage <;> simp_all [TeardownStage.beforeRemoval, TeardownStage.inProgress]

theorem TeardownStage.marked_of_inProgress {stage : TeardownStage}
    (h : stage.inProgress = true) : stage.marked = true := by
  cases stage <;> simp_all [TeardownStage.inProgress, TeardownStage.marked]

end Tasks

namespace Consistent

variable {α : Type} {s : State α} {i client : Nat} {id : ClientId} {peer : SocketAddr}

theorem init {options : ServerOptions} (hfits : options.maxClients < UInt32.size) :
    Consistent (State.init options : State α) where
  pool := IdentityPool.wellFormed_new _
  capacity := rfl
  fits := hfits
  ledger := ⟨List.nodup_nil, fun k => by
    simp [State.init, State.keys, State.holders, IdentityPool.ids_new]⟩
  entries := by simp [State.init]
  untorn := by simp [State.init]
  refers := by simp [State.init]
  inProgress := by simp [State.init]
  beforeRemoval := by simp [State.init]
  marked := by simp [State.TearsDown, State.init]
  once := by simp [State.TearsDown, State.init]
  calls := by simp [State.init]
  tags := by simp [State.init]
  releases := by simp [State.init]

theorem record_dispatch (h : Consistent s) {o : Option Nat}
    (ho : ∀ i ∈ o, i < s.tasks.length ∧
      ∀ client protocol notify stage, s.tasks[i]? ≠ some (.teardown client protocol notify stage))
    (e : ServerEvent α) : Consistent (s.record o (.dispatch e)) where
  pool := h.pool
  capacity := h.capacity
  fits := h.fits
  ledger := h.ledger
  entries := h.entries
  untorn := h.untorn
  refers := h.refers
  inProgress := h.inProgress
  beforeRemoval := h.beforeRemoval
  marked := h.marked
  once := h.once
  calls := by
    intro i client protocol notify stage hi
    obtain ⟨info, hid, hcalls⟩ := h.calls i client protocol notify stage hi
    have hne : o ≠ some i := fun heq => (ho i heq).2 client protocol notify stage hi
    exact ⟨info, hid, by rw [callsOf_record, hcalls, if_neg hne, List.append_nil]⟩
  tags := by
    intro e' he' i hi
    rcases List.mem_append.1 he' with he' | he'
    · exact h.tags e' he' i hi
    · obtain rfl := List.mem_singleton.1 he'
      exact (ho i hi).1
  releases := by
    intro e' he' id freed hrel
    rcases List.mem_append.1 he' with he' | he'
    · exact h.releases e' he' id freed hrel
    · obtain rfl := List.mem_singleton.1 he'
      cases hrel

/-- Starting a task that holds nothing and refers to client objects that exist keeps the invariant. -/
theorem spawn (h : Consistent s) {t : Task} (hhold : holding s.idOf t = none)
    (hrefers : ∀ client ∈ t.client?, client < s.clients.length)
    (hstart : ∀ client protocol notify stage, t = .teardown client protocol notify stage →
      stage = .start) :
    Consistent (s.spawn t) where
  pool := h.pool
  capacity := h.capacity
  fits := h.fits
  ledger := by
    have hholders : (s.spawn t).holders = s.holders := by
      rw [holders_spawn, hhold, Option.toList_none, List.append_nil]
    rw [keys_spawn, hholders]
    exact h.ledger
  entries := h.entries
  untorn := h.untorn
  refers := by
    intro t' ht' client hc
    rcases List.mem_append.1 ht' with ht' | ht'
    · exact h.refers t' ht' client hc
    · obtain rfl := List.mem_singleton.1 ht'
      exact hrefers client hc
  inProgress := by
    intro i client protocol notify stage hi hst
    rcases spawn_tasks_getElem?_eq_some hi with hi | ⟨-, heq⟩
    · exact h.inProgress i client protocol notify stage hi hst
    · cases hstart _ _ _ _ heq.symm
      cases hst
  beforeRemoval := by
    intro i client protocol notify stage hi hst
    rcases spawn_tasks_getElem?_eq_some hi with hi | ⟨-, heq⟩
    · exact h.beforeRemoval i client protocol notify stage hi hst
    · cases hstart _ _ _ _ heq.symm
      cases hst
  marked := by
    rintro client i ⟨t', hi, htd⟩
    rcases spawn_tasks_getElem?_eq_some hi with hi | ⟨-, rfl⟩
    · exact h.marked client i ⟨t', hi, htd⟩
    · rw [tearsDown_eq_false hstart] at htd
      cases htd
  once := by
    rintro client i j ⟨ti, hi, hti⟩ ⟨tj, hj, htj⟩
    rcases spawn_tasks_getElem?_eq_some hi with hi | ⟨-, rfl⟩
    · rcases spawn_tasks_getElem?_eq_some hj with hj | ⟨-, rfl⟩
      · exact h.once client i j ⟨ti, hi, hti⟩ ⟨tj, hj, htj⟩
      · rw [tearsDown_eq_false hstart] at htj
        cases htj
    · rw [tearsDown_eq_false hstart] at hti
      cases hti
  calls := by
    intro i client protocol notify stage hi
    rcases spawn_tasks_getElem?_eq_some hi with hi | ⟨rfl, rfl⟩
    · exact h.calls i client protocol notify stage hi
    · obtain ⟨c, hc⟩ : ∃ c, s.clients[client]? = some c :=
        ⟨_, List.getElem?_eq_getElem (hrefers client rfl)⟩
      refine ⟨c.info, by simp [State.idOf, hc, ClientSession.info], ?_⟩
      rw [hstart _ _ _ _ rfl, callsOf_spawn, callsOf_eq_nil h.tags (Nat.le_refl _)]
      rfl
  tags := fun e he i hi => Nat.lt_of_lt_of_le (h.tags e he i hi) (by simp)
  releases := by
    intro e he id freed hrel
    obtain ⟨hfreed, i, hi, hby⟩ := h.releases e he id freed hrel
    exact ⟨hfreed, i, hi, hby.of_eq (spawn_tasks_getElem?_of_lt hby.lt_length)
      fun _ _ hk => hk⟩

theorem stop (h : Consistent s) : Consistent ({ s with stopped := true } : State α) :=
  ⟨h.pool, h.capacity, h.fits, h.ledger, h.entries, h.untorn, h.refers, h.inProgress,
    h.beforeRemoval, h.marked, h.once, h.calls, h.tags, h.releases⟩

theorem setClient (h : Consistent s) {c c' : ClientSession α} (hc : s.clients[client]? = some c)
    (hid : c'.id = c.id) (htorn : c'.tornDown = c.tornDown) :
    Consistent (s.setClient client c') where
  pool := h.pool
  capacity := h.capacity
  fits := h.fits
  ledger := by
    rw [keys_setClient, holders_setClient hc hid]
    exact h.ledger
  entries := by
    rw [idOf_setClient hc hid]
    exact h.entries
  untorn := by
    intro client' c'' hc'' hfalse
    by_cases hsame : client = client'
    · subst hsame
      rw [setClient_clients_getElem?_self hc] at hc''
      cases hc''
      rw [hid]
      exact h.untorn client c hc (htorn ▸ hfalse)
    · rw [setClient_clients_getElem?_of_ne hsame] at hc''
      exact h.untorn client' c'' hc'' hfalse
  refers := by
    simpa using h.refers
  inProgress := h.inProgress
  beforeRemoval := by
    rw [idOf_setClient hc hid]
    exact h.beforeRemoval
  marked := by
    intro client' i hi
    obtain ⟨c'', hc'', hmark⟩ := h.marked client' i hi
    by_cases hsame : client = client'
    · subst hsame
      rw [hc] at hc''
      cases hc''
      exact ⟨c', setClient_clients_getElem?_self hc, htorn.trans hmark⟩
    · exact ⟨c'', (setClient_clients_getElem?_of_ne hsame).trans hc'', hmark⟩
  once := h.once
  calls := by
    rw [idOf_setClient hc hid]
    exact h.calls
  tags := h.tags
  releases := by
    intro e he id freed hrel
    obtain ⟨hfreed, i, hi, hby⟩ := h.releases e he id freed hrel
    exact ⟨hfreed, i, hi, hby.of_eq rfl (by rw [idOf_setClient hc hid]; exact fun _ _ hk => hk)⟩

theorem setTask_plain (h : Consistent s) {t t' : Task} (hi : s.tasks[i]? = some t)
    (hteardown : ∀ client protocol notify stage, t' ≠ .teardown client protocol notify stage)
    (hhold : holding s.idOf t' = holding s.idOf t)
    (hrefers : ∀ client ∈ t'.client?, client < s.clients.length)
    (hfresh : ∀ id, ¬s.ReleasedBy i id) :
    Consistent (s.setTask i t') := by
  have hold : ∀ j (u : Task), (s.setTask i t').tasks[j]? = some u →
      s.tasks[j]? = some u ∨ ∀ c p n st, u ≠ .teardown c p n st := fun j u hj => by
    rcases setTask_tasks_getElem?_eq_some hj with ⟨-, rfl⟩ | ⟨-, hj⟩
    · exact .inr hteardown
    · exact .inl hj
  exact {
    pool := h.pool
    capacity := h.capacity
    fits := h.fits
    ledger := by
      have hperm : ((s.setTask i t').holders ++ (holding s.idOf t).toList).Perm
          (s.holders ++ (holding s.idOf t').toList) := holders_setTask hi
      rw [hhold, List.perm_append_right_iff] at hperm
      rw [keys_setTask]
      exact h.ledger.perm (hperm.append_left _)
    entries := h.entries
    untorn := h.untorn
    refers := by
      intro u hu client hc
      rcases List.mem_or_eq_of_mem_set hu with hu | rfl
      · exact h.refers u hu client hc
      · exact hrefers client hc
    inProgress := fun j client protocol notify st hj =>
      h.inProgress j client protocol notify st (teardown_of_tasks hj (hold j))
    beforeRemoval := fun j client protocol notify st hj =>
      h.beforeRemoval j client protocol notify st (teardown_of_tasks hj (hold j))
    marked := fun client j hj => h.marked client j (hj.of_tasks (hold j))
    once := fun client j k hj hk => h.once client j k (hj.of_tasks (hold j)) (hk.of_tasks (hold k))
    calls := fun j client protocol notify st hj =>
      h.calls j client protocol notify st (teardown_of_tasks hj (hold j))
    tags := by simpa using h.tags
    releases := by
      intro e he id' freed hrel
      obtain ⟨hfreed, j, hj, hby⟩ := h.releases e he id' freed hrel
      exact ⟨hfreed, j, hj, hby.of_rest (hfresh id') (fun _ => setTask_tasks_getElem?_of_ne)
        fun _ _ hk => hk⟩ }

theorem setTask_admission (h : Consistent s) {stage stage' : AdmissionStage}
    (hi : s.tasks[i]? = some (.admission id peer stage)) (hstage : stage ≠ .done)
    (hhold : holding s.idOf (.admission id peer stage') =
      holding s.idOf (.admission id peer stage))
    (hrefers : ∀ client ∈ (Task.admission id peer stage').client?, client < s.clients.length) :
    Consistent (s.setTask i (.admission id peer stage')) :=
  h.setTask_plain hi (fun _ _ _ _ heq => by cases heq) hhold hrefers
    fun _ hby => hstage (hby.admission_done hi)

theorem giveUp (h : Consistent s) {stage : AdmissionStage}
    (hi : s.tasks[i]? = some (.admission id peer stage))
    (hhold : holding s.idOf (.admission id peer stage) = some id) :
    Consistent ((s.releaseBy i id).setTask i (.admission id peer .done)) := by
  have hstage : stage ≠ .done := by
    rintro rfl
    cases hhold
  obtain ⟨hanswer, hids, hwf, hcap⟩ := IdentityPool.release_refines h.pool id
  have hperm : ((s.keys ++ ((s.releaseBy i id).setTask i (.admission id peer .done)).holders) ++
      [id]).Perm (s.keys ++ s.holders) := by
    have hset : (((s.releaseBy i id).setTask i (.admission id peer .done)).holders ++
        (holding (s.releaseBy i id).idOf (.admission id peer stage)).toList).Perm
        ((s.releaseBy i id).holders ++
          (holding (s.releaseBy i id).idOf (.admission id peer .done)).toList) :=
      holders_setTask hi
    rw [idOf_releaseBy, hhold, holders_releaseBy] at hset
    simpa [holding] using hset.append_left s.keys
  obtain ⟨hledger, hheld⟩ := h.ledger.release hperm
  have hold : ∀ j (u : Task), ((s.releaseBy i id).setTask i (.admission id peer .done)).tasks[j]? =
      some u → s.tasks[j]? = some u ∨ ∀ c p n st, u ≠ .teardown c p n st := fun j u hj => by
    rcases setTask_tasks_getElem?_eq_some hj with ⟨-, rfl⟩ | ⟨-, hj⟩
    · exact .inr fun _ _ _ _ heq => by cases heq
    · exact .inl hj
  exact {
    pool := hwf
    capacity := hcap.trans h.capacity
    fits := h.fits
    ledger := by
      rw [State.setTask_identities, State.releaseBy_identities, hids]
      exact hledger
    entries := h.entries
    untorn := h.untorn
    refers := by
      intro t ht client hc
      rcases List.mem_or_eq_of_mem_set ht with ht | rfl
      · exact h.refers t ht client hc
      · cases hc
    inProgress := fun j client protocol notify st hj =>
      h.inProgress j client protocol notify st (teardown_of_tasks hj (hold j))
    beforeRemoval := fun j client protocol notify st hj =>
      h.beforeRemoval j client protocol notify st (teardown_of_tasks hj (hold j))
    marked := fun client j hj => h.marked client j (hj.of_tasks (hold j))
    once := fun client j k hj hk => h.once client j k (hj.of_tasks (hold j)) (hk.of_tasks (hold k))
    calls := by
      intro j client protocol notify st hj
      have hj' := teardown_of_tasks hj (hold j)
      have hij : i ≠ j := by
        rintro rfl
        rw [hi] at hj'
        cases hj'
      obtain ⟨info, hid, hcalls⟩ := h.calls j client protocol notify st hj'
      refine ⟨info, hid, ?_⟩
      rw [callsOf_setTask, callsOf_releaseBy, if_neg hij, List.append_nil, hcalls]
    tags := by
      intro e he j hj
      simp only [State.setTask_trace, State.releaseBy_trace, List.mem_append,
        List.mem_singleton] at he
      rcases he with he | rfl
      · simpa using h.tags e he j hj
      · cases hj
        simpa using (List.getElem?_eq_some_iff.1 hi).1
    releases := by
      intro e he id' freed hrel
      simp only [State.setTask_trace, State.releaseBy_trace, List.mem_append,
        List.mem_singleton] at he
      rcases he with he | rfl
      · obtain ⟨hfreed, j, hj, hby⟩ := h.releases e he id' freed hrel
        exact ⟨hfreed, j, hj, hby.of_rest (fun hby' => hstage (hby'.admission_done hi))
          (fun _ => setTask_tasks_getElem?_of_ne) fun _ _ hk => hk⟩
      · cases hrel
        refine ⟨by rw [hanswer]; exact decide_eq_true hheld, i, rfl, .inl ⟨peer, ?_⟩⟩
        exact setTask_tasks_getElem?_self hi }

/-- The accept loop claims a free slot and starts an admission that holds the slot's identity. -/
theorem accept (h : Consistent s) {slot : Nat} (hslot : slot < s.identities.capacity)
    (hfree : slot ∉ s.identities.held) (e : ServerEvent α) :
    Consistent ((({ s with identities := s.identities.claim slot } : State α).record
      (some s.tasks.length) (.dispatch e)).spawn
      (.admission (IdentityPool.identityOf slot) peer .verdict)) := by
  generalize hid : IdentityPool.identityOf slot = id
  have hnat : id.toNat = slot + 1 := by
    have := h.capacity ▸ h.fits
    rw [← hid]
    exact IdentityPool.toNat_identityOf (by omega)
  obtain ⟨hids, hwf, hcap⟩ := IdentityPool.claim_refines h.pool hslot hfree
  have hnew : id.toNat ∉ s.identities.ids := by
    rw [hnat, IdentityPool.mem_ids]
    simpa using hfree
  generalize hs' : ((({ s with identities := s.identities.claim slot } : State α).record
      (some s.tasks.length) (.dispatch e)).spawn (.admission id peer .verdict)) = s'
  have hidOf : s'.idOf = s.idOf := by rw [← hs']; rfl
  have htasks : s'.tasks = (s.spawn (.admission id peer .verdict)).tasks := by rw [← hs']; rfl
  have hold : ∀ j (u : Task), s'.tasks[j]? = some u →
      s.tasks[j]? = some u ∨ ∀ c p n st, u ≠ .teardown c p n st := fun j u hj => by
    rcases spawn_tasks_getElem?_eq_some (htasks ▸ hj) with hj | ⟨-, rfl⟩
    · exact .inl hj
    · exact .inr fun _ _ _ _ heq => by cases heq
  have htrace : s'.trace = s.trace ++ [(some s.tasks.length, .dispatch e)] := by rw [← hs']; rfl
  exact {
    pool := by rw [← hs']; exact hwf
    capacity := by rw [← hs']; exact hcap.trans h.capacity
    fits := by rw [← hs']; exact h.fits
    ledger := by
      have hholders : s'.holders = s.holders ++ [id] := by
        rw [State.holders, htasks, hidOf, State.spawn_tasks, List.filterMap_append]
        rfl
      have hkeys : s'.keys = s.keys := by rw [← hs']; rfl
      have hpool : s'.identities.ids = insert id.toNat s.identities.ids := by
        rw [← hs', hnat]
        exact hids
      rw [hkeys, hholders, hpool, ← List.append_assoc]
      exact h.ledger.claim hnew (List.Perm.refl _)
    entries := by rw [hidOf, ← hs']; exact h.entries
    untorn := by rw [← hs']; exact h.untorn
    refers := by
      intro t ht client hc
      rw [htasks, State.spawn_tasks] at ht
      have hlen : s'.clients.length = s.clients.length := by rw [← hs']; rfl
      rw [hlen]
      rcases List.mem_append.1 ht with ht | ht
      · exact h.refers t ht client hc
      · obtain rfl := List.mem_singleton.1 ht
        cases hc
    inProgress := fun j client protocol notify st hj =>
      h.inProgress j client protocol notify st (teardown_of_tasks hj (hold j))
    beforeRemoval := by
      intro j client protocol notify st hj hst
      have htable : s'.table = s.table := by rw [← hs']; rfl
      rw [hidOf, htable]
      exact h.beforeRemoval j client protocol notify st (teardown_of_tasks hj (hold j)) hst
    marked := fun client j hj => by
      have hclients : s'.clients = s.clients := by rw [← hs']; rfl
      rw [hclients]
      exact h.marked client j (hj.of_tasks (hold j))
    once := fun client j k hj hk => h.once client j k (hj.of_tasks (hold j)) (hk.of_tasks (hold k))
    calls := by
      intro j client protocol notify st hj
      have hj' := teardown_of_tasks hj (hold j)
      obtain ⟨info, hclient, hcalls⟩ := h.calls j client protocol notify st hj'
      have hne : s.tasks.length ≠ j := fun heq =>
        absurd (List.getElem?_eq_some_iff.1 hj').1 (by omega)
      refine ⟨info, hidOf ▸ hclient, ?_⟩
      have htrace' : s'.trace = s.trace ++ [Call.dispatch e].map fun call =>
          (some s.tasks.length, call) := htrace
      rw [callsOf_of_trace htrace', if_neg hne, List.append_nil, hcalls]
    tags := by
      intro e' he' j hj
      rw [htasks, State.spawn_tasks, List.length_append, List.length_singleton]
      rw [htrace] at he'
      rcases List.mem_append.1 he' with he' | he'
      · exact Nat.lt_succ_of_lt (h.tags e' he' j hj)
      · obtain rfl := List.mem_singleton.1 he'
        cases hj
        exact Nat.lt_succ_self _
    releases := by
      intro e' he' id' freed hrel
      rw [htrace] at he'
      rcases List.mem_append.1 he' with he' | he'
      · obtain ⟨hfreed, j, hj, hby⟩ := h.releases e' he' id' freed hrel
        refine ⟨hfreed, j, hj, hby.of_eq ?_ fun client k hk => hidOf ▸ hk⟩
        rw [htasks]
        exact spawn_tasks_getElem?_of_lt hby.lt_length
      · obtain rfl := List.mem_singleton.1 he'
        cases hrel }

/-- An admission puts its session in the table: its identity moves from the admission to the table. -/
theorem insert (h : Consistent s) (hi : s.tasks[i]? = some (.admission id peer .insert)) :
    Consistent (({ s with
      clients := s.clients ++ [ClientSession.new id peer]
      table := (id, s.clients.length) :: s.table.filter (·.1 != id) } : State α).setTask i
      (.admission id peer (.recheck s.clients.length))) := by
  have hheld : id ∈ s.holders := List.mem_filterMap.2 ⟨_, List.mem_of_getElem? hi, rfl⟩
  have hfresh : id ∉ s.keys := fun hk =>
    (List.nodup_append.1 h.ledger.1).2.2 id hk id hheld rfl
  rw [filter_ne_eq_self hfresh]
  generalize hs' : (({ s with
      clients := s.clients ++ [ClientSession.new id peer]
      table := (id, s.clients.length) :: s.table } : State α).setTask i
      (.admission id peer (.recheck s.clients.length))) = s'
  have hclients : s'.clients = s.clients ++ [ClientSession.new id peer] := by rw [← hs']; rfl
  have htable : s'.table = (id, s.clients.length) :: s.table := by rw [← hs']; rfl
  have htasks : s'.tasks = s.tasks.set i (.admission id peer (.recheck s.clients.length)) := by
    rw [← hs']; rfl
  have hold : ∀ client < s.clients.length, s'.idOf client = s.idOf client := fun client =>
    idOf_of_clients_append hclients
  have hnew : s'.idOf s.clients.length = some id := by
    simp [State.idOf, hclients, ClientSession.new]
  have hrest : ∀ j, j ≠ i → s'.tasks[j]? = s.tasks[j]? := fun j hj => by
    rw [htasks, List.getElem?_set_ne (Ne.symm hj)]
  have hold_task : ∀ j (u : Task), s'.tasks[j]? = some u →
      s.tasks[j]? = some u ∨ ∀ c p n st, u ≠ .teardown c p n st := fun j u hj => by
    by_cases hji : j = i
    · rw [hji, htasks, List.getElem?_set_self (List.getElem?_eq_some_iff.1 hi).1] at hj
      cases hj
      exact .inr fun _ _ _ _ heq => by cases heq
    · exact .inl ((hrest j hji) ▸ hj)
  have hholders : (s'.holders ++ [id]).Perm s.holders := by
    have hcongr : s'.holders =
        (s.setTask i (.admission id peer (.recheck s.clients.length))).holders := by
      simp only [State.holders, htasks, State.setTask_tasks, idOf_setTask]
      refine List.filterMap_congr fun t ht => ?_
      rcases List.mem_or_eq_of_mem_set ht with ht | rfl
      · exact holding_congr fun client hc => hold client (h.refers t ht client hc)
      · rfl
    have hset : ((s.setTask i (.admission id peer (.recheck s.clients.length))).holders ++
        (holding s.idOf (.admission id peer .insert)).toList).Perm
        (s.holders ++ (holding s.idOf (.admission id peer (.recheck s.clients.length))).toList) :=
      holders_setTask hi
    rw [hcongr]
    simpa [holding] using hset
  exact {
    pool := by rw [← hs']; exact h.pool
    capacity := by rw [← hs']; exact h.capacity
    fits := by rw [← hs']; exact h.fits
    ledger := by
      have hperm : (s'.keys ++ s'.holders).Perm (s.keys ++ s.holders) := by
        rw [State.keys, htable, List.map_cons, List.cons_append]
        exact (List.perm_append_singleton _ _).symm.trans
          ((List.append_assoc _ _ _).symm ▸ hholders.append_left s.keys)
      have hids : s'.identities = s.identities := by rw [← hs']; rfl
      rw [hids]
      exact h.ledger.perm hperm
    entries := by
      intro k client hk
      rw [htable] at hk
      rcases List.mem_cons.1 hk with heq | hk
      · cases heq
        exact hnew
      · have hid := h.entries k client hk
        rw [hold client (State.lt_length_of_idOf_eq_some hid)]
        exact hid
    untorn := by
      intro client c hc hfalse
      rw [htable]
      rw [hclients] at hc
      rcases Nat.lt_or_ge client s.clients.length with hlt | hge
      · rw [List.getElem?_append_left hlt] at hc
        exact List.mem_cons_of_mem _ (h.untorn client c hc hfalse)
      · rw [List.getElem?_append_right hge] at hc
        have hclient : client = s.clients.length := by
          have := (List.getElem?_eq_some_iff.1 hc).1
          simp at this
          omega
        subst hclient
        simp only [Nat.sub_self, List.getElem?_cons_zero, Option.some.injEq] at hc
        subst hc
        exact List.mem_cons_self
    refers := by
      intro t ht client hc
      rw [htasks] at ht
      rw [hclients, List.length_append, List.length_singleton]
      rcases List.mem_or_eq_of_mem_set ht with ht | rfl
      · exact Nat.lt_succ_of_lt (h.refers t ht client hc)
      · cases hc
        exact Nat.lt_succ_self _
    inProgress := fun j client protocol notify st hj =>
      h.inProgress j client protocol notify st (teardown_of_tasks hj (hold_task j))
    beforeRemoval := by
      intro j client protocol notify st hj hst
      obtain ⟨k, hk, hmem⟩ :=
        h.beforeRemoval j client protocol notify st (teardown_of_tasks hj (hold_task j)) hst
      refine ⟨k, ?_, htable ▸ List.mem_cons_of_mem _ hmem⟩
      rw [hold client (State.lt_length_of_idOf_eq_some hk)]
      exact hk
    marked := by
      intro client j hj
      obtain ⟨c, hc, hmark⟩ := h.marked client j (hj.of_tasks (hold_task j))
      refine ⟨c, ?_, hmark⟩
      rw [hclients, List.getElem?_append_left (List.getElem?_eq_some_iff.1 hc).1]
      exact hc
    once := fun client j k hj hk =>
      h.once client j k (hj.of_tasks (hold_task j)) (hk.of_tasks (hold_task k))
    calls := by
      intro j client protocol notify st hj
      obtain ⟨info, hid, hcalls⟩ :=
        h.calls j client protocol notify st (teardown_of_tasks hj (hold_task j))
      refine ⟨info, ?_, ?_⟩
      · rw [hold client (State.lt_length_of_idOf_eq_some hid)]
        exact hid
      · rw [← hs', callsOf_setTask]
        exact hcalls
    tags := by
      intro e he j hj
      rw [htasks, List.length_set]
      rw [← hs'] at he
      exact h.tags e he j hj
    releases := by
      intro e he id' freed hrel
      rw [← hs'] at he
      obtain ⟨hfreed, j, hj, hby⟩ := h.releases e he id' freed hrel
      refine ⟨hfreed, j, hj, hby.of_rest (fun hby' => by cases hby'.admission_done hi)
        (fun j hij => hrest j (Ne.symm hij)) fun client k hk => ?_⟩
      rw [hold client (State.lt_length_of_idOf_eq_some hk)]
      exact hk }

theorem refers_moveTeardown (h : Consistent s) {protocol : Protocol} {notify : Bool}
    {stage stage' : TeardownStage} (hi : s.tasks[i]? = some (.teardown client protocol notify stage)) :
    ∀ t ∈ s.tasks.set i (.teardown client protocol notify stage'), ∀ client' ∈ t.client?,
      client' < s.clients.length := by
  intro t ht client' hc
  rcases List.mem_or_eq_of_mem_set ht with ht | rfl
  · exact h.refers t ht client' hc
  · exact h.refers _ (List.mem_of_getElem? hi) client' hc

/-- Moving a teardown on, with the calls `new` and without touching the pool, the table or the
client objects, keeps the invariant when its calls stay those of its stage. -/
theorem moveTeardown (h : Consistent s) {s' : State α} {protocol : Protocol} {notify : Bool}
    {stage stage' : TeardownStage} {new : List (Call α)}
    (hi : s.tasks[i]? = some (.teardown client protocol notify stage))
    (hpool : s'.identities = s.identities) (hoptions : s'.options = s.options)
    (htable : s'.table = s.table) (hclients : s'.clients = s.clients)
    (htasks : s'.tasks = s.tasks.set i (.teardown client protocol notify stage'))
    (htrace : s'.trace = s.trace ++ new.map fun call => (some i, call))
    (hhold : holding s.idOf (.teardown client protocol notify stage') =
      holding s.idOf (.teardown client protocol notify stage))
    (hprogress : stage'.inProgress = true → protocol ≠ .udp)
    (hbefore : stage'.beforeRemoval = true → stage.beforeRemoval = true)
    (hmarked : protocol ≠ .udp → stage'.marked = stage.marked)
    (hcalls : ∀ info : ClientInfo α, s.idOf client = some info.id →
      s.callsOf i = teardownCalls info protocol notify stage →
        ∃ info' : ClientInfo α, s.idOf client = some info'.id ∧
          s.callsOf i ++ new = teardownCalls info' protocol notify stage')
    (hdispatch : ∀ call ∈ new, ∀ id freed, call ≠ .release id freed)
    (hstage : stage ≠ .done true) : Consistent s' := by
  have hlt : i < s.tasks.length := (List.getElem?_eq_some_iff.1 hi).1
  have hidOf : s'.idOf = s.idOf := by
    funext client'
    simp [State.idOf, hclients]
  have hself : s'.tasks[i]? = some (.teardown client protocol notify stage') := by
    rw [htasks, List.getElem?_set_self hlt]
  have hrest : ∀ j, i ≠ j → s'.tasks[j]? = s.tasks[j]? := fun j hij => by
    rw [htasks, List.getElem?_set_ne hij]
  have hTD : ∀ client' j, s'.TearsDown client' j ↔ s.TearsDown client' j := by
    intro client' j
    refine State.tearsDown_iff_of_set hi htasks ?_
    by_cases hudp : protocol = .udp
    · simp [Task.tearsDown, hudp]
    · simp [Task.tearsDown, hmarked hudp]
  have hcallsOf : ∀ j, s'.callsOf j = s.callsOf j ++ if i = j then new else [] :=
    fun j => callsOf_of_trace htrace
  exact {
    pool := hpool ▸ h.pool
    capacity := by rw [hpool, hoptions]; exact h.capacity
    fits := hoptions ▸ h.fits
    ledger := by
      have hholders : s'.holders = (s.setTask i (.teardown client protocol notify stage')).holders := by
        simp only [State.holders, htasks, hidOf, State.setTask_tasks, idOf_setTask]
      have hperm : ((s.setTask i (.teardown client protocol notify stage')).holders ++
          (holding s.idOf (.teardown client protocol notify stage)).toList).Perm
          (s.holders ++ (holding s.idOf (.teardown client protocol notify stage')).toList) :=
        holders_setTask hi
      rw [hhold, List.perm_append_right_iff] at hperm
      have hkeys : s'.keys = s.keys := by rw [State.keys, htable]; rfl
      rw [hkeys, hholders, hpool]
      exact h.ledger.perm (hperm.append_left _)
    entries := by rw [htable, hidOf]; exact h.entries
    untorn := by rw [htable, hclients]; exact h.untorn
    refers := by
      rw [htasks, hclients]
      exact h.refers_moveTeardown hi
    inProgress := by
      intro j client' protocol' notify' st hj hst
      rcases teardown_of_moved hself hrest hj with ⟨rfl, hu⟩ | ⟨-, hj⟩
      · cases hu
        exact hprogress hst
      · exact h.inProgress j client' protocol' notify' st hj hst
    beforeRemoval := by
      intro j client' protocol' notify' st hj hst
      rw [hidOf, htable]
      rcases teardown_of_moved hself hrest hj with ⟨rfl, hu⟩ | ⟨-, hj⟩
      · cases hu
        exact h.beforeRemoval i client protocol notify stage hi (hbefore hst)
      · exact h.beforeRemoval j client' protocol' notify' st hj hst
    marked := fun client' j hj => hclients ▸ h.marked client' j ((hTD client' j).1 hj)
    once := fun client' j k hj hk => h.once client' j k ((hTD client' j).1 hj) ((hTD client' k).1 hk)
    calls := by
      intro j client' protocol' notify' st hj
      rw [hidOf, hcallsOf j]
      rcases teardown_of_moved hself hrest hj with ⟨rfl, hu⟩ | ⟨hij, hj⟩
      · cases hu
        obtain ⟨info, hinfo, hcalls'⟩ := h.calls i client protocol notify stage hi
        rw [if_pos rfl]
        exact hcalls info hinfo hcalls'
      · rw [if_neg hij, List.append_nil]
        exact h.calls j client' protocol' notify' st hj
    tags := by
      intro e he j hj
      rw [htasks, List.length_set]
      rw [htrace] at he
      rcases List.mem_append.1 he with he | he
      · exact h.tags e he j hj
      · obtain ⟨call, -, rfl⟩ := List.mem_map.1 he
        cases hj
        exact hlt
    releases := by
      intro e he id' freed hrel
      rw [htrace] at he
      rcases List.mem_append.1 he with he | he
      · obtain ⟨hfreed, j, hj, hby⟩ := h.releases e he id' freed hrel
        exact ⟨hfreed, j, hj, hby.of_rest (fun hby' => hstage (hby'.teardown_done hi)) hrest
          fun _ _ hk => hidOf ▸ hk⟩
      · obtain ⟨call, hcall, rfl⟩ := List.mem_map.1 he
        exact absurd hrel (hdispatch call hcall id' freed) }

theorem moveTeardownSilently (h : Consistent s) {s' : State α} {protocol : Protocol}
    {notify : Bool} {stage stage' : TeardownStage}
    (hi : s.tasks[i]? = some (.teardown client protocol notify stage))
    (hpool : s'.identities = s.identities) (hoptions : s'.options = s.options)
    (htable : s'.table = s.table) (hclients : s'.clients = s.clients)
    (htasks : s'.tasks = s.tasks.set i (.teardown client protocol notify stage'))
    (htrace : s'.trace = s.trace)
    (hhold : holding s.idOf (.teardown client protocol notify stage') =
      holding s.idOf (.teardown client protocol notify stage))
    (hprogress : stage'.inProgress = true → protocol ≠ .udp)
    (hbefore : stage'.beforeRemoval = true → stage.beforeRemoval = true)
    (hmarked : protocol ≠ .udp → stage'.marked = stage.marked)
    (hsilent : ∀ info : ClientInfo α,
      teardownCalls info protocol notify stage' = teardownCalls info protocol notify stage)
    (hstage : stage ≠ .done true) : Consistent s' := by
  have htrace' : s'.trace = s.trace ++ ([] : List (Call α)).map fun call => (some i, call) := by
    simp [htrace]
  exact h.moveTeardown hi hpool hoptions htable hclients htasks htrace' hhold hprogress hbefore
    hmarked (fun info hinfo hcalls => ⟨info, hinfo, by rw [List.append_nil, hcalls, hsilent]⟩)
    (by simp) hstage

theorem tearsDown_of_inProgress (h : Consistent s) {protocol : Protocol} {notify : Bool}
    {stage : TeardownStage} (hi : s.tasks[i]? = some (.teardown client protocol notify stage))
    (hst : stage.inProgress = true) : s.TearsDown client i :=
  ⟨_, hi, by simp [Task.tearsDown, h.inProgress i client protocol notify stage hi hst,
    TeardownStage.marked_of_inProgress hst]⟩

/-- The first call to mark a client becomes the one teardown that tears the session down. -/
theorem beginFirst (h : Consistent s) {s' : State α} {protocol : Protocol} {notify : Bool}
    {c : ClientSession α} (hi : s.tasks[i]? = some (.teardown client protocol notify .start))
    (hudp : protocol ≠ .udp) (hc : s.clients[client]? = some c) (hfirst : c.tornDown = false)
    (hpool : s'.identities = s.identities) (hoptions : s'.options = s.options)
    (htable : s'.table = s.table) (htrace : s'.trace = s.trace)
    (hclients : s'.clients = s.clients.set client { c with tornDown := true })
    (htasks : s'.tasks = s.tasks.set i (.teardown client protocol notify .close)) :
    Consistent s' := by
  have hlt : i < s.tasks.length := (List.getElem?_eq_some_iff.1 hi).1
  have hidOf : s'.idOf = s.idOf := by
    have hset : (s.setClient client { c with tornDown := true }).idOf = s.idOf :=
      idOf_setClient hc rfl
    rw [← hset]
    funext client'
    simp [State.idOf, hclients]
  have hself : s'.tasks[i]? = some (.teardown client protocol notify .close) := by
    rw [htasks, List.getElem?_set_self hlt]
  have hrest : ∀ j, i ≠ j → s'.tasks[j]? = s.tasks[j]? := fun j hij => by
    rw [htasks, List.getElem?_set_ne hij]
  have hmine : s'.clients[client]? = some { c with tornDown := true } := by
    rw [hclients, List.getElem?_set_self (List.getElem?_eq_some_iff.1 hc).1]
  have hothers : ∀ client', client ≠ client' → s'.clients[client']? = s.clients[client']? :=
    fun client' hne => by rw [hclients, List.getElem?_set_ne hne]
  have hnone : ∀ j, ¬s.TearsDown client j := fun j hj => by
    obtain ⟨c', hc', hmark⟩ := h.marked client j hj
    rw [hc] at hc'
    cases hc'
    simp [hfirst] at hmark
  have hTD : ∀ client' j, s'.TearsDown client' j →
      (j = i ∧ client' = client) ∨ (j ≠ i ∧ s.TearsDown client' j) := by
    rintro client' j ⟨u, hj, hu⟩
    by_cases hij : i = j
    · subst hij
      rw [hself] at hj
      cases hj
      simp only [Task.tearsDown, Bool.and_eq_true, beq_iff_eq] at hu
      exact .inl ⟨rfl, hu.1.1.symm⟩
    · exact .inr ⟨Ne.symm hij, u, (hrest j hij) ▸ hj, hu⟩
  exact {
    pool := hpool ▸ h.pool
    capacity := by rw [hpool, hoptions]; exact h.capacity
    fits := hoptions ▸ h.fits
    ledger := by
      have hholders : s'.holders = (s.setTask i (.teardown client protocol notify .close)).holders := by
        simp only [State.holders, htasks, hidOf, State.setTask_tasks, idOf_setTask]
      have hperm : ((s.setTask i (.teardown client protocol notify .close)).holders ++
          (holding s.idOf (.teardown client protocol notify .start)).toList).Perm
          (s.holders ++ (holding s.idOf (.teardown client protocol notify .close)).toList) :=
        holders_setTask hi
      simp only [holding, Option.toList_none, List.append_nil] at hperm
      have hkeys : s'.keys = s.keys := by rw [State.keys, htable]; rfl
      rw [hkeys, hholders, hpool]
      exact h.ledger.perm (hperm.append_left _)
    entries := by rw [htable, hidOf]; exact h.entries
    untorn := by
      intro client' c' hc' hfalse
      rw [htable]
      by_cases hsame : client = client'
      · subst hsame
        rw [hmine] at hc'
        cases hc'
        cases hfalse
      · rw [hothers client' hsame] at hc'
        exact h.untorn client' c' hc' hfalse
    refers := by
      rw [htasks, hclients, List.length_set]
      exact h.refers_moveTeardown hi
    inProgress := by
      intro j client' protocol' notify' st hj hst
      rcases teardown_of_moved hself hrest hj with ⟨rfl, hu⟩ | ⟨-, hj⟩
      · cases hu
        exact hudp
      · exact h.inProgress j client' protocol' notify' st hj hst
    beforeRemoval := by
      intro j client' protocol' notify' st hj hst
      rw [hidOf, htable]
      rcases teardown_of_moved hself hrest hj with ⟨rfl, hu⟩ | ⟨-, hj⟩
      · cases hu
        exact ⟨c.id, by simp [State.idOf, hc], h.untorn client c hc hfirst⟩
      · exact h.beforeRemoval j client' protocol' notify' st hj hst
    marked := by
      intro client' j hj
      rcases hTD client' j hj with ⟨-, rfl⟩ | ⟨-, hj⟩
      · exact ⟨_, hmine, rfl⟩
      · obtain ⟨c', hc', hmark⟩ := h.marked client' j hj
        have hne : client ≠ client' := by
          rintro rfl
          exact hnone j hj
        exact ⟨c', (hothers client' hne).trans hc', hmark⟩
    once := by
      intro client' j k hj hk
      rcases hTD client' j hj with ⟨rfl, rfl⟩ | ⟨-, hj⟩ <;>
        rcases hTD client' k hk with ⟨rfl, hk'⟩ | ⟨-, hk⟩
      · rfl
      · exact absurd hk (hnone k)
      · subst hk'
        exact absurd hj (hnone j)
      · exact h.once client' j k hj hk
    calls := by
      intro j client' protocol' notify' st hj
      rw [hidOf]
      have hcallsOf : s'.callsOf j = s.callsOf j := by rw [State.callsOf, htrace]; rfl
      rw [hcallsOf]
      rcases teardown_of_moved hself hrest hj with ⟨rfl, hu⟩ | ⟨-, hj⟩
      · cases hu
        obtain ⟨info, hinfo, hcalls⟩ := h.calls i client protocol notify .start hi
        exact ⟨info, hinfo, hcalls⟩
      · exact h.calls j client' protocol' notify' st hj
    tags := by
      rw [htrace, htasks, List.length_set]
      exact h.tags
    releases := by
      intro e he id' freed hrel
      rw [htrace] at he
      obtain ⟨hfreed, j, hj, hby⟩ := h.releases e he id' freed hrel
      exact ⟨hfreed, j, hj, hby.of_rest (fun hby' => by cases hby'.teardown_done hi) hrest
        fun _ _ hk => hidOf ▸ hk⟩ }

/-- The teardown takes its session out of the table: the identity moves from the table to it. -/
theorem removeEntry (h : Consistent s) {s' : State α} {protocol : Protocol} {notify : Bool}
    {k : ClientId} (hi : s.tasks[i]? = some (.teardown client protocol notify .remove))
    (hk : s.idOf client = some k)
    (hpool : s'.identities = s.identities) (hoptions : s'.options = s.options)
    (hclients : s'.clients = s.clients) (htrace : s'.trace = s.trace)
    (htable : s'.table = s.table.filter (·.1 != k))
    (htasks : s'.tasks = s.tasks.set i (.teardown client protocol notify .notify)) :
    Consistent s' := by
  have hlt : i < s.tasks.length := (List.getElem?_eq_some_iff.1 hi).1
  have hnodup : s.keys.Nodup := (List.nodup_append.1 h.ledger.1).1
  have hentry : (k, client) ∈ s.table := by
    obtain ⟨k', hk', hmem⟩ := h.beforeRemoval i client protocol notify .remove hi rfl
    rw [hk] at hk'
    cases hk'
    exact hmem
  have hmine : s.TearsDown client i := h.tearsDown_of_inProgress hi rfl
  have hkeep : ∀ k' client', (k', client') ∈ s.table → client' ≠ client →
      (k', client') ∈ s'.table := fun k' client' hmem hne => by
    rw [htable, List.mem_filter]
    refine ⟨hmem, ?_⟩
    have hk' : k' ≠ k := by
      rintro rfl
      exact hne (eq_of_mem_of_mem hnodup hmem hentry)
    simpa using hk'
  have hidOf : s'.idOf = s.idOf := by
    funext client'
    simp [State.idOf, hclients]
  have hself : s'.tasks[i]? = some (.teardown client protocol notify .notify) := by
    rw [htasks, List.getElem?_set_self hlt]
  have hrest : ∀ j, i ≠ j → s'.tasks[j]? = s.tasks[j]? := fun j hij => by
    rw [htasks, List.getElem?_set_ne hij]
  have hTD : ∀ client' j, s'.TearsDown client' j ↔ s.TearsDown client' j := fun _ _ =>
    State.tearsDown_iff_of_set hi htasks (by simp [Task.tearsDown, TeardownStage.marked])
  exact {
    pool := hpool ▸ h.pool
    capacity := by rw [hpool, hoptions]; exact h.capacity
    fits := hoptions ▸ h.fits
    ledger := by
      have hholders : s'.holders = (s.setTask i (.teardown client protocol notify .notify)).holders := by
        simp only [State.holders, htasks, hidOf, State.setTask_tasks, idOf_setTask]
      have hperm : ((s.setTask i (.teardown client protocol notify .notify)).holders ++
          (holding s.idOf (.teardown client protocol notify .remove)).toList).Perm
          (s.holders ++ (holding s.idOf (.teardown client protocol notify .notify)).toList) :=
        holders_setTask hi
      simp only [holding, hk, Option.toList_none, Option.toList_some, List.append_nil] at hperm
      have hkeys : (s'.keys ++ [k]).Perm s.keys := by
        rw [State.keys, htable]
        exact keys_filter_perm hnodup (List.mem_map.2 ⟨_, hentry, rfl⟩)
      have hmove : (s'.keys ++ s'.holders).Perm (s.keys ++ s.holders) := by
        have hH : s'.holders.Perm (s.holders ++ [k]) := hholders ▸ hperm
        refine ((hH.trans List.perm_append_comm).append_left s'.keys).trans ?_
        rw [← List.append_assoc]
        exact hkeys.append_right s.holders
      rw [hpool]
      exact h.ledger.perm hmove
    entries := fun k' client' hmem => hidOf ▸ h.entries k' client' (by
      rw [htable] at hmem
      exact (List.mem_filter.1 hmem).1)
    untorn := by
      intro client' c' hc' hfalse
      rw [hclients] at hc'
      refine hkeep _ _ (h.untorn client' c' hc' hfalse) fun hsame => ?_
      subst hsame
      obtain ⟨c'', hc'', hmark⟩ := h.marked client' i hmine
      rw [hc'] at hc''
      cases hc''
      simp [hfalse] at hmark
    refers := by
      rw [htasks, hclients]
      exact h.refers_moveTeardown hi
    inProgress := by
      intro j client' protocol' notify' st hj hst
      rcases teardown_of_moved hself hrest hj with ⟨rfl, hu⟩ | ⟨-, hj⟩
      · cases hu
        exact h.inProgress i client protocol notify .remove hi rfl
      · exact h.inProgress j client' protocol' notify' st hj hst
    beforeRemoval := by
      intro j client' protocol' notify' st hj hst
      rw [hidOf]
      rcases teardown_of_moved hself hrest hj with ⟨rfl, hu⟩ | ⟨hij, hj⟩
      · cases hu
        cases hst
      · obtain ⟨k', hk', hmem⟩ := h.beforeRemoval j client' protocol' notify' st hj hst
        refine ⟨k', hk', hkeep k' client' hmem fun hsame => hij ?_⟩
        subst hsame
        exact h.once client' i j hmine
          (h.tearsDown_of_inProgress hj (TeardownStage.inProgress_of_beforeRemoval hst))
    marked := fun client' j hj => hclients ▸ h.marked client' j ((hTD client' j).1 hj)
    once := fun client' j k hj hk => h.once client' j k ((hTD client' j).1 hj) ((hTD client' k).1 hk)
    calls := by
      intro j client' protocol' notify' st hj
      rw [hidOf]
      have hcallsOf : s'.callsOf j = s.callsOf j := by rw [State.callsOf, htrace]; rfl
      rw [hcallsOf]
      rcases teardown_of_moved hself hrest hj with ⟨rfl, hu⟩ | ⟨-, hj⟩
      · cases hu
        exact h.calls i client protocol notify .remove hi
      · exact h.calls j client' protocol' notify' st hj
    tags := by
      rw [htrace, htasks, List.length_set]
      exact h.tags
    releases := by
      intro e he id' freed hrel
      rw [htrace] at he
      obtain ⟨hfreed, j, hj, hby⟩ := h.releases e he id' freed hrel
      exact ⟨hfreed, j, hj, hby.of_rest (fun hby' => by cases hby'.teardown_done hi) hrest
        fun _ _ hk => hidOf ▸ hk⟩ }

/-- The teardown frees its client's identity, last, and returns `true`. -/
theorem releaseIdentity (h : Consistent s) {protocol : Protocol} {notify : Bool} {k : ClientId}
    (hi : s.tasks[i]? = some (.teardown client protocol notify .release))
    (hk : s.idOf client = some k) :
    Consistent ((s.releaseBy i k).setTask i (.teardown client protocol notify (.done true))) := by
  have hlt : i < s.tasks.length := (List.getElem?_eq_some_iff.1 hi).1
  have hudp : protocol ≠ .udp := h.inProgress i client protocol notify .release hi rfl
  obtain ⟨hanswer, hids, hwf, hcap⟩ := IdentityPool.release_refines h.pool k
  have hperm : ((s.keys ++ ((s.releaseBy i k).setTask i
      (.teardown client protocol notify (.done true))).holders) ++ [k]).Perm
      (s.keys ++ s.holders) := by
    have hset : (((s.releaseBy i k).setTask i (.teardown client protocol notify (.done true))).holders ++
        (holding (s.releaseBy i k).idOf (.teardown client protocol notify .release)).toList).Perm
        ((s.releaseBy i k).holders ++
          (holding (s.releaseBy i k).idOf (.teardown client protocol notify (.done true))).toList) :=
      holders_setTask hi
    rw [idOf_releaseBy, holders_releaseBy] at hset
    simpa [holding, hk] using hset.append_left s.keys
  obtain ⟨hledger, hheld⟩ := h.ledger.release hperm
  generalize hs' : (s.releaseBy i k).setTask i (.teardown client protocol notify (.done true)) = s'
  have hidOf : s'.idOf = s.idOf := by rw [← hs']; rfl
  have hself : s'.tasks[i]? = some (.teardown client protocol notify (.done true)) := by
    rw [← hs']
    exact setTask_tasks_getElem?_self hi
  have hrest : ∀ j, i ≠ j → s'.tasks[j]? = s.tasks[j]? := fun j hij => by
    rw [← hs']
    exact setTask_tasks_getElem?_of_ne hij
  have hTD : ∀ client' j, s'.TearsDown client' j ↔ s.TearsDown client' j := fun _ _ =>
    State.tearsDown_iff_of_set hi (by rw [← hs']; rfl) (by simp [Task.tearsDown, TeardownStage.marked])
  have htrace : s'.trace = s.trace ++ [(some i, .release k true)] := by
    rw [← hs', State.setTask_trace, State.releaseBy_trace, hanswer, decide_eq_true hheld]
  exact {
    pool := by rw [← hs']; exact hwf
    capacity := by rw [← hs']; exact hcap.trans h.capacity
    fits := by rw [← hs']; exact h.fits
    ledger := by
      have hpool : s'.identities.ids = s.identities.ids.erase k.toNat := by rw [← hs']; exact hids
      rw [hpool, ← hs']
      exact hledger
    entries := by rw [← hs']; exact h.entries
    untorn := by rw [← hs']; exact h.untorn
    refers := by
      rw [← hs']
      exact h.refers_moveTeardown hi
    inProgress := by
      intro j client' protocol' notify' st hj hst
      rcases teardown_of_moved hself hrest hj with ⟨rfl, hu⟩ | ⟨-, hj⟩
      · cases hu
        cases hst
      · exact h.inProgress j client' protocol' notify' st hj hst
    beforeRemoval := by
      intro j client' protocol' notify' st hj hst
      rcases teardown_of_moved hself hrest hj with ⟨rfl, hu⟩ | ⟨-, hj⟩
      · cases hu
        cases hst
      · rw [← hs']
        exact h.beforeRemoval j client' protocol' notify' st hj hst
    marked := fun client' j hj => by
      rw [← hs']
      exact h.marked client' j ((hTD client' j).1 hj)
    once := fun client' j k hj hk => h.once client' j k ((hTD client' j).1 hj) ((hTD client' k).1 hk)
    calls := by
      intro j client' protocol' notify' st hj
      have htrace' : s'.trace = s.trace ++ [Call.release k true].map fun call => (some i, call) :=
        htrace
      rw [hidOf, callsOf_of_trace htrace']
      rcases teardown_of_moved hself hrest hj with ⟨rfl, hu⟩ | ⟨hij, hj⟩
      · cases hu
        obtain ⟨info, hinfo, hcalls⟩ := h.calls i client protocol notify .release hi
        have hid : info.id = k := by
          rw [hk] at hinfo
          exact (Option.some.inj hinfo).symm
        refine ⟨info, hinfo, ?_⟩
        rw [hcalls, if_pos rfl, ← hid]
        cases notify <;> simp [teardownCalls, hudp]
      · rw [if_neg hij, List.append_nil]
        exact h.calls j client' protocol' notify' st hj
    tags := by
      intro e he j hj
      have hlen : s'.tasks.length = s.tasks.length := by rw [← hs']; simp
      rw [hlen]
      rw [htrace] at he
      rcases List.mem_append.1 he with he | he
      · exact h.tags e he j hj
      · obtain rfl := List.mem_singleton.1 he
        cases hj
        exact hlt
    releases := by
      intro e he id' freed hrel
      rw [htrace] at he
      rcases List.mem_append.1 he with he | he
      · obtain ⟨hfreed, j, hj, hby⟩ := h.releases e he id' freed hrel
        exact ⟨hfreed, j, hj, hby.of_rest (fun hby' => by cases hby'.teardown_done hi) hrest
          fun _ _ hk => hidOf ▸ hk⟩
      · obtain rfl := List.mem_singleton.1 he
        cases hrel
        exact ⟨rfl, i, rfl, .inr ⟨client, protocol, notify, hself, hudp, hidOf ▸ hk⟩⟩ }

theorem advance (h : Consistent s) {protocol : Protocol} {notify : Bool} {stage : TeardownStage}
    (hi : s.tasks[i]? = some (.teardown client protocol notify stage)) :
    Consistent (s.advanceTeardown i client protocol notify stage) := by
  cases stage with
  | start =>
    simp only [State.advanceTeardown]
    split
    · exact h
    · next c hc =>
      split
      · next hudp =>
        subst hudp
        have h1 : Consistent (s.setClient client c.clearBinding.2) := h.setClient hc rfl rfl
        have hid1 : (s.setClient client c.clearBinding.2).idOf client =
            some c.clearBinding.2.info.id := by
          have hsame : (s.setClient client c.clearBinding.2).idOf = s.idOf := idOf_setClient hc rfl
          rw [hsame]
          simp [State.idOf, hc, ClientSession.info]
        split
        · next hann =>
          obtain ⟨hwas, rfl⟩ := Bool.and_eq_true_iff.1 hann
          have htrace : (((s.setClient client c.clearBinding.2).setTask i
              (.teardown client .udp true (.done c.clearBinding.1))).record (some i)
              (.dispatch (.disconnected c.clearBinding.2.info .udp))).trace =
              (s.setClient client c.clearBinding.2).trace ++
                [Call.dispatch (.disconnected c.clearBinding.2.info .udp)].map
                  fun call => (some i, call) := rfl
          refine h1.moveTeardown hi rfl rfl rfl rfl rfl htrace rfl (by simp [TeardownStage.inProgress])
            (by simp [TeardownStage.beforeRemoval]) (fun hudp => absurd rfl hudp)
            (fun info _ hcalls => ⟨_, hid1, ?_⟩) (by simp) (by simp)
          rw [hcalls, hwas]
          simp [teardownCalls]
        · next hann =>
          refine h1.moveTeardownSilently hi rfl rfl rfl rfl rfl rfl rfl
            (by simp [TeardownStage.inProgress]) (by simp [TeardownStage.beforeRemoval])
            (fun hudp => absurd rfl hudp) (fun info => ?_) (by simp)
          cases hwas : c.clearBinding.1 <;> cases notify <;> simp_all [teardownCalls]
      · next hudp =>
        cases hfirst : c.tornDown
        · have hbegin : c.beginTeardown = (true, { c with tornDown := true }) := by
            simp [ClientSession.beginTeardown, hfirst]
          rw [hbegin]
          exact h.beginFirst hi hudp hc hfirst rfl rfl rfl rfl rfl rfl
        · have hbegin : c.beginTeardown = (false, c) := by
            simp [ClientSession.beginTeardown, hfirst]
          rw [hbegin]
          exact (h.setClient hc rfl rfl).moveTeardownSilently hi rfl rfl rfl rfl rfl rfl rfl
            (by simp [TeardownStage.inProgress]) (by simp [TeardownStage.beforeRemoval])
            (fun _ => rfl) (fun _ => rfl) (by simp)
  | close =>
    simp only [State.advanceTeardown]
    split
    · exact h
    · next c hc =>
      have h1 : Consistent (s.setClient client c.closeStream.2) := h.setClient hc rfl rfl
      exact h1.moveTeardownSilently hi rfl rfl rfl rfl rfl rfl rfl
        (fun _ => h.inProgress i client protocol notify .close hi rfl) (fun _ => rfl) (fun _ => rfl)
        (fun _ => rfl) (by simp)
  | clear =>
    simp only [State.advanceTeardown]
    split
    · exact h
    · next c hc =>
      have h1 : Consistent (s.setClient client c.clearBinding.2) := h.setClient hc rfl rfl
      exact h1.moveTeardownSilently hi rfl rfl rfl rfl rfl rfl rfl
        (fun _ => h.inProgress i client protocol notify .clear hi rfl) (fun _ => rfl) (fun _ => rfl)
        (fun _ => rfl) (by simp)
  | remove =>
    simp only [State.advanceTeardown]
    split
    · exact h
    · next k hk =>
      obtain ⟨k', hk', hmem⟩ := h.beforeRemoval i client protocol notify .remove hi rfl
      rw [hk] at hk'
      cases hk'
      have hlookup : s.table.lookup k = some client :=
        lookup_eq_some_of_mem (List.nodup_append.1 h.ledger.1).1 hmem
      rw [if_pos hlookup]
      exact h.removeEntry hi hk rfl rfl rfl rfl rfl rfl
  | notify =>
    simp only [State.advanceTeardown]
    split
    · exact h
    · next c hc =>
      have hid : s.idOf client = some c.info.id := by simp [State.idOf, hc, ClientSession.info]
      cases notify
      · exact h.moveTeardownSilently hi rfl rfl rfl rfl rfl rfl rfl
          (fun _ => h.inProgress i client protocol false .notify hi rfl) (fun h => by cases h)
          (fun _ => rfl) (fun _ => rfl) (by simp)
      · have htrace : ((s.record (some i) (.dispatch (.disconnected c.info protocol))).setTask i
            (.teardown client protocol true .release)).trace =
            s.trace ++ [Call.dispatch (.disconnected c.info protocol)].map
              fun call => (some i, call) := rfl
        refine h.moveTeardown hi rfl rfl rfl rfl rfl htrace rfl
          (fun _ => h.inProgress i client protocol true .notify hi rfl) (fun h => by cases h)
          (fun _ => rfl) (fun info _ hcalls => ⟨c.info, hid, ?_⟩) (by simp) (by simp)
        rw [hcalls]
        rfl
  | release =>
    simp only [State.advanceTeardown]
    split
    · exact h
    · next k hk => exact h.releaseIdentity hi hk
  | done result => exact h

theorem spawnTeardowns (h : Consistent s) (l : List Task)
    (hl : ∀ t ∈ l, ∃ client protocol notify, t = .teardown client protocol notify .start ∧
      client < s.clients.length) :
    Consistent (l.foldl (fun s t => s.spawn t) s) := by
  induction l generalizing s with
  | nil => exact h
  | cons t l ih =>
    obtain ⟨client, protocol, notify, rfl, hlt⟩ := hl t List.mem_cons_self
    refine ih (h.spawn rfl (fun client' hc => by cases hc; exact hlt) ?_) fun t ht => ?_
    · intro client' protocol' notify' stage heq
      cases heq
      rfl
    · exact hl t (List.mem_cons_of_mem _ ht)

/-- Stopping's shutdown collects the sessions of the table and starts a teardown of each. -/
theorem collect (h : Consistent s) (hi : s.tasks[i]? = some (.shutdown false)) :
    Consistent ({ s with
      tasks := (s.tasks.set i (.shutdown true) ++
        s.table.map fun entry => .teardown entry.2 .both false .start) } : State α) := by
  have h1 : Consistent (s.setTask i (.shutdown true)) :=
    h.setTask_plain hi (fun _ _ _ _ heq => by cases heq) rfl (fun _ hc => by cases hc)
      fun id hby => by
        rcases hby with ⟨peer, hi'⟩ | ⟨client, protocol, notify, hi', -⟩ <;> rw [hi] at hi' <;>
          cases hi'
  have h2 := h1.spawnTeardowns (s.table.map fun entry => .teardown entry.2 .both false .start)
    fun t ht => by
      obtain ⟨⟨k, client⟩, hmem, rfl⟩ := List.mem_map.1 ht
      exact ⟨client, .both, false, rfl,
        State.lt_length_of_idOf_eq_some (h.entries k client hmem)⟩
  rwa [foldl_spawn] at h2

/-- Step lemma: every step keeps the invariant. -/
theorem step (h : Consistent s) (a : Action) : Consistent (s.step a) := by
  cases a with
  | accept peer slot =>
    simp only [State.step]
    split
    · next hfree => exact h.accept hfree.1 hfree.2 _
    · exact h
  | refuse => exact h.record_dispatch (fun _ hi => by cases hi) _
  | verdict i accepted =>
    simp only [State.step]
    split
    · next id peer hi =>
      split
      · exact h.giveUp hi rfl
      · exact h.setTask_admission hi (by simp) rfl (fun _ hc => by cases hc)
    · exact h
  | configure i result =>
    simp only [State.step]
    split
    · next id peer e hi =>
      have h1 := h.giveUp hi rfl
      have hlt : i < s.tasks.length := (List.getElem?_eq_some_iff.1 hi).1
      exact h1.record_dispatch (fun j hj => by
        cases hj
        refine ⟨by simpa using hlt, fun client protocol notify stage hj => ?_⟩
        rw [setTask_tasks_getElem?_self (s := s.releaseBy i id) hi] at hj
        cases hj) _
    · next id peer hi => exact h.setTask_admission hi (by simp) rfl (fun _ hc => by cases hc)
    · exact h
  | insert i =>
    simp only [State.step]
    split
    · next id peer hi => exact h.insert hi
    · exact h
  | recheck i =>
    simp only [State.step]
    split
    · next id peer client hi =>
      have hclient : client < s.clients.length :=
        h.refers _ (List.mem_of_getElem? hi) client rfl
      split
      · have h1 : Consistent (s.setTask i (.admission id peer .done)) :=
          h.setTask_admission hi (by simp) rfl (fun _ hc => by cases hc)
        exact h1.spawn rfl (fun client' hc => by cases hc; simpa using hclient)
          fun _ _ _ _ heq => by cases heq; rfl
      · split
        · next c hc =>
          have hlt : i < s.tasks.length := (List.getElem?_eq_some_iff.1 hi).1
          have h1 := h.record_dispatch (o := some i) (fun j hj => by
            cases hj
            exact ⟨hlt, fun client protocol notify stage hj => by rw [hi] at hj; cases hj⟩)
            (.connected c.info)
          exact h1.setTask_admission hi (by simp) rfl fun client' hc' => by
            cases hc'
            simpa using hclient
        · exact h
    · exact h
  | attach i =>
    simp only [State.step]
    split
    · next id peer client hi =>
      split
      · next c hc =>
        have h1 : Consistent (s.setClient client { c with stream := c.stream.attach.2 }) :=
          h.setClient hc rfl rfl
        exact h1.setTask_admission hi (by simp) rfl (fun _ hc => by cases hc)
      · exact h
    · exact h
  | disconnect id protocol =>
    simp only [State.step]
    split
    · next client hlookup =>
      exact h.spawn rfl (fun client' hc => by
          cases hc
          exact State.lt_length_of_idOf_eq_some (h.entries id client (mem_of_lookup_eq_some hlookup)))
        fun _ _ _ _ heq => by cases heq; rfl
    · exact h
  | streamClosed client =>
    simp only [State.step]
    split
    · next hlt =>
      exact h.spawn rfl (fun client' hc => by cases hc; exact hlt)
        fun _ _ _ _ heq => by cases heq; rfl
    · exact h
  | sendFailed id error =>
    simp only [State.step]
    have h1 := h.record_dispatch (o := none) (fun _ hi => by cases hi)
      (.failed (((s.table.lookup id).bind fun client => s.clients[client]?).map ClientSession.info)
        .sendUdp (.io error))
    split
    · next client hlookup =>
      split
      · exact h1.spawn rfl (fun client' hc => by
            cases hc
            exact State.lt_length_of_idOf_eq_some
              (h.entries id client (mem_of_lookup_eq_some hlookup)))
          fun _ _ _ _ heq => by cases heq; rfl
      · exact h1
    · exact h1
  | datagram id source =>
    simp only [State.step]
    split
    · next client hlookup =>
      split
      · next c hc => exact h.setClient hc rfl rfl
      · exact h
    · exact h
  | stop =>
    simp only [State.step]
    split
    · exact h
    · exact h.stop.spawn rfl (fun _ hc => by cases hc) fun _ _ _ _ heq => by cases heq
  | collect i =>
    simp only [State.step]
    split
    · next hi => exact h.collect hi
    · exact h
  | advance i =>
    simp only [State.step]
    split
    · next client protocol notify stage hi => exact h.advance hi
    · exact h

/-- Run lemma: the invariant holds after any sequence of steps. -/
theorem run (h : Consistent s) (actions : List Action) : Consistent (s.run actions) := by
  induction actions generalizing s with
  | nil => exact h
  | cons a actions ih => exact ih (h.step a)

end Consistent

end Concurrent

end FrameLink
