import FrameLink.Server.Concurrent
import FrameLink.Proofs.Identities
import FrameLink.Proofs.Admission

/-!
The bookkeeping of the server's tasks. Apart from the table, the identities the pool holds are
held by tasks: an admission holds its identity until its session enters the table or it gives
up, and the teardown that tears a session down holds the session's identity from taking it out of
the table until it frees it (`holding`). The table's keys and the identities the tasks hold
(`State.keys`, `State.holders`) form the ledger that the pool has to match.

A step changes the ledger in few ways: a claimed slot adds an identity, a release takes one out,
and moving an identity between the table and a task only reorders the ledger. The lemmas here say
how the state updates `spawn`, `setTask`, `setClient`, `record` and `releaseBy` act on the
ledger, on the identities of the client objects and on the calls each task has made
(`State.callsOf`).
-/

namespace FrameLink

namespace ClientSession

variable {α : Type} {c : ClientSession α}

@[simp] theorem checkSource_tornDown (source : SocketAddr) :
    (c.checkSource source).2.tornDown = c.tornDown := rfl

@[simp] theorem clearBinding_tornDown : c.clearBinding.2.tornDown = c.tornDown := rfl

@[simp] theorem closeStream_id : c.closeStream.2.id = c.id := rfl

@[simp] theorem closeStream_tornDown : c.closeStream.2.tornDown = c.tornDown := rfl

end ClientSession

namespace Concurrent

/-! ### Lists and the session table -/

theorem filterMap_set_perm {β γ : Type} [DecidableEq γ] {f : β → Option γ} {l : List β}
    {i : Nat} (hi : i < l.length) (x : β) :
    ((l.set i x).filterMap f ++ (f l[i]).toList).Perm (l.filterMap f ++ (f x).toList) := by
  induction l generalizing i with
  | nil => simp at hi
  | cons a l ih =>
    cases i with
    | zero =>
      simp only [List.set_cons_zero, List.getElem_cons_zero]
      rw [List.perm_iff_count]
      intro b
      rcases hx : f x with _ | bx <;> rcases ha : f a with _ | ba <;>
        simp [hx, ha, List.count_cons]
      omega
    | succ i =>
      simp only [List.set_cons_succ, List.getElem_cons_succ, List.filterMap_cons]
      rcases f a with _ | b
      · exact ih (by simpa using hi)
      · exact (ih (by simpa using hi)).cons b

section Table

variable {table : List (ClientId × Nat)} {k : ClientId} {client : Nat}

theorem mem_of_lookup_eq_some (h : table.lookup k = some client) : (k, client) ∈ table := by
  induction table with
  | nil => cases h
  | cons e table ih =>
    obtain ⟨k', client'⟩ := e
    by_cases hk : k = k'
    · subst hk
      simp only [List.lookup_cons, BEq.rfl, Option.some.injEq] at h
      exact h ▸ List.mem_cons_self
    · have hbeq : (k == k') = false := by simpa using hk
      simp only [List.lookup_cons, hbeq] at h
      exact List.mem_cons_of_mem _ (ih h)

/-- With distinct keys, the table maps a key to the one client object it is paired with. -/
theorem lookup_eq_some_of_mem (hnodup : (table.map Prod.fst).Nodup) (h : (k, client) ∈ table) :
    table.lookup k = some client := by
  induction table with
  | nil => cases h
  | cons e table ih =>
    obtain ⟨k', client'⟩ := e
    simp only [List.map_cons, List.nodup_cons, List.mem_map] at hnodup
    rcases List.mem_cons.1 h with heq | hmem
    · cases heq
      simp
    · have hne : k ≠ k' := fun hk => hnodup.1 ⟨(k, client), hmem, hk⟩
      have hbeq : (k == k') = false := by simpa using hne
      simp only [List.lookup_cons, hbeq]
      exact ih hnodup.2 hmem

theorem eq_of_mem_of_mem (hnodup : (table.map Prod.fst).Nodup) {client' : Nat}
    (h : (k, client) ∈ table) (h' : (k, client') ∈ table) : client = client' :=
  Option.some.inj ((lookup_eq_some_of_mem hnodup h).symm.trans (lookup_eq_some_of_mem hnodup h'))

theorem keys_filter_perm (hnodup : (table.map Prod.fst).Nodup) (hk : k ∈ table.map Prod.fst) :
    ((table.filter (·.1 != k)).map Prod.fst ++ [k]).Perm (table.map Prod.fst) := by
  have hfilter : (table.filter (·.1 != k)).map Prod.fst = (table.map Prod.fst).erase k := by
    rw [hnodup.erase_eq_filter, List.filter_map]
    rfl
  rw [hfilter]
  exact (List.perm_append_singleton _ _).trans (List.perm_cons_erase hk).symm

theorem filter_ne_eq_self (hk : k ∉ table.map Prod.fst) : table.filter (·.1 != k) = table := by
  refine List.filter_eq_self.2 fun e he => ?_
  have hne : e.1 ≠ k := fun h => hk (List.mem_map.2 ⟨e, he, h⟩)
  simpa using hne

end Table

/-! ### The ledger -/

/-- The identity a task holds in the pool apart from the table: an admission its own until its
session enters the table, a teardown its client's until it frees it. -/
def holding (idOf : Nat → Option ClientId) : Task → Option ClientId
  | .admission id _ .verdict => some id
  | .admission id _ .configure => some id
  | .admission id _ .insert => some id
  | .teardown client _ _ .notify => idOf client
  | .teardown client _ _ .release => idOf client
  | _ => none

def Task.client? : Task → Option Nat
  | .admission _ _ (.recheck client) => some client
  | .admission _ _ (.attach client) => some client
  | .teardown client _ _ _ => some client
  | _ => none

theorem holding_congr {f g : Nat → Option ClientId} {t : Task}
    (h : ∀ client ∈ t.client?, f client = g client) : holding f t = holding g t := by
  rcases t with ⟨id, peer, stage⟩ | ⟨client, protocol, notify, stage⟩ | collected
  · cases stage <;> rfl
  · have hclient := h client rfl
    cases stage <;> simp [holding, hclient]
  · rfl

namespace State

variable {α : Type}

def keys (s : State α) : List ClientId := s.table.map Prod.fst

/-- The identities the tasks hold apart from the table. -/
def holders (s : State α) : List ClientId := s.tasks.filterMap (holding s.idOf)

def callsOf (s : State α) (i : Nat) : List (Call α) :=
  s.trace.filterMap fun e => if e.1 = some i then some e.2 else none

end State

/-! ### How the state updates act on the ledger and the calls -/

section Updates

variable {α : Type} {s : State α} {i j client : Nat} {t t' : Task} {c c' : ClientSession α}
  {o : Option Nat} {call : Call α} {k : ClientId}

@[simp] theorem idOf_spawn : (s.spawn t).idOf = s.idOf := rfl
@[simp] theorem idOf_setTask : (s.setTask i t).idOf = s.idOf := rfl
@[simp] theorem idOf_record : (s.record o call).idOf = s.idOf := rfl
@[simp] theorem idOf_releaseBy : (s.releaseBy i k).idOf = s.idOf := rfl

theorem idOf_setClient (h : s.clients[client]? = some c) (hid : c'.id = c.id) :
    (s.setClient client c').idOf = s.idOf := by
  funext client'
  obtain ⟨hlt, hget⟩ := List.getElem?_eq_some_iff.1 h
  simp only [State.idOf, State.setClient_clients, List.getElem?_set]
  split
  · next heq =>
    subst heq
    simp [hlt, hget, hid]
  · rfl

theorem State.lt_length_of_idOf_eq_some (h : s.idOf client = some k) :
    client < s.clients.length := by
  obtain ⟨c, hc, -⟩ := Option.map_eq_some_iff.1 h
  exact (List.getElem?_eq_some_iff.1 hc).1

theorem idOf_of_clients_append {s' : State α} {l : List (ClientSession α)}
    (hclients : s'.clients = s.clients ++ l) (hlt : client < s.clients.length) :
    s'.idOf client = s.idOf client := by
  simp only [State.idOf, hclients, List.getElem?_append_left hlt]

@[simp] theorem keys_spawn : (s.spawn t).keys = s.keys := rfl
@[simp] theorem keys_setTask : (s.setTask i t).keys = s.keys := rfl
@[simp] theorem keys_setClient : (s.setClient client c).keys = s.keys := rfl
@[simp] theorem keys_record : (s.record o call).keys = s.keys := rfl
@[simp] theorem keys_releaseBy : (s.releaseBy i k).keys = s.keys := rfl

theorem holders_spawn : (s.spawn t).holders = s.holders ++ (holding s.idOf t).toList := by
  simp only [State.holders, State.spawn_tasks, List.filterMap_append, idOf_spawn]
  rcases h : holding s.idOf t with _ | k <;> simp [h]

@[simp] theorem holders_record : (s.record o call).holders = s.holders := rfl
@[simp] theorem holders_releaseBy : (s.releaseBy i k).holders = s.holders := rfl

/-- Moving task `i` on from `t` to `t'` trades what `t` held for what `t'` holds. -/
theorem holders_setTask (h : s.tasks[i]? = some t) :
    ((s.setTask i t').holders ++ (holding s.idOf t).toList).Perm
      (s.holders ++ (holding s.idOf t').toList) := by
  obtain ⟨hi, rfl⟩ := List.getElem?_eq_some_iff.1 h
  exact filterMap_set_perm hi t'

theorem holders_setClient (h : s.clients[client]? = some c) (hid : c'.id = c.id) :
    (s.setClient client c').holders = s.holders := by
  simp only [State.holders, State.setClient_tasks, idOf_setClient h hid]

@[simp] theorem callsOf_spawn : (s.spawn t).callsOf j = s.callsOf j := rfl
@[simp] theorem callsOf_setTask : (s.setTask i t).callsOf j = s.callsOf j := rfl
@[simp] theorem callsOf_setClient : (s.setClient client c).callsOf j = s.callsOf j := rfl

theorem callsOf_record : (s.record o call).callsOf j = s.callsOf j ++ if o = some j then [call] else [] := by
  by_cases ho : o = some j <;> simp [State.callsOf, List.filterMap_append, ho]

theorem callsOf_releaseBy :
    (s.releaseBy i k).callsOf j =
      s.callsOf j ++ if i = j then [.release k (s.identities.release k).1] else [] := by
  by_cases hi : i = j <;> simp [State.callsOf, List.filterMap_append, hi]

theorem spawn_tasks_getElem?_of_lt (hj : j < s.tasks.length) :
    (s.spawn t).tasks[j]? = s.tasks[j]? := by
  simp [List.getElem?_append_left hj]

theorem spawn_tasks_getElem?_eq_some (h : (s.spawn t).tasks[j]? = some t') :
    s.tasks[j]? = some t' ∨ (j = s.tasks.length ∧ t' = t) := by
  rcases Nat.lt_or_ge j s.tasks.length with hj | hj
  · exact .inl (spawn_tasks_getElem?_of_lt hj ▸ h)
  · right
    rw [State.spawn_tasks, List.getElem?_append_right hj] at h
    have hlt : j - s.tasks.length < 1 := (List.getElem?_eq_some_iff.1 h).1
    have hj' : j = s.tasks.length := by omega
    subst hj'
    simpa using h.symm

theorem setTask_tasks_getElem?_self (h : s.tasks[i]? = some t) :
    (s.setTask i t').tasks[i]? = some t' := by
  simp [(List.getElem?_eq_some_iff.1 h).1]

theorem setTask_tasks_getElem?_of_ne (hne : i ≠ j) : (s.setTask i t').tasks[j]? = s.tasks[j]? := by
  simp [hne]

theorem setTask_tasks_getElem?_eq_some {u : Task} (h : (s.setTask i t').tasks[j]? = some u) :
    (j = i ∧ u = t') ∨ (j ≠ i ∧ s.tasks[j]? = some u) := by
  by_cases hij : i = j
  · subst hij
    have hi : i < s.tasks.length := by simpa using (List.getElem?_eq_some_iff.1 h).1
    simp only [State.setTask_tasks, List.getElem?_set_self hi, Option.some.injEq] at h
    exact .inl ⟨rfl, h.symm⟩
  · exact .inr ⟨Ne.symm hij, (setTask_tasks_getElem?_of_ne hij) ▸ h⟩

theorem setClient_clients_getElem?_self (h : s.clients[client]? = some c) :
    (s.setClient client c').clients[client]? = some c' := by
  simp [(List.getElem?_eq_some_iff.1 h).1]

theorem setClient_clients_getElem?_of_ne {client' : Nat} (hne : client ≠ client') :
    (s.setClient client c').clients[client']? = s.clients[client']? := by
  simp [hne]

theorem callsOf_of_trace {s' : State α} {new : List (Call α)}
    (htrace : s'.trace = s.trace ++ new.map fun call => (some i, call)) :
    s'.callsOf j = s.callsOf j ++ if i = j then new else [] := by
  simp only [State.callsOf, htrace, List.filterMap_append, List.filterMap_map]
  congr 1
  by_cases hij : i = j
  · subst hij
    simp only [if_true, Function.comp_def]
    exact List.filterMap_some
  · simp [hij]

theorem foldl_spawn (l : List Task) (s : State α) :
    l.foldl (fun s t => s.spawn t) s = { s with tasks := s.tasks ++ l } := by
  induction l generalizing s with
  | nil => simp
  | cons t l ih =>
    rw [List.foldl_cons, ih]
    simp

/-- A task no call of the trace names has made no call. -/
theorem callsOf_eq_nil (htags : ∀ e ∈ s.trace, ∀ i ∈ e.1, i < s.tasks.length)
    (hj : s.tasks.length ≤ j) : s.callsOf j = [] := by
  refine List.filterMap_eq_nil_iff.2 fun e he => ?_
  have hne : e.1 ≠ some j := fun heq => by
    have := htags e he j heq
    omega
  simp [hne]

end Updates

end Concurrent

end FrameLink
