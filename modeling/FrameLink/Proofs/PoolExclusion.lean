import FrameLink.SharedPool
import FrameLink.Proofs.Interleavings

/-!
The shared identity pool never hands one identity to two callers at once, in every interleaving of
the steps of any number of acquires and releases, as long as each release is made by a caller that
holds the identity. Who holds what is read off the log of the calls that returned (`holdings`): an
acquire that returned an identity gives its caller a hold on it, and the caller's release ends it.

All of it rests on one invariant, `Consistent`: the held slots are exactly those of the identities
the callers hold and of the identities acquires have won by their swap and not yet returned, each
once. A scan may pass a slot that is freed behind it, but it claims a slot only by a swap that
finds the slot free, and a release frees only the slot of its caller's own hold; so every step
keeps the invariant. It gives that every identity an acquire returns was held by no caller just
before (`History`), and from that, that an identity returned twice was released in between by
the caller it was first returned to.
-/

namespace FrameLink

namespace IdentityPool

variable {pool : IdentityPool} {index : Nat}

theorem compareAndSwap_of_mem (h : index ∈ pool.held) :
    pool.compareAndSwap index = (false, pool) := by
  simp [compareAndSwap, h]

theorem compareAndSwap_of_not_mem (h : index ∉ pool.held) :
    pool.compareAndSwap index = (true, pool.claim index) := by
  simp [compareAndSwap, h]

end IdentityPool

namespace SharedPool

open Concurrent (Ledger)

/-! ### Who holds what -/

/-- Who holds what after one more call returned: an acquire adds the identity it returned, with its
caller, and a release ends its caller's hold on the identity. -/
def afterEvent (held : List (Nat × ClientId)) : Event → List (Nat × ClientId)
  | .acquired caller (some id) => held ++ [(caller, id)]
  | .acquired _ none => held
  | .released caller id _ => held.erase (caller, id)

/-- Who holds which identity after the calls of a log, oldest hold first. -/
def holdings (log : List Event) : List (Nat × ClientId) := log.foldl afterEvent []

def heldIds (log : List Event) : List ClientId := (holdings log).map Prod.snd

@[simp] theorem holdings_nil : holdings [] = [] := rfl

@[simp] theorem holdings_append_singleton (log : List Event) (e : Event) :
    holdings (log ++ [e]) = afterEvent (holdings log) e := by
  simp only [holdings, List.foldl_append, List.foldl_cons, List.foldl_nil]

theorem mem_afterEvent {held : List (Nat × ClientId)} {caller : Nat} {id : ClientId} {e : Event}
    (hmem : (caller, id) ∈ held) (he : ∀ b, e ≠ .released caller id b) :
    (caller, id) ∈ afterEvent held e := by
  cases e with
  | acquired caller' id' =>
    cases id' with
    | none => exact hmem
    | some id' => exact List.mem_append_left _ hmem
  | released caller' id' b =>
    have hne : (caller, id) ≠ (caller', id') := by
      rintro ⟨⟩
      exact he b rfl
    exact (List.mem_erase_of_ne hne).2 hmem

/-- A release may be made only by a caller that holds the identity; acquires may step at any time. -/
def Allowed (s : State) : Action → Prop
  | .release caller id => (caller, id) ∈ holdings s.log
  | _ => True

instance : (s : State) → (a : Action) → Decidable (Allowed s a)
  | s, .release caller id => inferInstanceAs (Decidable ((caller, id) ∈ holdings s.log))
  | _, .acquire _ => isTrue trivial
  | _, .advance _ => isTrue trivial

/-- Every step of a run is allowed in the state it is taken in. -/
def Disciplined : State → List Action → Prop
  | _, [] => True
  | s, a :: rest => Allowed s a ∧ Disciplined (step s a) rest

instance decidableDisciplined : (s : State) → (actions : List Action) →
    Decidable (Disciplined s actions)
  | _, [] => isTrue trivial
  | s, a :: rest =>
    haveI := decidableDisciplined (step s a) rest
    inferInstanceAs (Decidable (Allowed s a ∧ Disciplined (step s a) rest))

/-! ### What each call returned -/

/-- What a call may return against the holds just before it: an acquire an identity no caller held,
and a release that its identity was held. -/
def Returned (held : List (Nat × ClientId)) : Event → Prop
  | .acquired _ (some id) => id ∉ held.map Prod.snd
  | .acquired _ none => True
  | .released _ _ wasHeld => wasHeld = true

/-- Every call of a log returned what `Returned` allows against the holds of the calls before it. -/
def History (log : List Event) : Prop :=
  ∀ j e, log[j]? = some e → Returned (holdings (log.take j)) e

section History

variable {log : List Event}

theorem history_nil : History [] := by
  intro j e hj
  simp at hj

theorem History.append (h : History log) {e : Event} (he : Returned (holdings log) e) :
    History (log ++ [e]) := by
  intro j e' hj
  rcases Nat.lt_or_ge j log.length with hlt | hge
  · rw [List.getElem?_append_left hlt] at hj
    rw [List.take_append_of_le_length hlt.le]
    exact h j e' hj
  · have hlt : j < log.length + 1 := by simpa using (List.getElem?_eq_some_iff.1 hj).1
    obtain rfl : j = log.length := by omega
    simp only [List.getElem?_append_right (Nat.le_refl _), Nat.sub_self, List.getElem?_cons_zero,
      Option.some.injEq] at hj
    subst hj
    simpa using he

theorem mem_holdings_take {caller : Nat} {id : ClientId} {i j : Nat}
    (hmem : (caller, id) ∈ holdings (log.take i))
    (hno : ∀ m b, i ≤ m → m < j → log[m]? ≠ some (.released caller id b)) :
    ∀ k, i ≤ k → k ≤ j → (caller, id) ∈ holdings (log.take k) := by
  intro k hik
  induction k, hik using Nat.le_induction with
  | base => exact fun _ => hmem
  | succ k hik ih =>
    intro hkj
    rw [List.take_add_one]
    cases hk : log[k]? with
    | none => simpa using ih (by omega)
    | some e =>
      simp only [Option.toList_some, holdings_append_singleton]
      exact mem_afterEvent (ih (by omega)) fun b heq => hno k b hik (by omega) (heq ▸ hk)

/-- An identity returned at entry `i` and again at a later entry `j` was released in between by
the caller it went to at `i`. -/
theorem History.released_between (h : History log) {i j caller caller' : Nat} {id : ClientId}
    (hij : i < j) (hi : log[i]? = some (.acquired caller (some id)))
    (hj : log[j]? = some (.acquired caller' (some id))) :
    ∃ m, i < m ∧ m < j ∧ log[m]? = some (.released caller id true) := by
  by_contra hno
  have hheld : (caller, id) ∈ holdings (log.take (i + 1)) := by
    rw [List.take_add_one, hi]
    simp [afterEvent]
  have hkept := mem_holdings_take hheld (j := j) (fun m b hm hmj heq => by
    have hb : b = true := h m _ heq
    subst hb
    exact hno ⟨m, by omega, hmj, heq⟩) j (by omega) le_rfl
  exact h j _ hj (List.mem_map.2 ⟨_, hkept, rfl⟩)

end History

/-! ### The invariant -/

def Acquire.winning (a : Acquire) : Option ClientId :=
  match a.stage with
  | .claimed index => some (IdentityPool.identityOf index)
  | _ => none

def winners (s : State) : List ClientId := s.acquires.filterMap Acquire.winning

/-- What holds in every state the callers can reach. -/
structure Consistent (s : State) : Prop where
  pool : s.pool.WellFormed
  fits : s.pool.capacity < UInt32.size
  /-- The held slots are those of the identities the callers hold and the acquires have won, each
  once. -/
  ledger : Ledger (heldIds s.log ++ winners s) s.pool.ids
  history : History s.log

theorem consistent_init (n : Nat) (hfits : n < UInt32.size) : Consistent (init n) where
  pool := IdentityPool.wellFormed_new n
  fits := hfits
  ledger := ⟨List.nodup_nil, fun k => by simp [heldIds, winners, init, IdentityPool.ids_new]⟩
  history := history_nil

section Steps

variable {s : State} {i caller : Nat}

@[simp] theorem winners_record (e : Event) : winners (s.record e) = winners s := rfl

theorem winners_setStage {a : Acquire} (hi : s.acquires[i]? = some a) (caller : Nat)
    (stage : Stage) :
    (winners (s.setStage i caller stage) ++ a.winning.toList).Perm
      (winners s ++ (Acquire.winning ⟨caller, stage⟩).toList) := by
  obtain ⟨hlt, rfl⟩ := List.getElem?_eq_some_iff.1 hi
  exact Concurrent.filterMap_set_perm hlt _

theorem Consistent.call (h : Consistent s) (caller : Nat) :
    Consistent (step s (.acquire caller)) := by
  have hwinners : winners (step s (.acquire caller)) = winners s := by
    simp [step, winners, List.filterMap_append, Acquire.winning]
  exact ⟨h.pool, h.fits, hwinners ▸ h.ledger, h.history⟩

theorem Consistent.setStage (h : Consistent s) {a : Acquire} (hi : s.acquires[i]? = some a)
    (ha : a.winning = none) {stage : Stage} (hstage : Acquire.winning ⟨caller, stage⟩ = none) :
    Consistent (s.setStage i caller stage) := by
  have hperm := winners_setStage hi caller stage
  rw [ha, hstage, Option.toList_none, List.append_nil, List.append_nil] at hperm
  exact ⟨h.pool, h.fits, h.ledger.perm (hperm.append_left _), h.history⟩

theorem Consistent.record_none (h : Consistent s) (caller : Nat) :
    Consistent (s.record (.acquired caller none)) := by
  have hheld : heldIds (s.record (.acquired caller none)).log = heldIds s.log := by
    simp [heldIds, afterEvent]
  refine ⟨h.pool, h.fits, ?_, h.history.append trivial⟩
  rw [hheld, winners_record]
  exact h.ledger

theorem Consistent.claim (h : Consistent s) {next : Nat}
    (hi : s.acquires[i]? = some ⟨caller, .scanning next⟩) (hlt : next < s.pool.capacity)
    (hfree : next ∉ s.pool.held) :
    Consistent ({ s with pool := s.pool.claim next }.setStage i caller (.claimed next)) := by
  obtain ⟨hids, hwf, hcap⟩ := IdentityPool.claim_refines h.pool hlt hfree
  have hnat : (IdentityPool.identityOf next).toNat = next + 1 :=
    IdentityPool.toNat_identityOf (by have := h.fits; omega)
  have hnew : (IdentityPool.identityOf next).toNat ∉ s.pool.ids := by
    rw [hnat, IdentityPool.mem_ids]
    simpa using hfree
  have hperm := winners_setStage (s := { s with pool := s.pool.claim next }) hi caller
    (.claimed next)
  simp only [Acquire.winning, Option.toList_none, Option.toList_some, List.append_nil] at hperm
  refine ⟨hwf, hcap ▸ h.fits, ?_, h.history⟩
  rw [State.setStage_pool, hids, ← hnat]
  exact h.ledger.claim hnew (by rw [List.append_assoc]; exact hperm.append_left _)

theorem Consistent.returnClaimed (h : Consistent s) {index : Nat}
    (hi : s.acquires[i]? = some ⟨caller, .claimed index⟩) :
    Consistent ((s.setStage i caller .done).record
      (.acquired caller (some (IdentityPool.identityOf index)))) := by
  have hperm := winners_setStage hi caller .done
  simp only [Acquire.winning, Option.toList_none, Option.toList_some, List.append_nil] at hperm
  have hheld : heldIds (s.log ++ [.acquired caller (some (IdentityPool.identityOf index))]) =
      heldIds s.log ++ [IdentityPool.identityOf index] := by
    simp [heldIds, afterEvent]
  have hfresh : IdentityPool.identityOf index ∉ heldIds s.log := fun hk =>
    (List.nodup_append.1 h.ledger.1).2.2 _ hk _ (hperm.subset (by simp)) rfl
  refine ⟨h.pool, h.fits, ?_, h.history.append hfresh⟩
  simp only [State.record_log, State.setStage_log, State.record_pool, State.setStage_pool, hheld,
    winners_record, List.append_assoc]
  exact h.ledger.perm ((List.perm_append_comm.trans hperm).append_left _)

theorem Consistent.release (h : Consistent s) {id : ClientId}
    (hheld : (caller, id) ∈ holdings s.log) :
    Consistent (step s (.release caller id)) := by
  obtain ⟨hanswer, hids, hwf, hcap⟩ := IdentityPool.release_refines h.pool id
  rcases hrel : s.pool.release id with ⟨wasHeld, pool⟩
  rw [hrel] at hanswer hids hwf hcap
  have hrest : heldIds (s.log ++ [.released caller id wasHeld]) =
      ((holdings s.log).erase (caller, id)).map Prod.snd := by
    simp [heldIds, afterEvent]
  have hperm : (heldIds (s.log ++ [.released caller id wasHeld]) ++ winners s ++ [id]).Perm
      (heldIds s.log ++ winners s) := by
    have hsplit : (heldIds s.log).Perm (id :: ((holdings s.log).erase (caller, id)).map Prod.snd) :=
      (List.perm_cons_erase hheld).map Prod.snd
    rw [hrest]
    exact (List.perm_append_singleton _ _).trans (hsplit.symm.append_right _)
  obtain ⟨hledger, hmem⟩ := h.ledger.release hperm
  have hwas : wasHeld = true := by simpa [hmem] using hanswer
  simp only [step, hrel]
  exact ⟨hwf, hcap ▸ h.fits, hids ▸ hledger, h.history.append hwas⟩

theorem Consistent.advance (h : Consistent s) {stage : Stage}
    (hi : s.acquires[i]? = some ⟨caller, stage⟩) : Consistent (advance s i caller stage) := by
  cases stage with
  | scanning next =>
    by_cases hnext : next < s.pool.capacity
    · by_cases hheld : next ∈ s.pool.held
      · simp only [SharedPool.advance, if_pos hnext, IdentityPool.compareAndSwap_of_mem hheld,
          Bool.false_eq_true, if_false]
        exact h.setStage hi rfl rfl
      · simp only [SharedPool.advance, if_pos hnext, IdentityPool.compareAndSwap_of_not_mem hheld,
          if_true]
        exact h.claim hi hnext hheld
    · simp only [SharedPool.advance, if_neg hnext]
      exact (h.setStage hi rfl rfl).record_none caller
  | claimed index => exact h.returnClaimed hi
  | done => exact h

/-- Every allowed step keeps the invariant. -/
theorem Consistent.step (h : Consistent s) {a : Action} (ha : Allowed s a) :
    Consistent (step s a) := by
  cases a with
  | acquire caller => exact h.call caller
  | advance i =>
    cases hi : s.acquires[i]? with
    | none =>
      simp only [SharedPool.step, hi]
      exact h
    | some a =>
      simp only [SharedPool.step, hi]
      exact h.advance hi
  | release caller id => exact h.release ha

/-- Every disciplined run keeps the invariant. -/
theorem Consistent.run (h : Consistent s) {actions : List Action}
    (hd : Disciplined s actions) : Consistent (run s actions) := by
  induction actions generalizing s with
  | nil => exact h
  | cons a rest ih => exact ih (h.step hd.1) hd.2

end Steps

/-! ### What the invariant gives -/

namespace Consistent

variable {s : State}

theorem nodup_heldIds (h : Consistent s) : (heldIds s.log).Nodup :=
  h.ledger.1.sublist (List.sublist_append_left _ _)

theorem isAcquired_of_mem (h : Consistent s) {caller : Nat} {id : ClientId}
    (hmem : (caller, id) ∈ holdings s.log) : s.pool.isAcquired id = true := by
  rw [IdentityPool.isAcquired_eq h.pool, decide_eq_true_iff]
  exact (h.ledger.2 id).2 (List.mem_append_left _ (List.mem_map.2 ⟨_, hmem, rfl⟩))

theorem inUse_eq (h : Consistent s) :
    s.pool.inUse = (holdings s.log).length + (winners s).length := by
  rw [h.ledger.inUse_eq h.pool h.fits, List.length_append, heldIds, List.length_map]

end Consistent

theorem winners_eq_nil {s : State} (hdone : ∀ a ∈ s.acquires, a.stage = .done) :
    winners s = [] :=
  List.filterMap_eq_nil_iff.2 fun a ha => by simp [Acquire.winning, hdone a ha]

/-- In every interleaving of acquires and releases made by holders, on at most `2 ^ 32 - 1` slots,
no identity is held twice, and one is returned again only after its holder released it. -/
theorem never_double_assigns (n : Nat) (hfits : n < UInt32.size) (actions : List Action)
    (hdisc : Disciplined (init n) actions) :
    let s := run (init n) actions
    (heldIds s.log).Nodup ∧
      (∀ caller id, (caller, id) ∈ holdings s.log → s.pool.isAcquired id = true) ∧
      ((∀ a ∈ s.acquires, a.stage = .done) → s.pool.inUse = (holdings s.log).length) ∧
      ∀ (i j caller caller' : Nat) (id : ClientId), i < j →
        s.log[i]? = some (Event.acquired caller (some id)) →
        s.log[j]? = some (Event.acquired caller' (some id)) →
        ∃ m, i < m ∧ m < j ∧ s.log[m]? = some (Event.released caller id true) := by
  intro s
  have h : Consistent s := (consistent_init n hfits).run hdisc
  refine ⟨h.nodup_heldIds, fun caller id hmem => h.isAcquired_of_mem hmem, fun hdone => ?_,
    fun i j caller caller' id hij hi hj => h.history.released_between hij hi hj⟩
  rw [h.inUse_eq, winners_eq_nil hdone, List.length_nil, Nat.add_zero]

/-- The first caller gives its identity back and a third caller's scan finds it free: the release
stands between the two acquires that returned it. -/
theorem identity_returned_again_after_release :
    let actions : List Action := [.acquire 0, .acquire 1, .advance 0, .advance 1, .advance 1,
      .advance 0, .advance 1, .release 0 1, .acquire 2, .advance 2, .advance 2]
    2 < UInt32.size ∧ Disciplined (init 2) actions ∧
      ∃ m, 0 < m ∧ m < 3 ∧ (run (init 2) actions).log[m]? = some (.released 0 1 true) :=
  ⟨by decide, by decide,
    (never_double_assigns 2 (by decide) _ (by decide)).2.2.2 0 3 0 2 1 (by decide) (by decide)
      (by decide)⟩

end SharedPool

end FrameLink
