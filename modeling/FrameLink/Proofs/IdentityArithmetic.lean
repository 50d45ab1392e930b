import FrameLink.Proofs.Identities
import FrameLink.Server.Basic

/-! Identity arithmetic. The slot at index `i` hands out the identity `i + 1` as a 32-bit word, and
an identity `k` names the slot `k - 1` back. The two are inverse exactly while `i + 1` fits in 32
bits. Validation bounds the number of clients from below only, so a server may be made with more
slots than that.

Below the bound, every identity a pool hands out lies in `1, …, max_clients`, no two held slots
share one, and releasing the identity of a held slot frees that very slot
(`identities_exact_within_32_bits`). Past it the word wraps: slot `2 ^ 32 - 1` hands out `0`,
which names no slot, and slot `2 ^ 32` hands out `1` again while slot `0` holds it
(`identity_wraps_past_32_bits`). -/

namespace FrameLink

namespace IdentityPool

section Fits

variable {i j : Nat}

/-- Slots whose identities fit in 32 bits have different identities. -/
theorem identityOf_injective (hi : i + 1 < UInt32.size) (hj : j + 1 < UInt32.size)
    (h : identityOf i = identityOf j) : i = j := by
  have hnat := congrArg UInt32.toNat h
  rw [toNat_identityOf hi, toNat_identityOf hj] at hnat
  omega

theorem slotOf?_identityOf {pool : IdentityPool} (hi : i + 1 < UInt32.size) (hcap : i < pool.capacity) :
    pool.slotOf? (identityOf i) = some i := by
  have hnat := toNat_identityOf hi
  have hne : identityOf i ≠ 0 := fun h0 => by simp [h0] at hnat
  simp [slotOf?, hne, hnat, hcap]

theorem release_identityOf {pool : IdentityPool} (hi : i + 1 < UInt32.size) (hcap : i < pool.capacity)
    (hheld : i ∈ pool.held) :
    pool.release (identityOf i) = (true, { pool with held := pool.held.erase i }) := by
  simp [release, slotOf?_identityOf hi hcap, hheld]

end Fits

/-- Within 32 bits, a well-formed pool's held slots have distinct identities, and releasing the
identity of a held slot frees exactly that slot. -/
theorem WellFormed.identities_exact {pool : IdentityPool} (hwf : pool.WellFormed)
    (hcap : pool.capacity < UInt32.size) :
    (∀ i ∈ pool.held, ∀ j ∈ pool.held, identityOf i = identityOf j → i = j) ∧
      ∀ i ∈ pool.held, pool.release (identityOf i) = (true, { pool with held := pool.held.erase i }) := by
  have hfits : ∀ i ∈ pool.held, i + 1 < UInt32.size := fun i hi => by
    have := hwf.lt_capacity i hi
    omega
  exact ⟨fun i hi j hj => identityOf_injective (hfits i hi) (hfits j hj),
    fun i hi => release_identityOf (hfits i hi) (hwf.lt_capacity i hi) hi⟩

theorem acquire_claims {pool : IdentityPool} {id : ClientId} (h : pool.acquire.1 = some id) :
    ∃ i < pool.capacity, id = identityOf i ∧ i ∈ pool.acquire.2.held := by
  by_cases hgap : firstGap pool.held 0 < pool.capacity
  · simp only [acquire, if_pos hgap, Option.some.injEq] at h ⊢
    exact ⟨_, hgap, h.symm, mem_insertSorted.2 (.inl rfl)⟩
  · simp [acquire, if_neg hgap] at h

/-- Run lemma: along every run from a well-formed pool within 32 bits, each identity handed out is
that of a slot below the capacity, held from then on. -/
theorem performAll_claims {pool : IdentityPool} (hwf : pool.WellFormed)
    (hcap : pool.capacity < UInt32.size) (cmds : List Command) :
    ∀ x ∈ pool.performAll cmds, x.1.WellFormed ∧ x.1.capacity = pool.capacity ∧
      ∀ id, x.2 = .identity (some id) → ∃ i < pool.capacity, id = identityOf i ∧ i ∈ x.1.held := by
  induction cmds generalizing pool with
  | nil => simp [performAll]
  | cons c rest ih =>
    obtain ⟨-, -, hwf', hcap'⟩ := perform_refines hwf hcap c
    intro x hx
    simp only [performAll, List.mem_cons] at hx
    rcases hx with rfl | hx
    · refine ⟨hwf', hcap', fun id hid => ?_⟩
      cases c with
      | acquire =>
        simp only [perform, Reply.identity.injEq] at hid
        exact acquire_claims hid
      | release => simp [perform] at hid
      | isAcquired => simp [perform] at hid
      | inUse => simp [perform] at hid
      | capacity => simp [perform] at hid
    · obtain ⟨hwfx, hcapx, hclaims⟩ := ih hwf' (hcap' ▸ hcap) x hx
      exact ⟨hwfx, hcapx.trans hcap', by rw [← hcap']; exact hclaims⟩

end IdentityPool

theorem Server.new_identities {α : Type} {o : ServerOptions} (h : o.validate = .ok ()) :
    ∃ srv : Server α, Server.new o = .ok srv ∧ srv.identities = IdentityPool.new o.maxClients := by
  cases hnew : (Server.new o : Except NetError (Server α)) with
  | error e => simp [Server.new, h] at hnew
  | ok srv =>
    refine ⟨srv, rfl, ?_⟩
    simp only [Server.new, h] at hnew
    cases hnew
    rfl

open IdentityPool

/-- For options that validate with room for fewer than `2 ^ 32` clients, every identity handed out
lies in `1, …, max_clients`, and release frees exactly the slot claimed for it. -/
theorem identities_exact_within_32_bits {α : Type} (o : ServerOptions) (hvalid : o.validate = .ok ())
    (hfits : o.maxClients < UInt32.size) :
    (∃ srv : Server α, Server.new o = .ok srv ∧ srv.identities = IdentityPool.new o.maxClients) ∧
      ∀ cmds, ∀ x ∈ (IdentityPool.new o.maxClients).performAll cmds,
        (∀ id, x.2 = .identity (some id) → 1 ≤ id.toNat ∧ id.toNat ≤ o.maxClients ∧
          id = identityOf (id.toNat - 1) ∧ id.toNat - 1 ∈ x.1.held) ∧
        (∀ i ∈ x.1.held, ∀ j ∈ x.1.held, identityOf i = identityOf j → i = j) ∧
        (∀ i ∈ x.1.held, x.1.release (identityOf i) = (true, { x.1 with held := x.1.held.erase i })) := by
  refine ⟨Server.new_identities hvalid, fun cmds x hx => ?_⟩
  obtain ⟨hwf, hcap, hclaims⟩ := performAll_claims (wellFormed_new o.maxClients) hfits cmds x hx
  obtain ⟨hdistinct, hrelease⟩ := hwf.identities_exact (hcap ▸ hfits)
  refine ⟨fun id hid => ?_, hdistinct, hrelease⟩
  obtain ⟨i, hi, rfl, hheld⟩ := hclaims id hid
  have hslot : i < o.maxClients := hi
  have hnat : (identityOf i).toNat = i + 1 := toNat_identityOf (by omega)
  rw [hnat, Nat.add_sub_cancel]
  exact ⟨by omega, by omega, rfl, hheld⟩

/-- The default options: a short run of acquisitions and a release keeps every slot's identity. -/
theorem hundred_clients_release_own_slot :
    ({} : ServerOptions).validate = .ok () ∧ ({} : ServerOptions).maxClients < UInt32.size ∧
      ∀ x ∈ (IdentityPool.new 100).performAll [.acquire, .acquire, .release 1, .acquire],
        ∀ i ∈ x.1.held, x.1.release (identityOf i) = (true, { x.1 with held := x.1.held.erase i }) :=
  ⟨rfl, by decide, fun x hx =>
    ((identities_exact_within_32_bits (α := Unit) {} rfl (by decide)).2 _ x hx).2.2⟩

/-! ### Past 32 bits -/

namespace IdentityPool

theorem firstGap_range' (start k : Nat) : firstGap (List.range' start k) start = start + k := by
  induction k generalizing start with
  | zero => simp [firstGap]
  | succ k ih =>
    rw [List.range'_succ, firstGap, if_pos rfl, ih]
    omega

theorem acquire_range {n j : Nat} (hj : j < n) :
    (⟨n, List.range j⟩ : IdentityPool).acquire = (some (identityOf j), ⟨n, List.range (j + 1)⟩) := by
  have hgap : firstGap (List.range j) 0 = j := by
    rw [List.range_eq_range', firstGap_range', Nat.zero_add]
  simp only [acquire, hgap, if_pos hj, List.range_succ,
    insertSorted_eq_append fun x hx => List.mem_range.1 hx]

/-- Acquiring `k` times with the first `j` slots held: the `i`-th acquisition claims slot `j + i`. -/
theorem performAll_acquires {n j k : Nat} (hk : j + k ≤ n) :
    (⟨n, List.range j⟩ : IdentityPool).performAll (List.replicate k .acquire) =
      (List.range k).map fun i =>
        (⟨n, List.range (j + i + 1)⟩, .identity (some (identityOf (j + i)))) := by
  induction k generalizing j with
  | zero => rfl
  | succ k ih =>
    rw [List.replicate_succ, List.range_succ_eq_map, List.map_cons, List.map_map]
    simp only [performAll, perform, acquire_range (show j < n by omega),
      ih (show j + 1 + k ≤ n by omega)]
    simp only [Nat.add_zero, List.cons.injEq, true_and]
    refine List.map_congr_left fun i _ => ?_
    simp only [Function.comp_apply, show j + 1 + i = j + (i + 1) by omega]

theorem performAll_new_acquires_getElem? {n k i : Nat} (hk : k ≤ n) (hi : i < k) :
    ((new n).performAll (List.replicate k .acquire))[i]? =
      some (⟨n, List.range (i + 1)⟩, .identity (some (identityOf i))) := by
  have hrun := performAll_acquires (n := n) (j := 0) (k := k) (by omega)
  rw [show (⟨n, List.range 0⟩ : IdentityPool) = new n from rfl] at hrun
  simp [hrun, hi]

theorem release_one_of_range {n : Nat} (hn : 0 < n) :
    (⟨n, List.range n⟩ : IdentityPool).release 1 = (true, ⟨n, (List.range n).erase 0⟩) := by
  rw [← show identityOf 0 = 1 by decide]
  exact release_identityOf (by decide) hn (List.mem_range.2 hn)

end IdentityPool

/-- Past 32 bits the identities wrap: acquisition `2 ^ 32` hands out `0`, the next hands out `1`
again, and releasing `1` frees slot `0`. -/
theorem identity_wraps_past_32_bits :
    ({ maxClients := UInt32.size + 1 } : ServerOptions).validate = .ok () ∧
      ((IdentityPool.new (UInt32.size + 1)).performAll
          (List.replicate (UInt32.size + 1) .acquire))[0]? =
        some (⟨UInt32.size + 1, List.range 1⟩, .identity (some 1)) ∧
      ((IdentityPool.new (UInt32.size + 1)).performAll
          (List.replicate (UInt32.size + 1) .acquire))[UInt32.size - 1]? =
        some (⟨UInt32.size + 1, List.range UInt32.size⟩, .identity (some 0)) ∧
      ((IdentityPool.new (UInt32.size + 1)).performAll
          (List.replicate (UInt32.size + 1) .acquire))[UInt32.size]? =
        some (⟨UInt32.size + 1, List.range (UInt32.size + 1)⟩, .identity (some 1)) ∧
      (⟨UInt32.size + 1, List.range (UInt32.size + 1)⟩ : IdentityPool).release 1 =
        (true, ⟨UInt32.size + 1, (List.range (UInt32.size + 1)).erase 0⟩) := by
  have hfirst : identityOf 0 = 1 := by decide
  have hlast : identityOf (UInt32.size - 1) = 0 := by decide
  have hagain : identityOf UInt32.size = 1 := by decide
  have hsize : UInt32.size - 1 + 1 = UInt32.size := by decide
  refine ⟨rfl, ?_, ?_, ?_, ?_⟩
  · rw [performAll_new_acquires_getElem? (Nat.le_refl _) (by decide), hfirst]
  · rw [performAll_new_acquires_getElem? (Nat.le_refl _) (by decide), hlast, hsize]
  · rw [performAll_new_acquires_getElem? (Nat.le_refl _) (by decide), hagain]
  · exact release_one_of_range (Nat.succ_pos _)

end FrameLink
