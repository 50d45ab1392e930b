import FrameLink.IdentityPool
import Mathlib.Data.Finset.Max
import Mathlib.Order.Interval.Finset.Nat

/-! The identity pool against the allocator it implements. Seen from outside, a pool of capacity
`n` is a set `S` of the identities handed out, drawn from `1, …, n`: acquiring hands out the least
identity not in `S` and adds it, or answers nothing when `S` holds them all; releasing removes an
identity and says whether it was in `S`; the count is the size of `S`.

The pool keeps held slot indices in ascending order; the identities it has handed out
(`IdentityPool.ids`) are those indices shifted up by one, and its lowest free slot is the first
gap in them (`firstGap_not_mem`, `mem_of_lt_firstGap`). Main statement: from an empty pool, every
sequence of operations gets the answers the set allocator gives (`performAll_new_answers_as_set`),
for every capacity up to the largest 32-bit identity. -/

namespace FrameLink

namespace IdentityPool

/-! ### The allocator on a set of identities -/

/-- What an operation answers, identities read as numbers. -/
inductive Answer where
  | identity (id : Option Nat)
  | flag (b : Bool)
  | count (n : Nat)
deriving DecidableEq, Repr

def Reply.answer : Reply → Answer
  | .identity id => .identity (id.map UInt32.toNat)
  | .flag b => .flag b
  | .count n => .count n

/-- The identities `1, …, n` that are not in `held`. -/
def freeIds (n : Nat) (held : Finset Nat) : Finset Nat := Finset.Icc 1 n \ held

/-- One operation on the allocator of the identities `1, …, n` that has handed out `held`: the
identities handed out after it, and its answer. -/
def setPerform (n : Nat) (held : Finset Nat) : Command → Finset Nat × Answer
  | .acquire =>
    if h : (freeIds n held).Nonempty then
      ((insert ((freeIds n held).min' h) held), .identity (some ((freeIds n held).min' h)))
    else (held, .identity none)
  | .release id => (held.erase id.toNat, .flag (decide (id.toNat ∈ held)))
  | .isAcquired id => (held, .flag (decide (id.toNat ∈ held)))
  | .inUse => (held, .count held.card)
  | .capacity => (held, .count n)

def setAnswers (n : Nat) : Finset Nat → List Command → List Answer
  | _, [] => []
  | held, c :: rest => (setPerform n held c).2 :: setAnswers n (setPerform n held c).1 rest

/-! ### Held slots and the identities they stand for -/

/-- The identities the pool has handed out: one more than each held slot. -/
def ids (pool : IdentityPool) : Finset Nat := (pool.held.map (· + 1)).toFinset

theorem mem_ids {pool : IdentityPool} {m : Nat} : m ∈ pool.ids ↔ 0 < m ∧ m - 1 ∈ pool.held := by
  simp only [ids, List.mem_toFinset, List.mem_map]
  constructor
  · rintro ⟨i, hi, rfl⟩
    exact ⟨by omega, by simpa using hi⟩
  · rintro ⟨hpos, hmem⟩
    exact ⟨m - 1, hmem, by omega⟩

/-- What the pool keeps true of its slots: the held ones ascend and lie below the capacity. -/
structure WellFormed (pool : IdentityPool) : Prop where
  ascending : pool.held.Pairwise (· < ·)
  lt_capacity : ∀ i ∈ pool.held, i < pool.capacity

theorem WellFormed.nodup {pool : IdentityPool} (hwf : pool.WellFormed) : pool.held.Nodup :=
  hwf.ascending.imp fun h => ne_of_lt h

theorem wellFormed_new (n : Nat) : (new n).WellFormed :=
  ⟨List.Pairwise.nil, fun _ h => absurd h List.not_mem_nil⟩

theorem ids_new (n : Nat) : (new n).ids = ∅ := rfl

theorem card_ids {pool : IdentityPool} (hwf : pool.WellFormed) : pool.ids.card = pool.inUse := by
  rw [ids, List.toFinset_card_of_nodup (hwf.nodup.map (add_left_injective 1)), List.length_map,
    inUse]

/-! ### The first gap in the held slots -/

section Gap

variable {xs : List Nat} {start : Nat}

theorem le_firstGap : start ≤ firstGap xs start := by
  fun_induction firstGap xs start with
  | case1 => exact Nat.le_refl _
  | case2 => omega
  | case3 => exact Nat.le_refl _

theorem firstGap_not_mem (hasc : xs.Pairwise (· < ·)) (hge : ∀ x ∈ xs, start ≤ x) :
    firstGap xs start ∉ xs := by
  fun_induction firstGap xs start with
  | case1 start => exact List.not_mem_nil
  | case2 xs start ih =>
    have habove : ∀ y ∈ xs, start + 1 ≤ y := fun y hy => List.rel_of_pairwise_cons hasc hy
    have hgap := ih hasc.of_cons habove
    have hle : start + 1 ≤ firstGap xs (start + 1) := le_firstGap
    intro hmem
    rcases List.mem_cons.1 hmem with heq | hrest
    · omega
    · exact hgap hrest
  | case3 x xs start hx =>
    intro hmem
    rcases List.mem_cons.1 hmem with heq | hrest
    · exact hx heq.symm
    · have := List.rel_of_pairwise_cons hasc hrest
      have := hge x List.mem_cons_self
      omega

theorem mem_of_lt_firstGap (hasc : xs.Pairwise (· < ·)) {m : Nat} (hm : start ≤ m)
    (hlt : m < firstGap xs start) : m ∈ xs := by
  fun_induction firstGap xs start with
  | case1 => omega
  | case2 xs start ih =>
    rcases Nat.eq_or_lt_of_le hm with heq | hgt
    · exact heq ▸ List.mem_cons_self
    · exact List.mem_cons_of_mem start (ih hasc.of_cons hgt hlt)
  | case3 => omega

end Gap

/-! ### Inserting a held slot -/

theorem insertSorted_eq_orderedInsert (n : Nat) (xs : List Nat) :
    insertSorted n xs = xs.orderedInsert (· ≤ ·) n := by
  induction xs with
  | nil => rfl
  | cons x xs ih => simp only [insertSorted, List.orderedInsert_cons, ih]

theorem mem_insertSorted {n a : Nat} {xs : List Nat} :
    a ∈ insertSorted n xs ↔ a = n ∨ a ∈ xs := by
  rw [insertSorted_eq_orderedInsert]
  exact List.mem_orderedInsert _

theorem insertSorted_eq_append {n : Nat} {xs : List Nat} (h : ∀ x ∈ xs, x < n) :
    insertSorted n xs = xs ++ [n] := by
  induction xs with
  | nil => rfl
  | cons x xs ih =>
    have hx : ¬ n ≤ x := Nat.not_le.2 (h x (List.mem_cons_self ..))
    rw [insertSorted, if_neg hx, ih fun y hy => h y (List.mem_cons_of_mem x hy)]
    rfl

theorem pairwise_insertSorted {n : Nat} {xs : List Nat} (hasc : xs.Pairwise (· < ·))
    (hn : n ∉ xs) : (insertSorted n xs).Pairwise (· < ·) := by
  induction xs with
  | nil => exact List.pairwise_singleton _ n
  | cons x xs ih =>
    have hne : n ≠ x := fun h => hn (h ▸ List.mem_cons_self)
    simp only [insertSorted]
    split
    · next hle =>
      refine List.Pairwise.cons (fun y hy => ?_) hasc
      rcases List.mem_cons.1 hy with rfl | hy
      · omega
      · have := List.rel_of_pairwise_cons hasc hy
        omega
    · next hgt =>
      have hrest : n ∉ xs := fun h => hn (List.mem_cons_of_mem x h)
      refine List.Pairwise.cons (fun y hy => ?_) (ih hasc.of_cons hrest)
      rcases mem_insertSorted.1 hy with rfl | hy
      · omega
      · exact List.rel_of_pairwise_cons hasc hy

/-! ### Each operation against the set allocator -/

theorem mem_freeIds {n m : Nat} {held : Finset Nat} :
    m ∈ freeIds n held ↔ 1 ≤ m ∧ m ≤ n ∧ m ∉ held := by
  simp [freeIds, and_assoc]

section Pool

variable {pool : IdentityPool}

/-- Below the capacity, the identity one past the first gap is the least free identity. -/
theorem isLeast_freeIds (hwf : pool.WellFormed) (hgap : firstGap pool.held 0 < pool.capacity) :
    IsLeast (freeIds pool.capacity pool.ids : Set Nat) (firstGap pool.held 0 + 1) := by
  have hnot := firstGap_not_mem hwf.ascending (fun x _ => Nat.zero_le x)
  refine ⟨?_, fun m hm => ?_⟩
  · rw [Finset.mem_coe, mem_freeIds, mem_ids]
    exact ⟨by omega, by omega, fun h => hnot (by simpa using h.2)⟩
  · rw [Finset.mem_coe, mem_freeIds, mem_ids] at hm
    by_contra hlt
    exact hm.2.2 ⟨by omega, mem_of_lt_firstGap hwf.ascending (Nat.zero_le _) (by omega)⟩

theorem freeIds_eq_empty (hwf : pool.WellFormed) (hgap : pool.capacity ≤ firstGap pool.held 0) :
    freeIds pool.capacity pool.ids = ∅ := by
  refine Finset.eq_empty_of_forall_notMem fun m hm => ?_
  rw [mem_freeIds, mem_ids] at hm
  exact hm.2.2 ⟨by omega, mem_of_lt_firstGap hwf.ascending (Nat.zero_le _) (by omega)⟩

theorem toNat_identityOf {index : Nat} (h : index + 1 < UInt32.size) :
    (identityOf index).toNat = index + 1 := by
  have hindex : (UInt32.ofNat index).toNat = index := UInt32.toNat_ofNat_of_lt' (by omega)
  simp only [identityOf, UInt32.toNat_add, hindex, UInt32.toNat_one, UInt32.size] at h ⊢
  omega

theorem not_mem_ids_of_slotOf?_eq_none (hwf : pool.WellFormed) {id : ClientId}
    (h : pool.slotOf? id = none) : id.toNat ∉ pool.ids := by
  rw [mem_ids]
  rintro ⟨hpos, hheld⟩
  have hlt := hwf.lt_capacity _ hheld
  have hne : id ≠ 0 := fun h0 => by simp [h0] at hpos
  simp only [slotOf?] at h
  rw [if_pos ⟨hne, hlt⟩] at h
  cases h

theorem contains_slot_iff {id : ClientId} {index : Nat} (h : pool.slotOf? id = some index) :
    index = id.toNat - 1 ∧ (pool.held.contains index = decide (id.toNat ∈ pool.ids)) := by
  simp only [slotOf?] at h
  split at h
  · next hslot =>
    cases h
    have hpos : 0 < id.toNat := by
      have : id.toNat ≠ 0 := fun h0 => hslot.1 (UInt32.toNat_inj.1 (by simpa using h0))
      omega
    refine ⟨rfl, ?_⟩
    simp [mem_ids, hpos]
  · cases h

theorem isAcquired_eq (hwf : pool.WellFormed) (id : ClientId) :
    pool.isAcquired id = decide (id.toNat ∈ pool.ids) := by
  simp only [isAcquired]
  split
  · next index h => exact (contains_slot_iff h).2
  · next h => simp [not_mem_ids_of_slotOf?_eq_none hwf h]

/-- Releasing says whether the identity was handed out and takes it back. -/
theorem release_refines (hwf : pool.WellFormed) (id : ClientId) :
    (pool.release id).1 = decide (id.toNat ∈ pool.ids) ∧
      (pool.release id).2.ids = pool.ids.erase id.toNat ∧ (pool.release id).2.WellFormed ∧
      (pool.release id).2.capacity = pool.capacity := by
  simp only [release]
  split
  · next index h =>
    obtain ⟨rfl, hcontains⟩ := contains_slot_iff h
    have hpos : 0 < id.toNat := by
      by_contra h0
      simp only [slotOf?] at h
      split at h
      · next hslot => exact hslot.1 (UInt32.toNat_inj.1 (by simp; omega))
      · cases h
    refine ⟨hcontains, ?_, ⟨hwf.ascending.sublist (List.erase_sublist), fun i hi =>
      hwf.lt_capacity i (List.mem_of_mem_erase hi)⟩, rfl⟩
    ext m
    simp only [Finset.mem_erase, mem_ids, hwf.nodup.mem_erase_iff]
    constructor
    · rintro ⟨hm, hne, hheld⟩
      exact ⟨by omega, hm, hheld⟩
    · rintro ⟨hne, hm, hheld⟩
      exact ⟨hm, by omega, hheld⟩
  · next h =>
    exact ⟨by simp [not_mem_ids_of_slotOf?_eq_none hwf h],
      (Finset.erase_eq_of_notMem (not_mem_ids_of_slotOf?_eq_none hwf h)).symm, hwf, rfl⟩

/-- Claiming a free slot hands out its identity, one more than its index. -/
theorem claim_refines (hwf : pool.WellFormed) {index : Nat} (hlt : index < pool.capacity)
    (hfree : index ∉ pool.held) :
    (pool.claim index).ids = insert (index + 1) pool.ids ∧ (pool.claim index).WellFormed ∧
      (pool.claim index).capacity = pool.capacity := by
  refine ⟨?_, ⟨pairwise_insertSorted hwf.ascending hfree, fun i hi => ?_⟩, rfl⟩
  · ext m
    simp only [claim, Finset.mem_insert, mem_ids, mem_insertSorted]
    constructor
    · rintro ⟨hm, heq | hheld⟩
      · exact Or.inl (by omega)
      · exact Or.inr ⟨hm, hheld⟩
    · rintro (heq | ⟨hm, hheld⟩)
      · exact ⟨by omega, Or.inl (by omega)⟩
      · exact ⟨hm, Or.inr hheld⟩
  · rcases mem_insertSorted.1 hi with rfl | hi
    · exact hlt
    · exact hwf.lt_capacity i hi

theorem le_capacity_of_mem_ids (hwf : pool.WellFormed) {m : Nat} (hm : m ∈ pool.ids) :
    m ≤ pool.capacity := by
  obtain ⟨hpos, hheld⟩ := mem_ids.1 hm
  have := hwf.lt_capacity _ hheld
  omega

theorem inUse_le_capacity (hwf : pool.WellFormed) : pool.inUse ≤ pool.capacity := by
  have hsub : pool.held.toFinset ⊆ Finset.range pool.capacity := fun i hi =>
    Finset.mem_range.2 (hwf.lt_capacity i (List.mem_toFinset.1 hi))
  calc pool.inUse = pool.held.toFinset.card := (List.toFinset_card_of_nodup hwf.nodup).symm
    _ ≤ (Finset.range pool.capacity).card := Finset.card_le_card hsub
    _ = pool.capacity := Finset.card_range _

/-- Acquiring hands out the least free identity and holds it, or changes nothing when none is free. -/
theorem acquire_refines (hwf : pool.WellFormed) (hcap : pool.capacity < UInt32.size) :
    (Reply.identity pool.acquire.1).answer = (setPerform pool.capacity pool.ids .acquire).2 ∧
      pool.acquire.2.ids = (setPerform pool.capacity pool.ids .acquire).1 ∧
      pool.acquire.2.WellFormed ∧ pool.acquire.2.capacity = pool.capacity := by
  by_cases hgap : firstGap pool.held 0 < pool.capacity
  · have hleast := isLeast_freeIds hwf hgap
    have hfree : (freeIds pool.capacity pool.ids).Nonempty := ⟨_, hleast.1⟩
    have hmin : (freeIds pool.capacity pool.ids).min' hfree = firstGap pool.held 0 + 1 :=
      (Finset.isLeast_min' _ hfree).unique hleast
    have hnot := firstGap_not_mem hwf.ascending (fun x _ => Nat.zero_le x)
    simp only [acquire, if_pos hgap, setPerform, dif_pos hfree, hmin]
    refine ⟨?_, ?_, ⟨pairwise_insertSorted hwf.ascending hnot, fun i hi => ?_⟩, trivial⟩
    · simp [Reply.answer, toNat_identityOf (show firstGap pool.held 0 + 1 < UInt32.size by omega)]
    · ext m
      simp only [Finset.mem_insert, mem_ids, mem_insertSorted]
      constructor
      · rintro ⟨hm, heq | hheld⟩
        · exact Or.inl (by omega)
        · exact Or.inr ⟨hm, hheld⟩
      · rintro (heq | ⟨hm, hheld⟩)
        · exact ⟨by omega, Or.inl (by omega)⟩
        · exact ⟨hm, Or.inr hheld⟩
    · rcases mem_insertSorted.1 hi with rfl | hi
      · exact hgap
      · exact hwf.lt_capacity i hi
  · have hnone : ¬(freeIds pool.capacity pool.ids).Nonempty := by
      rw [freeIds_eq_empty hwf (by omega)]
      exact Finset.not_nonempty_empty
    simp only [acquire, if_neg hgap, setPerform, dif_neg hnone]
    exact ⟨rfl, trivial, hwf, trivial⟩

/-- Step lemma: one operation on a well-formed pool answers as the set allocator does, and leaves a
well-formed pool that stands for the allocator's next set. -/
theorem perform_refines (hwf : pool.WellFormed) (hcap : pool.capacity < UInt32.size)
    (c : Command) :
    (pool.perform c).2.answer = (setPerform pool.capacity pool.ids c).2 ∧
      (pool.perform c).1.ids = (setPerform pool.capacity pool.ids c).1 ∧
      (pool.perform c).1.WellFormed ∧ (pool.perform c).1.capacity = pool.capacity := by
  cases c with
  | acquire => exact acquire_refines hwf hcap
  | release id =>
    obtain ⟨hwas, hids, hwf', hcap'⟩ := release_refines hwf id
    exact ⟨by simp [perform, Reply.answer, setPerform, hwas], hids, hwf', hcap'⟩
  | isAcquired id => exact ⟨by simp [perform, Reply.answer, setPerform, isAcquired_eq hwf], rfl, hwf, rfl⟩
  | inUse => exact ⟨by simp [perform, Reply.answer, setPerform, card_ids hwf], rfl, hwf, rfl⟩
  | capacity => exact ⟨rfl, rfl, hwf, rfl⟩

/-- Run lemma: operations in order on a well-formed pool answer as the set allocator does. -/
theorem performAll_answers (hwf : pool.WellFormed) (hcap : pool.capacity < UInt32.size)
    (cmds : List Command) :
    (pool.performAll cmds).map (·.2.answer) = setAnswers pool.capacity pool.ids cmds := by
  induction cmds generalizing pool with
  | nil => rfl
  | cons c rest ih =>
    obtain ⟨hanswer, hids, hwf', hcap'⟩ := perform_refines hwf hcap c
    have hrest := ih hwf' (hcap' ▸ hcap)
    rw [hcap', hids] at hrest
    simp only [performAll, List.map_cons, setAnswers, hanswer, hrest]

end Pool

/-- For every capacity `n` up to the largest 32-bit identity, a new pool answers every sequence of
operations as the allocator of the identities `1, …, n` does. -/
theorem performAll_new_answers_as_set (n : Nat) (hn : n < UInt32.size) (cmds : List Command) :
    ((new n).performAll cmds).map (·.2.answer) = setAnswers n ∅ cmds :=
  performAll_answers (wellFormed_new n) hn cmds

/-- A pool of three filled up, then identity 2 given back and handed out again. -/
theorem pool_of_three_answers :
    3 < UInt32.size ∧
      ((new 3).performAll [.acquire, .acquire, .acquire, .acquire, .release 2, .isAcquired 2,
          .acquire, .release 0, .release 4, .inUse, .capacity]).map (·.2.answer) =
        [.identity (some 1), .identity (some 2), .identity (some 3), .identity none, .flag true,
          .flag false, .identity (some 2), .flag false, .flag false, .count 3, .count 3] :=
  ⟨by decide, (performAll_new_answers_as_set 3 (by decide) _).trans (by decide)⟩

end IdentityPool

end FrameLink
