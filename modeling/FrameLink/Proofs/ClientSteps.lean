import FrameLink.Client.Concurrent
import FrameLink.Proofs.SessionLifecycle

/-!
What one step of the client's calls does to its sessions: the facts about one stream session and
one datagram session that the client's invariants rest on, and the frame of each step of a call,
which changes at most one session by one step and appends at most one dispatch of its own.
-/

namespace FrameLink

namespace Lifecycle

/-- What a list holds after one of its places was set: the new element there, the old ones elsewhere. -/
theorem getElem?_set_eq_some {α : Type} {l : List α} {i j : Nat} {b d : α}
    (hj : (l.set i b)[j]? = some d) : (i = j ∧ b = d) ∨ (i ≠ j ∧ l[j]? = some d) := by
  rw [List.getElem?_set] at hj
  split at hj
  next hij =>
    split at hj
    next => exact .inl ⟨hij, Option.some.inj hj⟩
    next => cases hj
  next hij => exact .inr ⟨hij, hj⟩

theorem getElem?_append_eq_some {α : Type} {l : List α} {c d : α} {j : Nat}
    (hj : (l ++ [c])[j]? = some d) : l[j]? = some d ∨ (j = l.length ∧ c = d) := by
  rw [List.getElem?_append] at hj
  split at hj
  next => exact .inl hj
  next hle =>
    have hlt := (List.getElem?_eq_some_iff.1 hj).1
    simp only [List.length_singleton] at hlt
    have hj' : j = l.length := by omega
    subst hj'
    simp only [Nat.sub_self, List.getElem?_cons_zero, Option.some.injEq] at hj
    exact .inr ⟨rfl, hj⟩

theorem two_le_countP_of_ne {α : Type} {p : α → Bool} {l : List α} {a b x : α} {j j' : Nat}
    (hj : l[j]? = some a) (hj' : l[j']? = some b) (hne : j ≠ j') (ha : p a = true)
    (hb : p b = true) (hx : p x = false) : 2 ≤ l.countP p := by
  have hleave := countP_set_of_leave hj ha hx
  have hmem : (l.set j x)[j']? = some b := by
    rw [List.getElem?_set_ne hne]
    exact hj'
  have hpos : 0 < (l.set j x).countP p := List.countP_pos_iff.2 ⟨b, List.mem_of_getElem? hmem, hb⟩
  omega

def Caller.isAttach : Caller → Bool
  | .attach _ => true
  | _ => false

namespace State

variable {s : State} {i j : Nat}

theorem stepAttach_calls_of_ne (hij : i ≠ j) (stage : AttachStage) :
    (s.stepAttach i stage).calls[j]? = s.calls[j]? := by
  cases stage with
  | take | swap =>
    simp only [stepAttach]
    split <;> simp [List.getElem?_set_ne hij]
  | spawn | register | recheck | abort => simp [stepAttach, List.getElem?_set_ne hij]
  | returned => rfl

theorem stepClose_calls_of_ne (hij : i ≠ j) (stage : CloseStage) :
    (s.stepClose i stage).calls[j]? = s.calls[j]? := by
  cases stage with
  | swap | dropOutgoing =>
    simp only [stepClose]
    split <;> simp [List.getElem?_set_ne hij]
  | dropWriter | abort => simp [stepClose, List.getElem?_set_ne hij]
  | returned => rfl

theorem stepSend_calls_of_ne (hij : i ≠ j) (stage : SendStage) :
    (s.stepSend i stage).calls[j]? = s.calls[j]? := by
  cases stage with
  | push =>
    simp only [stepSend]
    split <;> simp [List.getElem?_set_ne hij]
  | load => simp [stepSend, List.getElem?_set_ne hij]
  | returned => rfl

theorem step_deliver_calls : (s.step .deliver).calls = s.calls := by
  simp only [step]
  split
  · split <;> rfl
  · rfl

theorem step_writerEnds_calls : (s.step .writerEnds).calls = s.calls := by
  simp only [step]
  split <;> rfl

theorem length_stepAttach (stage : AttachStage) :
    (s.stepAttach i stage).calls.length = s.calls.length := by
  cases stage with
  | take | swap =>
    simp only [stepAttach]
    split <;> simp
  | spawn | register | recheck | abort => simp [stepAttach]
  | returned => rfl

theorem length_stepClose (stage : CloseStage) :
    (s.stepClose i stage).calls.length = s.calls.length := by
  cases stage with
  | swap | dropOutgoing =>
    simp only [stepClose]
    split <;> simp
  | dropWriter | abort => simp [stepClose]
  | returned => rfl

theorem length_stepSend (stage : SendStage) :
    (s.stepSend i stage).calls.length = s.calls.length := by
  cases stage with
  | push =>
    simp only [stepSend]
    split <;> simp
  | load => simp [stepSend]
  | returned => rfl

theorem length_calls_le_step (a : Action) : s.calls.length ≤ (s.step a).calls.length := by
  cases a with
  | attach | close | send => simp [step]
  | call i =>
    simp only [step]
    split
    next stage _ => exact Nat.le_of_eq (length_stepAttach stage).symm
    next stage _ => exact Nat.le_of_eq (length_stepClose stage).symm
    next stage _ => exact Nat.le_of_eq (length_stepSend stage).symm
    next => exact Nat.le_refl _
  | deliver => exact Nat.le_of_eq (congrArg List.length step_deliver_calls).symm
  | writerEnds => exact Nat.le_of_eq (congrArg List.length step_writerEnds_calls).symm

theorem step_calls_of_ne (hlt : j < s.calls.length) {a : Action} (ha : a ≠ .call j) :
    (s.step a).calls[j]? = s.calls[j]? := by
  cases a with
  | attach | close | send => simp [step, List.getElem?_append_left hlt]
  | call i =>
    have hij : i ≠ j := fun h => ha (h ▸ rfl)
    simp only [step]
    split
    next stage _ => exact stepAttach_calls_of_ne hij stage
    next stage _ => exact stepClose_calls_of_ne hij stage
    next stage _ => exact stepSend_calls_of_ne hij stage
    next => rfl
  | deliver => rw [step_deliver_calls]
  | writerEnds => rw [step_writerEnds_calls]

theorem step_call_calls_of_ne {j' : Nat} (hj : j' ≠ j) :
    (s.step (.call j)).calls[j']? = s.calls[j']? := by
  have hne : Action.call j ≠ .call j' := fun h => hj (Action.call.inj h).symm
  rcases Nat.lt_or_ge j' s.calls.length with hlt | hge
  · exact step_calls_of_ne hlt hne
  · have hlen : (s.step (.call j)).calls.length = s.calls.length := by
      simp only [step]
      split
      next stage _ => exact length_stepAttach stage
      next stage _ => exact length_stepClose stage
      next stage _ => exact length_stepSend stage
      next => rfl
    rw [List.getElem?_eq_none hge, List.getElem?_eq_none (hlen ▸ hge)]

theorem step_close_returned {b : Bool} (hj : s.calls[j]? = some (.close (.returned b)))
    (a : Action) : (s.step a).calls[j]? = some (.close (.returned b)) := by
  by_cases ha : a = .call j
  · subst ha
    simp [step, hj, stepClose]
  · rw [step_calls_of_ne (List.getElem?_eq_some_iff.1 hj).1 ha, hj]

theorem attach_of_stepClose {stage : CloseStage} {st : AttachStage}
    (hj : (s.stepClose i stage).calls[j]? = some (.attach st)) : s.calls[j]? = some (.attach st) := by
  cases stage with
  | swap | dropOutgoing =>
    simp only [stepClose] at hj
    split at hj <;> exact getElem?_of_set (by simp) hj
  | dropWriter | abort => exact getElem?_of_set (by simp) hj
  | returned => exact hj

theorem attach_of_stepSend {stage : SendStage} {st : AttachStage}
    (hj : (s.stepSend i stage).calls[j]? = some (.attach st)) : s.calls[j]? = some (.attach st) := by
  cases stage with
  | push =>
    simp only [stepSend] at hj
    split at hj <;> exact getElem?_of_set (by simp) hj
  | load => exact getElem?_of_set (by simp) hj
  | returned => exact hj

theorem attach_of_step {a : Action} {st : AttachStage} (ha : a ≠ .call j)
    (hj : (s.step a).calls[j]? = some (.attach st)) : s.calls[j]? = some (.attach st) ∨ st = .take := by
  cases a with
  | close | send => exact .inl (Consistent.getElem?_of_append (by simp) hj)
  | attach =>
    by_cases hst : st = .take
    · exact .inr hst
    · exact .inl (Consistent.getElem?_of_append (by simpa using Ne.symm hst) hj)
  | call i =>
    have hij : i ≠ j := fun h => ha (h ▸ rfl)
    simp only [step] at hj
    split at hj
    next stage _ => exact .inl (by rwa [stepAttach_calls_of_ne hij] at hj)
    next stage _ => exact .inl (by rwa [stepClose_calls_of_ne hij] at hj)
    next stage _ => exact .inl (by rwa [stepSend_calls_of_ne hij] at hj)
    next => exact .inl hj
  | deliver => exact .inl (by rwa [step_deliver_calls] at hj)
  | writerEnds => exact .inl (by rwa [step_writerEnds_calls] at hj)

theorem countP_isAttach_stepAttach {stage : AttachStage} (hi : s.calls[i]? = some (.attach stage)) :
    (s.stepAttach i stage).calls.countP Caller.isAttach = s.calls.countP Caller.isAttach := by
  cases stage with
  | take | swap =>
    simp only [stepAttach]
    split <;> exact countP_set_of_eq hi rfl
  | spawn | register | recheck | abort => exact countP_set_of_eq hi rfl
  | returned => rfl

theorem countP_isAttach_stepClose {stage : CloseStage} (hi : s.calls[i]? = some (.close stage)) :
    (s.stepClose i stage).calls.countP Caller.isAttach = s.calls.countP Caller.isAttach := by
  cases stage with
  | swap | dropOutgoing =>
    simp only [stepClose]
    split <;> exact countP_set_of_eq hi rfl
  | dropWriter | abort => exact countP_set_of_eq hi rfl
  | returned => rfl

theorem countP_isAttach_stepSend {stage : SendStage} (hi : s.calls[i]? = some (.send stage)) :
    (s.stepSend i stage).calls.countP Caller.isAttach = s.calls.countP Caller.isAttach := by
  cases stage with
  | push =>
    simp only [stepSend]
    split <;> exact countP_set_of_eq hi rfl
  | load => exact countP_set_of_eq hi rfl
  | returned => rfl

theorem countP_isAttach_step (a : Action) :
    (s.step a).calls.countP Caller.isAttach =
      s.calls.countP Caller.isAttach + if a = .attach then 1 else 0 := by
  cases a with
  | attach | close | send => simp [step, Caller.isAttach]
  | call i =>
    simp only [step, reduceCtorEq, if_false, Nat.add_zero]
    split
    next stage hi => exact countP_isAttach_stepAttach hi
    next stage hi => exact countP_isAttach_stepClose hi
    next stage hi => exact countP_isAttach_stepSend hi
    next => rfl
  | deliver => simp [step_deliver_calls]
  | writerEnds => simp [step_writerEnds_calls]

theorem connecting_of_step {a : Action} (h : (s.step a).link = .connecting) :
    s.link = .connecting := by
  rcases s.step_link a with hsame | ⟨_, hto⟩ | ⟨_, hto⟩
  · rw [← hsame, h]
  · rw [h] at hto
    cases hto
  · rw [h] at hto
    cases hto

end State

/-- A session attached at most once settles: while it is connecting, the receiver is in its slot or
held by the attach. -/
structure Settling (s : State) : Prop where
  receiver : s.link = .connecting → s.receiver = .slot ∨ s.receiver = .held
  settled : ∀ (j : Nat) (stage : AttachStage), s.calls[j]? = some (.attach stage) →
    stage ≠ .take → stage ≠ .swap → s.link ≠ .connecting

namespace Settling

variable {s : State}

theorem init : Settling State.init where
  receiver _ := .inl rfl
  settled _ _ hj := by simp [State.init] at hj

/-- An attach that finds the receiver out of its slot while the session is connecting is a second
attach. -/
theorem slot_of_take (hc : Consistent s) (h : Settling s)
    (honce : s.calls.countP Caller.isAttach ≤ 1) {i : Nat} (hi : s.calls[i]? = some (.attach .take))
    (hlink : s.link = .connecting) : s.receiver = .slot := by
  rcases h.receiver hlink with hslot | hheld
  · exact hslot
  · have hholders := hc.holders
    rw [if_pos hheld] at hholders
    obtain ⟨d, hd, hholding⟩ := List.countP_pos_iff.1 (by omega : 0 < s.calls.countP Caller.holding)
    have hne : Caller.attach .take ≠ d := by
      rintro rfl
      cases hholding
    have hattach : d.isAttach = true := by
      cases d with
      | attach stage => rfl
      | close stage | send stage => cases hholding
    have := two_le_countP (List.mem_of_getElem? hi) hd hne rfl hattach
    omega

theorem step (hc : Consistent s) (h : Settling s) (honce : s.calls.countP Caller.isAttach ≤ 1)
    (a : Action) : Settling (s.step a) := by
  constructor
  case receiver =>
    intro hconn
    have hs := State.connecting_of_step hconn
    have hrec := h.receiver hs
    cases a with
    | attach | close | send => exact hrec
    | call i =>
      simp only [State.step] at hconn ⊢
      split
      next stage hi =>
        simp only [hi] at hconn
        cases stage with
        | take =>
          simp only [State.stepAttach]
          split
          · exact .inr rfl
          · exact hrec
        | swap =>
          simp only [State.stepAttach] at hconn ⊢
          split at hconn
          · simp at hconn
          · next hne => exact absurd hs hne
        | spawn =>
          exact absurd hs (h.settled i .spawn hi (by simp) (by simp))
        | register | recheck | abort | returned => exact hrec
      next stage hi =>
        cases stage with
        | dropOutgoing =>
          have hdisc : s.link = .disconnected := by
            have hpos : 0 < s.calls.countP Caller.closer :=
              List.countP_pos_iff.2 ⟨_, List.mem_of_getElem? hi, rfl⟩
            have := hc.closers
            split at this
            · assumption
            · omega
          rw [hs] at hdisc
          cases hdisc
        | swap =>
          simp only [State.stepClose]
          split <;> exact hrec
        | dropWriter | abort | returned => exact hrec
      next stage hi =>
        cases stage with
        | push =>
          simp only [State.stepSend]
          split <;> exact hrec
        | load | returned => exact hrec
      next => exact hrec
    | deliver =>
      simp only [State.step]
      split
      · split <;> exact hrec
      · exact hrec
    | writerEnds =>
      simp only [State.step]
      split
      · next hwriter => rcases hrec with hrec | hrec <;> rw [hwriter] at hrec <;> cases hrec
      · exact hrec
  case settled =>
    intro j stage hj htake hswap hconn
    have hs := State.connecting_of_step hconn
    by_cases ha : a = .call j
    · subst ha
      simp only [State.step] at hj hconn
      split at hj
      next st hi =>
        simp only [hi] at hconn
        cases st with
        | take =>
          simp only [State.stepAttach] at hj hconn
          split at hj
          · simp [List.getElem?_set_self (List.getElem?_eq_some_iff.1 hi).1] at hj
            exact hswap hj.symm
          · next hslot => exact hslot (slot_of_take hc h honce hi hs)
        | swap =>
          simp only [State.stepAttach] at hconn
          split at hconn
          · simp at hconn
          · next hne => exact hne hs
        | spawn | register | recheck | abort | returned =>
          exact h.settled j _ hi (by simp) (by simp) hs
      next st hi => simp [State.attach_of_stepClose hj] at hi
      next st hi => simp [State.attach_of_stepSend hj] at hi
      next hi => simp [hi] at hj
    · rcases State.attach_of_step ha hj with hprev | rfl
      · exact h.settled j stage hprev htake hswap hs
      · exact htake rfl

theorem link_of_attach_returned (h : Settling s) {j : Nat}
    (hj : s.calls[j]? = some (.attach .returned)) : s.link ≠ .connecting :=
  h.settled j .returned hj (by simp) (by simp)

end Settling

namespace Consistent

variable {s : State} {j j' : Nat}

/-- At most one close of a stream session answers `true`. -/
theorem eq_of_closed (h : Consistent s) (hj : s.calls[j]? = some (.close (.returned true)))
    (hj' : s.calls[j']? = some (.close (.returned true))) : j = j' := by
  by_contra hne
  have htwo := two_le_countP_of_ne (p := Caller.closer) (x := .close .swap) hj hj' hne rfl rfl rfl
  have hone := h.closers
  split at hone <;> omega

theorem countP_closed_le_one (h : Consistent s) :
    s.calls.countP (· == .close (.returned true)) ≤ 1 := by
  have hone : s.calls.countP Caller.closer ≤ 1 := by
    have := h.closers
    split at this <;> omega
  refine Nat.le_trans (List.countP_mono_left fun c _ hc => ?_) hone
  simp only [beq_iff_eq] at hc
  subst hc
  rfl

end Consistent

end Lifecycle

namespace ClientTasks

/-- A close that found the datagram session open: it goes on to abort the tasks and answers `true`. -/
def DatagramClose.closer : DatagramClose → Bool
  | .abort | .returned true => true
  | _ => false

namespace Datagram

variable {d : Datagram} {j : Nat}

theorem mem_set_of_ne {α : Type} {l : List α} {a b x : α} (hx : x ∈ l) (hj : l[j]? = some a)
    (hne : a ≠ x) : x ∈ l.set j b := by
  obtain ⟨n, hn, rfl⟩ := List.getElem_of_mem hx
  have hnj : j ≠ n := by
    rintro rfl
    exact hne (Option.some.inj (hj.symm.trans (List.getElem?_eq_getElem hn)))
  exact List.mem_of_getElem? (by rw [List.getElem?_set_ne hnj, List.getElem?_eq_getElem hn])

theorem step_call_closes_of_ne {j' : Nat} (hj : j' ≠ j) :
    (d.step (.call j)).closes[j']? = d.closes[j']? := by
  simp only [step]
  split
  · split <;> simp [List.getElem?_set_ne (Ne.symm hj)]
  · simp [List.getElem?_set_ne (Ne.symm hj)]
  · rfl

theorem answer_eq_some {b : Bool} : d.answer j = some b ↔ d.closes[j]? = some (.returned b) := by
  unfold answer
  split
  next closed hclosed => simp [hclosed]
  next hnone =>
    simp only [reduceCtorEq, false_iff]
    exact hnone b

/-- What every datagram session satisfies, whatever closes run on it: exactly one close found it
open once it is closed, and its tasks are aborted once that close is done. -/
structure Consistent (d : Datagram) : Prop where
  closers : d.closes.countP DatagramClose.closer = if d.isOpen then 0 else 1
  refused : DatagramClose.returned false ∈ d.closes → d.isOpen = false
  aborting : d.aborted = true ∨ d.isOpen = true ∨ DatagramClose.abort ∈ d.closes

namespace Consistent

theorem opened : Consistent Datagram.opened := ⟨rfl, by simp [Datagram.opened], .inr (.inl rfl)⟩

theorem step (h : Consistent d) (a : Action) : Consistent (d.step a) := by
  cases a with
  | close =>
    have hcount : (d.step .close).closes.countP DatagramClose.closer =
        d.closes.countP DatagramClose.closer := by
      simp [Datagram.step, DatagramClose.closer]
    refine ⟨hcount.trans h.closers, fun hmem => ?_, ?_⟩
    · simp only [Datagram.step, List.mem_append, List.mem_singleton, reduceCtorEq, or_false]
        at hmem
      exact h.refused hmem
    · rcases h.aborting with habort | hopen | hmem
      · exact .inl habort
      · exact .inr (.inl hopen)
      · exact .inr (.inr (List.mem_append_left _ hmem))
  | call j =>
    simp only [Datagram.step]
    split
    next hj =>
      split
      next hopen =>
        have hcount := Lifecycle.countP_set_of_enter (p := DatagramClose.closer) (b := .abort) hj
          rfl rfl
        have := h.closers
        rw [if_pos hopen] at this
        exact ⟨by simp only [if_false, Bool.false_eq_true]; omega, fun _ => rfl,
          .inr (.inr (List.mem_of_getElem? (List.getElem?_set_self
            (List.getElem?_eq_some_iff.1 hj).1)))⟩
      next hclosed =>
        have hcount := Lifecycle.countP_set_of_eq (p := DatagramClose.closer)
          (b := .returned false) hj rfl
        refine ⟨by simpa [hcount] using h.closers, fun _ => by simpa using hclosed, ?_⟩
        rcases h.aborting with habort | hopen | hmem
        · exact .inl habort
        · exact absurd hopen hclosed
        · exact .inr (.inr (mem_set_of_ne hmem hj (by simp)))
    next hj =>
      have hcount := Lifecycle.countP_set_of_eq (p := DatagramClose.closer) (b := .returned true)
        hj rfl
      refine ⟨by simpa [hcount] using h.closers, fun hmem => ?_, .inl rfl⟩
      rcases List.mem_or_eq_of_mem_set hmem with hmem | heq
      · exact h.refused hmem
      · cases heq
    next => exact h

theorem closed_of_answer (h : Consistent d) {b : Bool} (hj : d.answer j = some b) :
    d.isOpen = false := by
  have hmem : DatagramClose.returned b ∈ d.closes := by
    simp only [Datagram.answer] at hj
    split at hj
    next closed hclosed =>
      cases hj
      exact List.mem_of_getElem? hclosed
    next => cases hj
  cases b with
  | false => exact h.refused hmem
  | true =>
    have hpos : 0 < d.closes.countP DatagramClose.closer := List.countP_pos_iff.2 ⟨_, hmem, rfl⟩
    have := h.closers
    split at this
    · omega
    · next hopen => simpa using hopen

theorem closers_le_one (h : Consistent d) : d.closes.countP DatagramClose.closer ≤ 1 := by
  have := h.closers
  split at this <;> omega

/-- At most one close of a datagram session answers `true`. -/
theorem eq_of_answer_true (h : Consistent d) {j' : Nat} (hj : d.answer j = some true)
    (hj' : d.answer j' = some true) : j = j' := by
  by_contra hne
  have htwo := Lifecycle.two_le_countP_of_ne (p := DatagramClose.closer) (x := .swap)
    (answer_eq_some.1 hj) (answer_eq_some.1 hj') hne rfl rfl rfl
  have := h.closers_le_one
  omega

theorem countP_closed_le_one (h : Consistent d) : d.closes.countP (· == .returned true) ≤ 1 := by
  refine Nat.le_trans (List.countP_mono_left fun c _ hc => ?_) h.closers_le_one
  simp only [beq_iff_eq] at hc
  subst hc
  rfl

/-- Once every close has returned, and there was one, the session is closed and its tasks aborted. -/
theorem aborted_of_returned (h : Consistent d) (hsome : d.closes ≠ [])
    (hall : ∀ c ∈ d.closes, ∃ b, c = .returned b) : d.isOpen = false ∧ d.aborted = true := by
  obtain ⟨c, hc⟩ := List.exists_mem_of_ne_nil _ hsome
  obtain ⟨b, rfl⟩ := hall _ hc
  obtain ⟨n, hn, hnc⟩ := List.getElem_of_mem hc
  have hanswer : d.answer n = some b := by
    simp [Datagram.answer, List.getElem?_eq_getElem hn, hnc]
  have hclosed := h.closed_of_answer hanswer
  refine ⟨hclosed, ?_⟩
  rcases h.aborting with habort | hopen | hmem
  · exact habort
  · rw [hclosed] at hopen
    cases hopen
  · obtain ⟨b', hb'⟩ := hall _ hmem
    cases hb'

end Consistent

theorem length_closes_le_step (a : Action) : d.closes.length ≤ (d.step a).closes.length := by
  cases a with
  | close => simp [step]
  | call j =>
    simp only [step]
    split
    · split <;> simp
    · simp
    · exact Nat.le_refl _

theorem answer_step {b : Bool} (hj : d.answer j = some b) (a : Action) :
    (d.step a).answer j = some b := by
  have hret : d.closes[j]? = some (.returned b) := by
    simp only [answer] at hj
    split at hj
    next closed hclosed =>
      cases hj
      exact hclosed
    next => cases hj
  have hlt := (List.getElem?_eq_some_iff.1 hret).1
  cases a with
  | close => simp [step, answer, List.getElem?_append_left hlt, hret]
  | call n =>
    by_cases hnj : n = j
    · subst hnj
      simp [step, answer, hret]
    · simp only [step]
      split
      · split <;> simp [answer, List.getElem?_set_ne hnj, hret]
      · simp [answer, List.getElem?_set_ne hnj, hret]
      · simp [answer, hret]

end Datagram

namespace State

variable {s t : State} {i k u : Nat}

theorem stream_onStream (k' : Nat) (a : Lifecycle.Action) :
    (s.onStream k a).stream k' =
      if k = k' ∧ k < s.streams.length then (s.stream k).step a else s.stream k' := by
  simp only [stream, onStream_streams, List.getElem?_modify]
  by_cases hk : k = k'
  · subst hk
    by_cases hlt : k < s.streams.length
    · simp [hlt]
    · simp [hlt]
  · simp [hk]

theorem length_onStream_close (hk : k < s.streams.length) :
    (s.stream k).calls.length < ((s.onStream k .close).stream k).calls.length := by
  simp [stream_onStream, hk, Lifecycle.State.step]

theorem stream_newStream (k : Nat) : s.newStream.stream k = s.stream k := by
  simp only [stream, newStream_streams]
  rcases Nat.lt_or_ge k s.streams.length with hlt | hge
  · rw [List.getElem?_append_left hlt]
  · rw [List.getElem?_eq_none hge, List.getElem?_append_right hge]
    cases k - s.streams.length <;> simp

theorem datagram_onDatagram (u' : Nat) (a : Datagram.Action) :
    (s.onDatagram u a).datagram u' =
      if u = u' ∧ u < s.datagrams.length then (s.datagram u).step a else s.datagram u' := by
  simp only [datagram, onDatagram_datagrams, List.getElem?_modify]
  by_cases hu : u = u'
  · subst hu
    by_cases hlt : u < s.datagrams.length
    · simp [hlt]
    · simp [hlt]
  · simp [hu]

theorem length_onDatagram_close (hu : u < s.datagrams.length) :
    (s.datagram u).closes.length < ((s.onDatagram u .close).datagram u).closes.length := by
  simp [datagram_onDatagram, hu, Datagram.step]

theorem datagram_newDatagram (u : Nat) : s.newDatagram.datagram u = s.datagram u := by
  simp only [datagram, newDatagram_datagrams]
  rcases Nat.lt_or_ge u s.datagrams.length with hlt | hge
  · rw [List.getElem?_append_left hlt]
  · rw [List.getElem?_eq_none hge, List.getElem?_append_right hge]
    cases u - s.datagrams.length <;> simp

end State

/-- What a step does to the stream sessions, as `stream` sees them: nothing, or one step of one. -/
inductive StreamsStep (s t : State) : Prop
  | same : (∀ k, t.stream k = s.stream k) → StreamsStep s t
  | step (k : Nat) (a : Lifecycle.Action) :
      (∀ k', t.stream k' =
        if k = k' ∧ k < s.streams.length then (s.stream k).step a else s.stream k') →
      StreamsStep s t

/-- What a step does to the datagram sessions: nothing, or one step of one. -/
inductive DatagramsStep (s t : State) : Prop
  | same : (∀ u, t.datagram u = s.datagram u) → DatagramsStep s t
  | step (u : Nat) (a : Datagram.Action) :
      (∀ u', t.datagram u' =
        if u = u' ∧ u < s.datagrams.length then (s.datagram u).step a else s.datagram u') →
      DatagramsStep s t

/-- What a step of call `i` does besides moving the call on: at most one step of one stream and one
datagram session, and at most one dispatch, as call `i`. -/
structure Frame (s t : State) (i : Nat) : Prop where
  streams : StreamsStep s t
  datagrams : DatagramsStep s t
  trace : t.trace = s.trace ∨ ∃ e, t.trace = s.trace ++ [(i, e)]

namespace StreamsStep

theorem keeps {P : Lifecycle.State → Prop} (h : StreamsStep s t)
    (hP : ∀ x a, P x → P (x.step a)) (hs : P (s.stream k)) : P (t.stream k) := by
  cases h with
  | same hsame => rwa [hsame]
  | step k' a hstep =>
    rw [hstep]
    split
    next hk =>
      obtain ⟨rfl, -⟩ := hk
      exact hP _ a hs
    next => exact hs

theorem length_le (h : StreamsStep s t) (k : Nat) :
    (s.stream k).calls.length ≤ (t.stream k).calls.length :=
  h.keeps (P := fun x => (s.stream k).calls.length ≤ x.calls.length)
    (fun _ a hx => Nat.le_trans hx (Lifecycle.State.length_calls_le_step a)) (Nat.le_refl _)

end StreamsStep

namespace DatagramsStep

theorem keeps {P : Datagram → Prop} (h : DatagramsStep s t) (hP : ∀ x a, P x → P (x.step a))
    (hs : P (s.datagram u)) : P (t.datagram u) := by
  cases h with
  | same hsame => rwa [hsame]
  | step u' a hstep =>
    rw [hstep]
    split
    next hu =>
      obtain ⟨rfl, -⟩ := hu
      exact hP _ a hs
    next => exact hs

theorem length_le (h : DatagramsStep s t) (u : Nat) :
    (s.datagram u).closes.length ≤ (t.datagram u).closes.length :=
  h.keeps (P := fun x => (s.datagram u).closes.length ≤ x.closes.length)
    (fun _ a hx => Nat.le_trans hx (Datagram.length_closes_le_step a)) (Nat.le_refl _)

end DatagramsStep

/-- The steps a `connect_tcp` call `i` can take, each with the state it leaves. -/
inductive TcpStep (s : State) (i : Nat) (thenUdp : Bool) : TcpConnect → State → Prop
  | refuseClosed : s.closed = true → TcpStep s i thenUdp .ensureOpen
      (s.setCall i (.connectTcp thenUdp (.returned (.error (.invalidState "client has been closed")))))
  | ensureOpen : s.closed = false → TcpStep s i thenUdp .ensureOpen
      (s.setCall i (.connectTcp thenUdp .check))
  | refuseConnected : s.tcpConnected = true → TcpStep s i thenUdp .check
      (s.setCall i (.connectTcp thenUdp (.returned (.error (.invalidState "TCP is already connected")))))
  | check : s.tcpConnected = false → TcpStep s i thenUdp .check
      (s.setCall i (.connectTcp thenUdp .await))
  | fail (e : IoError) : TcpStep s i thenUdp .await
      ((s.dispatch i (.failed .connectTcp (.io e))).setCall i
        (.connectTcp thenUdp (.returned (.error (.io e)))))
  | connect : TcpStep s i thenUdp .await
      (s.newStream.setCall i (.connectTcp thenUdp (.announce s.streams.length)))
  | announce (k : Nat) : TcpStep s i thenUdp (.announce k)
      (((s.dispatch i (.connected .tcp)).onStream k .attach).setCall i
        (.connectTcp thenUdp (.attach k (s.stream k).calls.length)))
  | attached (k j : Nat) : s.attachReturned k j = true → TcpStep s i thenUdp (.attach k j)
      (s.setCall i (if thenUdp then .connectUdp true .ensureOpen
        else .connectTcp false (.returned (.ok ()))))
  | attach (k j : Nat) : s.attachReturned k j = false → TcpStep s i thenUdp (.attach k j)
      ((s.onStream k (.call j)).setCall i (.connectTcp thenUdp (.attach k j)))
  | returned (r : Except NetError Unit) : TcpStep s i thenUdp (.returned r) s

inductive UdpStep (s : State) (i : Nat) (closeTcp : Bool) : UdpConnect → State → Prop
  | refuseClosed : s.closed = true → UdpStep s i closeTcp .ensureOpen
      (s.setCall i (State.udpReturns closeTcp (.error (.invalidState "client has been closed"))))
  | ensureOpen : s.closed = false → UdpStep s i closeTcp .ensureOpen
      (s.setCall i (.connectUdp closeTcp .check))
  | refuseConnected : s.udpConnected = true → UdpStep s i closeTcp .check
      (s.setCall i (State.udpReturns closeTcp (.error (.invalidState "UDP is already connected"))))
  | check : s.udpConnected = false → UdpStep s i closeTcp .check
      (s.setCall i (.connectUdp closeTcp .await))
  | fail (e : IoError) : UdpStep s i closeTcp .await
      (s.setCall i (State.udpReturns closeTcp (.error (.io e))))
  | connect : UdpStep s i closeTcp .await
      (s.newDatagram.setCall i (.connectUdp closeTcp (.store s.datagrams.length)))
  | store (u : Nat) : UdpStep s i closeTcp (.store u)
      (({ s with udp := some u } : State).setCall i (.connectUdp closeTcp .announce))
  | announce : UdpStep s i closeTcp .announce
      ((s.dispatch i (.connected .udp)).setCall i (State.udpReturns closeTcp (.ok ())))
  | returned (r : Except NetError Unit) : UdpStep s i closeTcp (.returned r) s

inductive DisconnectStep (s : State) (i : Nat) (notify : Bool) : Disconnect → State → Prop
  | takeTcp : DisconnectStep s i notify .takeTcp
      (({ s with tcp := none } : State).setCall i (.disconnect notify (.takeUdp s.tcp)))
  | takeUdp (k : Nat) : DisconnectStep s i notify (.takeUdp (some k))
      ((({ s with udp := none } : State).onStream k .close).setCall i
        (.disconnect notify (.closeTcp (k, (s.stream k).calls.length) s.udp)))
  | takeDatagram (u : Nat) : s.udp = some u → DisconnectStep s i notify (.takeUdp none)
      ((({ s with udp := none } : State).onDatagram u .close).setCall i
        (.disconnect notify (.closeUdp none (u, (s.datagram u).closes.length) false)))
  | takeNothing : s.udp = none → DisconnectStep s i notify (.takeUdp none)
      (s.setCall i (.disconnect notify (.notify none none false)))
  | closeDatagram (k j u : Nat) (b : Bool) : s.streamAnswer k j = some b →
      DisconnectStep s i notify (.closeTcp (k, j) (some u))
        ((s.onDatagram u .close).setCall i
          (.disconnect notify (.closeUdp (some (k, j)) (u, (s.datagram u).closes.length) b)))
  | streamClosed (k j : Nat) (b : Bool) : s.streamAnswer k j = some b →
      DisconnectStep s i notify (.closeTcp (k, j) none)
        (s.setCall i (.disconnect notify (.notify (some (k, j)) none b)))
  | awaitStream (k j : Nat) (udp : Option Nat) : s.streamAnswer k j = none →
      DisconnectStep s i notify (.closeTcp (k, j) udp)
        ((s.onStream k (.call j)).setCall i (.disconnect notify (.closeTcp (k, j) udp)))
  | datagramClosed (tcp : Option (Nat × Nat)) (u j : Nat) (closed b : Bool) :
      (s.datagram u).answer j = some b → DisconnectStep s i notify (.closeUdp tcp (u, j) closed)
        (s.setCall i (.disconnect notify (.notify tcp (some (u, j)) (closed || b))))
  | awaitDatagram (tcp : Option (Nat × Nat)) (u j : Nat) (closed : Bool) :
      (s.datagram u).answer j = none → DisconnectStep s i notify (.closeUdp tcp (u, j) closed)
        ((s.onDatagram u (.call j)).setCall i (.disconnect notify (.closeUdp tcp (u, j) closed)))
  | tell (tcp udp : Option (Nat × Nat)) (closed : Bool) : (closed && notify) = true →
      DisconnectStep s i notify (.notify tcp udp closed)
        ((s.dispatch i (.disconnected .both)).setCall i (.disconnect notify (.returned tcp udp closed)))
  | quiet (tcp udp : Option (Nat × Nat)) (closed : Bool) : (closed && notify) = false →
      DisconnectStep s i notify (.notify tcp udp closed)
        (s.setCall i (.disconnect notify (.returned tcp udp closed)))
  | returned (tcp udp : Option (Nat × Nat)) (closed : Bool) :
      DisconnectStep s i notify (.returned tcp udp closed) s

inductive CloseTcpStep (s : State) (i : Nat) (error : NetError) : CloseTcp → State → Prop
  | take (k : Nat) : s.tcp = some k → CloseTcpStep s i error .take
      ((({ s with tcp := none } : State).onStream k .close).setCall i
        (.closeTcp error (.close (k, (s.stream k).calls.length))))
  | takeNothing : s.tcp = none → CloseTcpStep s i error .take
      (s.setCall i (.closeTcp error (.returned none false)))
  | tell (k j : Nat) : s.streamAnswer k j = some true → CloseTcpStep s i error (.close (k, j))
      ((s.dispatch i (.disconnected .tcp)).setCall i (.closeTcp error (.returned (some (k, j)) true)))
  | quiet (k j : Nat) : s.streamAnswer k j = some false → CloseTcpStep s i error (.close (k, j))
      (s.setCall i (.closeTcp error (.returned (some (k, j)) false)))
  | await (k j : Nat) : s.streamAnswer k j = none → CloseTcpStep s i error (.close (k, j))
      ((s.onStream k (.call j)).setCall i (.closeTcp error (.close (k, j))))
  | returned (tcp : Option (Nat × Nat)) (closed : Bool) :
      CloseTcpStep s i error (.returned tcp closed) s

inductive DropTcpStep (s : State) (i k : Nat) : DropTcp → State → Prop
  | current : s.tcp = some k → DropTcpStep s i k .check (s.setCall i (.disconnect true .takeTcp))
  | close : s.tcp ≠ some k → DropTcpStep s i k .check
      ((s.onStream k .close).setCall i (.dropTcp k (.close (s.stream k).calls.length)))
  | closed (j : Nat) (b : Bool) : s.streamAnswer k j = some b → DropTcpStep s i k (.close j)
      (s.setCall i (.dropTcp k .returned))
  | await (j : Nat) : s.streamAnswer k j = none → DropTcpStep s i k (.close j)
      ((s.onStream k (.call j)).setCall i (.dropTcp k (.close j)))
  | returned : DropTcpStep s i k .returned s

inductive DropUdpStep (s : State) (i u : Nat) : DropUdp → State → Prop
  | current : s.udp = some u → DropUdpStep s i u .take
      ((({ s with udp := none } : State).onDatagram u .close).setCall i
        (.dropUdp u (.close true (s.datagram u).closes.length)))
  | other : s.udp ≠ some u → DropUdpStep s i u .take
      ((s.onDatagram u .close).setCall i (.dropUdp u (.close false (s.datagram u).closes.length)))
  | tell (j : Nat) : (s.datagram u).answer j = some true → DropUdpStep s i u (.close true j)
      ((s.dispatch i (.disconnected .udp)).setCall i (.dropUdp u (.returned true j true)))
  | quiet (current : Bool) (j : Nat) (b : Bool) : (s.datagram u).answer j = some b →
      (current && b) = false → DropUdpStep s i u (.close current j)
        (s.setCall i (.dropUdp u (.returned current j b)))
  | await (current : Bool) (j : Nat) : (s.datagram u).answer j = none →
      DropUdpStep s i u (.close current j)
        ((s.onDatagram u (.call j)).setCall i (.dropUdp u (.close current j)))
  | returned (current : Bool) (j : Nat) (closed : Bool) :
      DropUdpStep s i u (.returned current j closed) s

inductive CloseStep (s : State) (i : Nat) : Close → State → Prop
  | closed : s.closed = true → CloseStep s i .swap (s.setCall i (.close .returned))
  | swap : s.closed = false → CloseStep s i .swap
      (({ s with closed := true } : State).setCall i (.disconnect false .takeTcp))
  | returned : CloseStep s i .returned s

namespace State

variable {s : State} {i : Nat}

theorem tcpStep (thenUdp : Bool) (o : Except IoError Unit) (stage : TcpConnect) :
    TcpStep s i thenUdp stage (s.stepTcpConnect i thenUdp o stage) := by
  cases stage with
  | ensureOpen =>
    simp only [stepTcpConnect]
    split
    next h => exact .refuseClosed h
    next h => exact .ensureOpen (by simpa using h)
  | check =>
    simp only [stepTcpConnect]
    split
    next h => exact .refuseConnected h
    next h => exact .check (by simpa using h)
  | await =>
    simp only [stepTcpConnect]
    split
    next e => exact .fail e
    next => exact .connect
  | announce k => exact .announce k
  | attach k j =>
    simp only [stepTcpConnect]
    split
    next h => exact .attached k j h
    next h => exact .attach k j (by simpa using h)
  | returned r => exact .returned r

theorem udpStep (closeTcp : Bool) (o : Except IoError Unit) (stage : UdpConnect) :
    UdpStep s i closeTcp stage (s.stepUdpConnect i closeTcp o stage) := by
  cases stage with
  | ensureOpen =>
    simp only [stepUdpConnect]
    split
    next h => exact .refuseClosed h
    next h => exact .ensureOpen (by simpa using h)
  | check =>
    simp only [stepUdpConnect]
    split
    next h => exact .refuseConnected h
    next h => exact .check (by simpa using h)
  | await =>
    simp only [stepUdpConnect]
    split
    next e => exact .fail e
    next => exact .connect
  | store u => exact .store u
  | announce => exact .announce
  | returned r => exact .returned r

theorem disconnectStep (notify : Bool) (d : Disconnect) :
    DisconnectStep s i notify d (s.stepDisconnect i notify d) := by
  cases d with
  | takeTcp => exact .takeTcp
  | takeUdp tcp =>
    cases tcp with
    | some k => exact .takeUdp k
    | none =>
      simp only [stepDisconnect]
      split
      next u hu => exact .takeDatagram u hu
      next hu => exact .takeNothing hu
  | closeTcp tcp udp =>
    obtain ⟨k, j⟩ := tcp
    simp only [stepDisconnect]
    split
    next _ _ b u hb => exact .closeDatagram k j u b hb
    next _ _ b hb => exact .streamClosed k j b hb
    next _ _ _ hb => exact .awaitStream k j _ hb
  | closeUdp tcp udp closed =>
    obtain ⟨u, j⟩ := udp
    simp only [stepDisconnect]
    split
    next b hb => exact .datagramClosed tcp u j closed b hb
    next hb => exact .awaitDatagram tcp u j closed hb
  | notify tcp udp closed =>
    simp only [stepDisconnect]
    split
    next h => exact .tell tcp udp closed h
    next h => exact .quiet tcp udp closed (by simpa using h)
  | returned tcp udp closed => exact .returned tcp udp closed

theorem closeTcpStep (error : NetError) (c : CloseTcp) :
    CloseTcpStep s i error c (s.stepCloseTcp i error c) := by
  cases c with
  | take =>
    simp only [stepCloseTcp]
    split
    next k hk => exact .take k hk
    next hk => exact .takeNothing hk
  | close tcp =>
    obtain ⟨k, j⟩ := tcp
    simp only [stepCloseTcp]
    split
    next b hb =>
      cases b
      · exact .quiet k j hb
      · exact .tell k j hb
    next hb => exact .await k j hb
  | returned tcp closed => exact .returned tcp closed

theorem dropTcpStep (k : Nat) (d : DropTcp) : DropTcpStep s i k d (s.stepDropTcp i k d) := by
  cases d with
  | check =>
    simp only [stepDropTcp]
    split
    next h => exact .current h
    next h => exact .close h
  | close j =>
    simp only [stepDropTcp]
    split
    next b hb => exact .closed j b hb
    next hb => exact .await j hb
  | returned => exact .returned

theorem dropUdpStep (u : Nat) (d : DropUdp) : DropUdpStep s i u d (s.stepDropUdp i u d) := by
  cases d with
  | take =>
    simp only [stepDropUdp]
    split
    next h =>
      have hcurrent : decide (s.udp = some u) = true := decide_eq_true h
      rw [hcurrent]
      exact .current h
    next h =>
      have hcurrent : decide (s.udp = some u) = false := decide_eq_false h
      rw [hcurrent]
      exact .other h
  | close current j =>
    simp only [stepDropUdp]
    split
    next b hb =>
      split
      next htell =>
        obtain ⟨rfl, rfl⟩ := Bool.and_eq_true_iff.1 htell
        exact .tell j hb
      next hquiet => exact .quiet current j b hb (by simpa using hquiet)
    next hb => exact .await current j hb
  | returned current j closed => exact .returned current j closed

theorem closeStep (c : Close) : CloseStep s i c (s.stepClose i c) := by
  cases c with
  | swap =>
    simp only [stepClose]
    split
    next h => exact .closed h
    next h => exact .swap (by simpa using h)
  | returned => exact .returned

end State

namespace State

variable {s : State} {i : Nat}

theorem frame_stepDisconnect (notify : Bool) (d : Disconnect) :
    Frame s (s.stepDisconnect i notify d) i := by
  have hstep := disconnectStep (s := s) (i := i) notify d
  generalize s.stepDisconnect i notify d = t at hstep
  cases hstep with
  | takeUdp k =>
    exact ⟨.step k .close fun k' => stream_onStream (s := { s with udp := none }) k' .close,
      .same fun _ => rfl, .inl rfl⟩
  | takeDatagram u _ =>
    exact ⟨.same fun _ => rfl,
      .step u .close fun u' => datagram_onDatagram (s := { s with udp := none }) u' .close, .inl rfl⟩
  | closeDatagram k j u b _ =>
    exact ⟨.same fun _ => rfl, .step u .close fun u' => datagram_onDatagram u' .close, .inl rfl⟩
  | awaitStream k j udp _ =>
    exact ⟨.step k (.call j) fun k' => stream_onStream k' _, .same fun _ => rfl, .inl rfl⟩
  | awaitDatagram tcp u j closed _ =>
    exact ⟨.same fun _ => rfl, .step u (.call j) fun u' => datagram_onDatagram u' _, .inl rfl⟩
  | tell tcp udp closed _ => exact ⟨.same fun _ => rfl, .same fun _ => rfl, .inr ⟨_, rfl⟩⟩
  | _ => exact ⟨.same fun _ => rfl, .same fun _ => rfl, .inl rfl⟩

theorem frame_stepTcpConnect (thenUdp : Bool) (o : Except IoError Unit) (t : TcpConnect) :
    Frame s (s.stepTcpConnect i thenUdp o t) i := by
  have hstep := tcpStep (s := s) (i := i) thenUdp o t
  generalize s.stepTcpConnect i thenUdp o t = t' at hstep
  cases hstep with
  | fail e => exact ⟨.same fun _ => rfl, .same fun _ => rfl, .inr ⟨_, rfl⟩⟩
  | connect => exact ⟨.same stream_newStream, .same fun _ => rfl, .inl rfl⟩
  | announce k =>
    exact ⟨.step k .attach fun k' => stream_onStream (s := s.dispatch i _) k' .attach,
      .same fun _ => rfl, .inr ⟨_, rfl⟩⟩
  | attach k j _ =>
    exact ⟨.step k (.call j) fun k' => stream_onStream k' _, .same fun _ => rfl, .inl rfl⟩
  | _ => exact ⟨.same fun _ => rfl, .same fun _ => rfl, .inl rfl⟩

theorem frame_stepUdpConnect (closeTcp : Bool) (o : Except IoError Unit) (u : UdpConnect) :
    Frame s (s.stepUdpConnect i closeTcp o u) i := by
  have hstep := udpStep (s := s) (i := i) closeTcp o u
  generalize s.stepUdpConnect i closeTcp o u = t at hstep
  cases hstep with
  | connect => exact ⟨.same fun _ => rfl, .same datagram_newDatagram, .inl rfl⟩
  | announce => exact ⟨.same fun _ => rfl, .same fun _ => rfl, .inr ⟨_, rfl⟩⟩
  | _ => exact ⟨.same fun _ => rfl, .same fun _ => rfl, .inl rfl⟩

theorem frame_stepCloseTcp (e : NetError) (c : CloseTcp) : Frame s (s.stepCloseTcp i e c) i := by
  have hstep := closeTcpStep (s := s) (i := i) e c
  generalize s.stepCloseTcp i e c = t at hstep
  cases hstep with
  | take k _ =>
    exact ⟨.step k .close fun k' => stream_onStream (s := { s with tcp := none }) k' .close,
      .same fun _ => rfl, .inl rfl⟩
  | tell k j _ => exact ⟨.same fun _ => rfl, .same fun _ => rfl, .inr ⟨_, rfl⟩⟩
  | await k j _ =>
    exact ⟨.step k (.call j) fun k' => stream_onStream k' _, .same fun _ => rfl, .inl rfl⟩
  | _ => exact ⟨.same fun _ => rfl, .same fun _ => rfl, .inl rfl⟩

theorem frame_stepDropTcp (k : Nat) (d : DropTcp) : Frame s (s.stepDropTcp i k d) i := by
  have hstep := dropTcpStep (s := s) (i := i) k d
  generalize s.stepDropTcp i k d = t at hstep
  cases hstep with
  | close _ => exact ⟨.step k .close fun k' => stream_onStream k' _, .same fun _ => rfl, .inl rfl⟩
  | await j _ =>
    exact ⟨.step k (.call j) fun k' => stream_onStream k' _, .same fun _ => rfl, .inl rfl⟩
  | _ => exact ⟨.same fun _ => rfl, .same fun _ => rfl, .inl rfl⟩

theorem frame_stepDropUdp (u : Nat) (d : DropUdp) : Frame s (s.stepDropUdp i u d) i := by
  have hstep := dropUdpStep (s := s) (i := i) u d
  generalize s.stepDropUdp i u d = t at hstep
  cases hstep with
  | current _ =>
    exact ⟨.same fun _ => rfl,
      .step u .close fun u' => datagram_onDatagram (s := { s with udp := none }) u' .close, .inl rfl⟩
  | other _ =>
    exact ⟨.same fun _ => rfl, .step u .close fun u' => datagram_onDatagram u' _, .inl rfl⟩
  | tell j _ => exact ⟨.same fun _ => rfl, .same fun _ => rfl, .inr ⟨_, rfl⟩⟩
  | await current j _ =>
    exact ⟨.same fun _ => rfl, .step u (.call j) fun u' => datagram_onDatagram u' _, .inl rfl⟩
  | _ => exact ⟨.same fun _ => rfl, .same fun _ => rfl, .inl rfl⟩

theorem frame_stepClose (c : Close) : Frame s (s.stepClose i c) i := by
  cases c with
  | swap =>
    simp only [stepClose]
    split <;> exact ⟨.same fun _ => rfl, .same fun _ => rfl, .inl rfl⟩
  | returned => exact ⟨.same fun _ => rfl, .same fun _ => rfl, .inl rfl⟩

/-- The calls a step starts, each at its first stage. -/
inductive Starts (s : State) : Caller → Prop
  | connectTcp (thenUdp : Bool) : Starts s (.connectTcp thenUdp .ensureOpen)
  | connectUdp (closeTcp : Bool) : Starts s (.connectUdp closeTcp .ensureOpen)
  | refusedTcp (e : NetError) : Starts s (.connectTcp false (.returned (.error e)))
  | refusedUdp (e : NetError) : Starts s (.connectUdp false (.returned (.error e)))
  | disconnect : Starts s (.disconnect true .takeTcp)
  | close : Starts s (.close .swap)
  | dropTcp (k : Nat) : k < s.streams.length → Starts s (.dropTcp k .check)
  | dropUdp (u : Nat) : u < s.datagrams.length → Starts s (.dropUdp u .take)

/-- A step changes nothing, starts a call, or takes the next step of a call made. -/
theorem step_cases (a : Action) :
    s.step a = s ∨ (∃ c, s.Starts c ∧ s.step a = s.start c) ∨
      ∃ (i : Nat) (c : Caller) (o : Except IoError Unit), s.calls[i]? = some c ∧
        s.step a = s.stepCall i o c := by
  cases a with
  | connect =>
    refine .inr (.inl ⟨_, ?_, rfl⟩)
    split
    · exact .connectTcp _
    · exact .connectUdp _
  | connectTcp =>
    refine .inr (.inl ⟨_, ?_, rfl⟩)
    unfold firstStage
    split
    · exact .connectTcp _
    · exact .refusedTcp _
  | connectUdp =>
    refine .inr (.inl ⟨_, ?_, rfl⟩)
    unfold firstStage
    split
    · exact .connectUdp _
    · exact .refusedUdp _
  | disconnect => exact .inr (.inl ⟨_, .disconnect, rfl⟩)
  | close => exact .inr (.inl ⟨_, .close, rfl⟩)
  | dropTcp k =>
    by_cases hk : k < s.streams.length
    · exact .inr (.inl ⟨_, .dropTcp k hk, by simp [step, hk]⟩)
    · exact .inl (by simp [step, hk])
  | dropUdp u =>
    by_cases hu : u < s.datagrams.length
    · exact .inr (.inl ⟨_, .dropUdp u hu, by simp [step, hu]⟩)
    · exact .inl (by simp [step, hu])
  | call i =>
    cases hc : s.calls[i]? with
    | none => exact .inl (by simp [step, hc])
    | some c => exact .inr (.inr ⟨i, c, .ok (), hc, by simp [step, hc]⟩)
  | fail i e =>
    cases hc : s.calls[i]? with
    | none => exact .inl (by simp [step, hc])
    | some c => exact .inr (.inr ⟨i, c, .error e, hc, by simp [step, hc]⟩)

theorem getElem?_start {c d : Caller} (hd : s.calls[i]? = some d) : (s.start c).calls[i]? = some d := by
  rw [start_calls, List.getElem?_append_left (List.getElem?_eq_some_iff.1 hd).1]
  exact hd

end State

namespace Caller

/-- The stream sessions a call holds by number, to attach to or to close. -/
def streamsHeld : Caller → List Nat
  | .connectTcp _ (.announce k) | .connectTcp _ (.attach k _) => [k]
  | .disconnect _ (.takeUdp tcp) => tcp.toList
  | .dropTcp k _ => [k]
  | _ => []

def datagramsHeld : Caller → List Nat
  | .connectUdp _ (.store u) => [u]
  | .disconnect _ (.closeTcp _ udp) => udp.toList
  | .dropUdp u _ => [u]
  | _ => []

theorem held_udpReturns (closeTcp : Bool) (result : Except NetError Unit) :
    (State.udpReturns closeTcp result).streamsHeld = [] ∧
      (State.udpReturns closeTcp result).datagramsHeld = [] := by
  unfold State.udpReturns
  split <;> exact ⟨rfl, rfl⟩

end Caller

/-- Every session number in a slot or held by a call is of a session made. -/
structure Bounded (s : State) : Prop where
  tcp : ∀ k, s.tcp = some k → k < s.streams.length
  udp : ∀ u, s.udp = some u → u < s.datagrams.length
  streams : ∀ (i : Nat) (c : Caller), s.calls[i]? = some c →
    ∀ k ∈ c.streamsHeld, k < s.streams.length
  datagrams : ∀ (i : Nat) (c : Caller), s.calls[i]? = some c →
    ∀ u ∈ c.datagramsHeld, u < s.datagrams.length

namespace Bounded

variable {s t : State} {i : Nat}

theorem init (p : Protocol) : Bounded (State.init p) where
  tcp := by simp [State.init]
  udp := by simp [State.init]
  streams := by simp [State.init]
  datagrams := by simp [State.init]

theorem move (h : Bounded s) {c' : Caller} (hS : s.streams.length ≤ t.streams.length)
    (hD : s.datagrams.length ≤ t.datagrams.length) (hcalls : t.calls = s.calls.set i c')
    (htcp : ∀ k, t.tcp = some k → k < t.streams.length)
    (hudp : ∀ u, t.udp = some u → u < t.datagrams.length)
    (hstreams : ∀ k ∈ c'.streamsHeld, k < t.streams.length)
    (hdatagrams : ∀ u ∈ c'.datagramsHeld, u < t.datagrams.length) : Bounded t := by
  constructor
  case tcp => exact htcp
  case udp => exact hudp
  case streams =>
    intro j d hj k hk
    rw [hcalls] at hj
    rcases Lifecycle.getElem?_set_eq_some hj with ⟨_, rfl⟩ | ⟨_, hj⟩
    · exact hstreams k hk
    · exact Nat.lt_of_lt_of_le (h.streams j d hj k hk) hS
  case datagrams =>
    intro j d hj u hu
    rw [hcalls] at hj
    rcases Lifecycle.getElem?_set_eq_some hj with ⟨_, rfl⟩ | ⟨_, hj⟩
    · exact hdatagrams u hu
    · exact Nat.lt_of_lt_of_le (h.datagrams j d hj u hu) hD

theorem plain (h : Bounded s) {c' : Caller} (hS : t.streams.length = s.streams.length)
    (hD : t.datagrams.length = s.datagrams.length) (hcalls : t.calls = s.calls.set i c')
    (htcp : t.tcp = s.tcp) (hudp : t.udp = s.udp) (hc' : c'.streamsHeld = [] ∧ c'.datagramsHeld = []) :
    Bounded t := by
  refine h.move (Nat.le_of_eq hS.symm) (Nat.le_of_eq hD.symm) hcalls (fun k hk => ?_) (fun u hu => ?_) (by simp [hc'.1])
    (by simp [hc'.2])
  · rw [hS]
    exact h.tcp k (htcp ▸ hk)
  · rw [hD]
    exact h.udp u (hudp ▸ hu)

theorem stepTcpConnect (h : Bounded s) {thenUdp : Bool} {stage : TcpConnect}
    (hi : s.calls[i]? = some (.connectTcp thenUdp stage)) (outcome : Except IoError Unit) :
    Bounded (s.stepTcpConnect i thenUdp outcome stage) := by
  have hstep := State.tcpStep (s := s) (i := i) thenUdp outcome stage
  generalize s.stepTcpConnect i thenUdp outcome stage = t at hstep
  cases hstep with
  | connect =>
    exact h.move (by simp) (by simp) rfl (by simp) (by simpa using h.udp)
      (by simp [Caller.streamsHeld]) (by simp [Caller.datagramsHeld])
  | announce k | attach k j _ =>
    have hk := h.streams i _ hi k (by simp [Caller.streamsHeld])
    exact h.move (by simp) (by simp) rfl (by simpa using h.tcp) (by simpa using h.udp)
      (by simpa [Caller.streamsHeld] using hk) (by simp [Caller.datagramsHeld])
  | attached k j _ => cases thenUdp <;> exact h.plain rfl rfl rfl rfl rfl ⟨rfl, rfl⟩
  | returned result => exact h
  | _ => exact h.plain rfl rfl rfl rfl rfl ⟨rfl, rfl⟩

theorem stepUdpConnect (h : Bounded s) {closeTcp : Bool} {stage : UdpConnect}
    (hi : s.calls[i]? = some (.connectUdp closeTcp stage)) (outcome : Except IoError Unit) :
    Bounded (s.stepUdpConnect i closeTcp outcome stage) := by
  have hstep := State.udpStep (s := s) (i := i) closeTcp outcome stage
  generalize s.stepUdpConnect i closeTcp outcome stage = t at hstep
  cases hstep with
  | refuseClosed _ | refuseConnected _ | fail _ | announce =>
    exact h.plain rfl rfl rfl rfl rfl (Caller.held_udpReturns _ _)
  | connect =>
    exact h.move (by simp) (by simp) rfl (by simpa using h.tcp)
      (by simpa using fun u hu => Nat.lt_succ_of_lt (h.udp u hu))
      (by simp [Caller.streamsHeld]) (by simp [Caller.datagramsHeld])
  | store u =>
    have hu := h.datagrams i _ hi u (by simp [Caller.datagramsHeld])
    exact h.move (Nat.le_refl _) (Nat.le_refl _) rfl h.tcp (by simpa using hu)
      (by simp [Caller.streamsHeld]) (by simp [Caller.datagramsHeld])
  | returned result => exact h
  | _ => exact h.plain rfl rfl rfl rfl rfl ⟨rfl, rfl⟩

theorem stepDisconnect (h : Bounded s) {n : Bool} {d : Disconnect}
    (hi : s.calls[i]? = some (.disconnect n d)) : Bounded (s.stepDisconnect i n d) := by
  have hstep := State.disconnectStep (s := s) (i := i) n d
  generalize s.stepDisconnect i n d = t at hstep
  cases hstep with
  | takeTcp =>
    exact h.move (Nat.le_refl _) (Nat.le_refl _) rfl (by simp) h.udp
      (by simpa [Caller.streamsHeld] using h.tcp) (by simp [Caller.datagramsHeld])
  | takeUdp k =>
    exact h.move (by simp) (by simp) rfl (by simpa using h.tcp) (by simp)
      (by simp [Caller.streamsHeld]) (by simpa [Caller.datagramsHeld] using h.udp)
  | takeDatagram u _ =>
    exact h.move (by simp) (by simp) rfl (by simpa using h.tcp) (by simp)
      (by simp [Caller.streamsHeld]) (by simp [Caller.datagramsHeld])
  | closeDatagram k j u b _ | awaitDatagram tcp u j closed _ =>
    exact h.move (by simp) (by simp) rfl (by simpa using h.tcp) (by simpa using h.udp)
      (by simp [Caller.streamsHeld]) (by simp [Caller.datagramsHeld])
  | awaitStream k j udp _ =>
    exact h.move (by simp) (by simp) rfl (by simpa using h.tcp) (by simpa using h.udp)
      (by simp [Caller.streamsHeld]) (by simpa using h.datagrams i _ hi)
  | returned tcp udp closed => exact h
  | _ => exact h.plain rfl rfl rfl rfl rfl ⟨rfl, rfl⟩

theorem stepCloseTcp (h : Bounded s) {error : NetError} {stage : CloseTcp} :
    Bounded (s.stepCloseTcp i error stage) := by
  have hstep := State.closeTcpStep (s := s) (i := i) error stage
  generalize s.stepCloseTcp i error stage = t at hstep
  cases hstep with
  | take k _ =>
    exact h.move (by simp) (by simp) rfl (by simp) (by simpa using h.udp)
      (by simp [Caller.streamsHeld]) (by simp [Caller.datagramsHeld])
  | await k j _ =>
    exact h.move (by simp) (by simp) rfl (by simpa using h.tcp) (by simpa using h.udp)
      (by simp [Caller.streamsHeld]) (by simp [Caller.datagramsHeld])
  | returned tcp closed => exact h
  | _ => exact h.plain rfl rfl rfl rfl rfl ⟨rfl, rfl⟩

theorem stepDropTcp (h : Bounded s) {k : Nat} {stage : DropTcp}
    (hi : s.calls[i]? = some (.dropTcp k stage)) : Bounded (s.stepDropTcp i k stage) := by
  have hk := h.streams i _ hi k (by simp [Caller.streamsHeld])
  have hstep := State.dropTcpStep (s := s) (i := i) k stage
  generalize s.stepDropTcp i k stage = t at hstep
  cases hstep with
  | current _ => exact h.plain rfl rfl rfl rfl rfl ⟨rfl, rfl⟩
  | returned => exact h
  | _ =>
    exact h.move (by simp) (by simp) rfl (by simpa using h.tcp) (by simpa using h.udp)
      (by simpa [Caller.streamsHeld] using hk) (by simp [Caller.datagramsHeld])

theorem stepDropUdp (h : Bounded s) {u : Nat} {stage : DropUdp}
    (hi : s.calls[i]? = some (.dropUdp u stage)) : Bounded (s.stepDropUdp i u stage) := by
  have hu := h.datagrams i _ hi u (by simp [Caller.datagramsHeld])
  have hstep := State.dropUdpStep (s := s) (i := i) u stage
  generalize s.stepDropUdp i u stage = t at hstep
  cases hstep with
  | current _ =>
    exact h.move (by simp) (by simp) rfl (by simpa using h.tcp) (by simp)
      (by simp [Caller.streamsHeld]) (by simpa [Caller.datagramsHeld] using hu)
  | returned current j closed => exact h
  | _ =>
    exact h.move (by simp) (by simp) rfl (by simpa using h.tcp) (by simpa using h.udp)
      (by simp [Caller.streamsHeld]) (by simpa [Caller.datagramsHeld] using hu)

theorem stepClose (h : Bounded s) {stage : Close} : Bounded (s.stepClose i stage) := by
  have hstep := State.closeStep (s := s) (i := i) stage
  generalize s.stepClose i stage = t at hstep
  cases hstep with
  | returned => exact h
  | _ => exact h.plain rfl rfl rfl rfl rfl ⟨rfl, rfl⟩

theorem stepCall (h : Bounded s) {c : Caller} (hi : s.calls[i]? = some c)
    (outcome : Except IoError Unit) : Bounded (s.stepCall i outcome c) := by
  cases c with
  | connectTcp thenUdp stage => exact h.stepTcpConnect hi outcome
  | connectUdp closeTcp stage => exact h.stepUdpConnect hi outcome
  | closeTcp error stage => exact h.stepCloseTcp
  | disconnect n stage => exact h.stepDisconnect hi
  | close stage => exact h.stepClose
  | dropTcp k stage => exact h.stepDropTcp hi
  | dropUdp u stage => exact h.stepDropUdp hi

theorem start (h : Bounded s) {c : Caller} (hS : ∀ k ∈ c.streamsHeld, k < s.streams.length)
    (hD : ∀ u ∈ c.datagramsHeld, u < s.datagrams.length) : Bounded (s.start c) := by
  constructor
  case tcp => exact h.tcp
  case udp => exact h.udp
  case streams =>
    intro j d hj
    rw [State.start_calls] at hj
    rcases Lifecycle.getElem?_append_eq_some hj with hj | ⟨-, rfl⟩
    · exact h.streams j d hj
    · exact hS
  case datagrams =>
    intro j d hj
    rw [State.start_calls] at hj
    rcases Lifecycle.getElem?_append_eq_some hj with hj | ⟨-, rfl⟩
    · exact h.datagrams j d hj
    · exact hD

theorem step (h : Bounded s) (a : Action) : Bounded (s.step a) := by
  rcases s.step_cases a with hs | ⟨c, hc, hs⟩ | ⟨i, c, o, hi, hs⟩ <;> rw [hs]
  · exact h
  · exact h.start (by cases hc <;> simp [Caller.streamsHeld, *])
      (by cases hc <;> simp [Caller.datagramsHeld, *])
  · exact h.stepCall hi o

theorem run (h : Bounded s) (actions : List Action) : Bounded (s.run actions) := by
  induction actions generalizing s with
  | nil => exact h
  | cons a actions ih => exact ih (h.step a)

end Bounded

end ClientTasks

end FrameLink
