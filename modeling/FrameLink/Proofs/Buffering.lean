import FrameLink.Proofs.Reassembly

/-! Bounded buffering. Between pushes a reassembler holds the start of one frame it will accept:
fewer bytes than a length prefix, or a length prefix announcing a positive length within the limit
followed by fewer bytes than that length (`PartialFrame`). A push that fails holds nothing. So a
reassembler never holds more than three bytes past its frame limit, whatever pieces it is fed: the
announced length is checked against zero and the limit before the push waits for the payload.

The bytes held between pushes are those the reference reading leaves over (`Waiting`, from the
chunking proof); what is proved here is the shape of such bytes, and that every operation keeps
it. Main statement: `performAll_holds_partial_frame`. -/

namespace FrameLink.Reassembler

open FrameLink.Frame

/-- The start of one frame the reader accepts: fewer bytes than a length prefix, or a prefix
announcing a positive length within `limit` and fewer bytes than that after it. -/
def PartialFrame (limit : Nat) (pending : List UInt8) : Prop :=
  pending.length < prefixSize ∨
    prefixSize ≤ pending.length ∧ 0 < announced pending ∧ (announced pending).toNat ≤ limit ∧
      pending.length < prefixSize + (announced pending).toNat

/-- A partial frame is at most three bytes longer than the frame limit. -/
theorem PartialFrame.length_le {limit : Nat} {pending : List UInt8}
    (h : PartialFrame limit pending) : pending.length ≤ limit + 3 := by
  rcases h with hshort | ⟨-, -, hlimit, hbody⟩
  · simp only [prefixSize] at hshort
    omega
  · simp only [prefixSize] at hbody
    omega

/-- Bytes the reference reading leaves over are a partial frame. -/
theorem Waiting.partialFrame {r : Reassembler} (h : r.Waiting) : PartialFrame r.limit r.pending := by
  have hparse : parse r.limit r.pending = ([], .incomplete r.pending) := h
  by_cases hshort : r.pending.length < prefixSize
  · exact .inl hshort
  have hheader : prefixSize ≤ r.pending.length := by omega
  have hpos : 0 < announced r.pending := Int.not_le.1 fun hle => by
    rw [parse_nonpositive hheader hle] at hparse
    simp at hparse
  have hlimit : (announced r.pending).toNat ≤ r.limit := Nat.not_lt.1 fun hgt => by
    rw [parse_too_large hheader hpos hgt] at hparse
    simp at hparse
  refine .inr ⟨hheader, hpos, hlimit, Nat.not_le.1 fun hwhole => ?_⟩
  rw [parse_frame hpos hlimit hwhole] at hparse
  simp at hparse

theorem push_pending_of_error {r : Reassembler} {data : List UInt8} {e : NetError}
    (h : (r.push data).error = some e) : (r.push data).next.pending = [] := by
  rw [push_eq] at h ⊢
  cases hstop : (parse r.limit (r.pending ++ data)).2 with
  | incomplete rest => simp [hstop] at h
  | refused e' => simp

/-- Step lemma: every operation keeps the limit and leaves the reassembler waiting, and one that
answers a refusal leaves it holding nothing. -/
theorem perform_waiting {r : Reassembler} (hr : r.Waiting) (c : Command) :
    (r.perform c).1.limit = r.limit ∧ (r.perform c).1.Waiting ∧
      ∀ frames e, (r.perform c).2 = .pushed frames (some e) → (r.perform c).1.pending = [] := by
  cases c with
  | push data =>
    refine ⟨rfl, waiting_push r data, ?_⟩
    rintro frames e hreply
    simp only [perform, Reply.pushed.injEq] at hreply
    exact push_pending_of_error hreply.2
  | clear =>
    exact ⟨rfl, parse_short (by simp [perform, clear, prefixSize]), fun _ _ h => by cases h⟩
  | buffered => exact ⟨rfl, hr, fun _ _ h => by cases h⟩

/-- Run lemma: along every run from a waiting reassembler the limit stays, the reassembler waits,
and a refused push leaves nothing held. -/
theorem performAll_waiting {r : Reassembler} (hr : r.Waiting) (cmds : List Command) :
    ∀ x ∈ r.performAll cmds, x.1.limit = r.limit ∧ x.1.Waiting ∧
      ∀ frames e, x.2 = .pushed frames (some e) → x.1.pending = [] := by
  induction cmds generalizing r with
  | nil => simp [performAll]
  | cons c rest ih =>
    obtain ⟨hlimit, hnext, hrefused⟩ := perform_waiting hr c
    intro x hx
    simp only [performAll, List.mem_cons] at hx
    rcases hx with rfl | hx
    · exact ⟨hlimit, hnext, hrefused⟩
    · obtain ⟨hlimit', hwaiting, hrefused'⟩ := ih hnext x hx
      exact ⟨hlimit'.trans hlimit, hwaiting, hrefused'⟩

/-- On a fresh reassembler with limit `m`, every operation leaves the start of one accepted frame, so
at most `m + 3` bytes, and a failed push leaves nothing. -/
theorem performAll_holds_partial_frame (m : Nat) (cmds : List Command) :
    ∀ x ∈ (new m).performAll cmds,
      PartialFrame m x.1.pending ∧ x.1.buffered ≤ m + 3 ∧
        ∀ frames e, x.2 = .pushed frames (some e) → x.1.buffered = 0 := by
  intro x hx
  obtain ⟨hlimit, hwaiting, hrefused⟩ := performAll_waiting (waiting_new m) cmds x hx
  have hpartial : PartialFrame m x.1.pending := by
    have hshape := hwaiting.partialFrame
    rw [hlimit] at hshape
    exact hshape
  refine ⟨hpartial, hpartial.length_le, fun frames e hreply => ?_⟩
  simp [buffered, hrefused frames e hreply]

/-- A prefix announcing eight bytes and three bytes of payload behind it wait within the limit. -/
theorem eight_byte_frame_waits_within_limit :
    (new 8).perform (.push [8, 0, 0, 0, 1, 2, 3]) ∈ (new 8).performAll [.push [8, 0, 0, 0, 1, 2, 3]] ∧
      ((new 8).perform (.push [8, 0, 0, 0, 1, 2, 3])).1.buffered ≤ 8 + 3 := by
  have hmem : (new 8).perform (.push [8, 0, 0, 0, 1, 2, 3]) ∈
      (new 8).performAll [.push [8, 0, 0, 0, 1, 2, 3]] := List.mem_cons_self ..
  exact ⟨hmem, (performAll_holds_partial_frame 8 _ _ hmem).2.1⟩

end FrameLink.Reassembler
