import FrameLink.Proofs.Framing
import FrameLink.Session.Writer

/-! What the writer of a stream session puts on the connection. Each queued frame is written in
turn, whole when its write completes and cut to the bytes that went out when it fails or runs out of
time (`writeStream_eq_parts`). When a failure ends the session, nothing follows a write that was cut
short: the connection carries some frames whole and then a prefix of the next one (`Aligned`), so
the peer's reassembler hands out exactly the packets written whole, in order, and never a frame made
of bytes of two queued frames (`cut_write_ends_stream`).

When a failure does not end the session, the writer goes on with the next frame after a cut write.
The stream then loses its alignment: a write cut after the length prefix of one frame, followed by
the next frame, makes the peer hand out a frame of bytes from both
(`writer_resumes_after_cut_write`). -/

namespace FrameLink

/-- The bytes a write puts on the connection: all of them when it completes, those that went out
when it was cut short. -/
def WriteOutcome.part (data : List UInt8) : WriteOutcome → List UInt8
  | .complete => data
  | .cut written _ => data.take written

/-- The connection carries some of the frames whole, in order, then a prefix of the next one. -/
def Aligned (frames : List (List UInt8)) (sent : List UInt8) : Prop :=
  ∃ j q, sent = (frames.take j).flatten ++ q ∧ q <+: (frames.drop j).headD []

/-- A writer that goes on after failures writes each frame in turn, whole or cut. -/
theorem writeStream_eq_parts (frames : List (List UInt8)) (outcomes : List WriteOutcome) :
    (writeStream false frames outcomes).1 =
      (List.zipWith (fun data outcome => outcome.part data) frames outcomes).flatten := by
  induction frames generalizing outcomes with
  | nil => simp [writeStream]
  | cons data rest ih =>
    cases outcomes with
    | nil => simp [writeStream]
    | cons outcome outcomes =>
      cases outcome with
      | complete => simp [writeStream, WriteOutcome.part, ih]
      | cut written e => simp [writeStream, WriteOutcome.part, ih]

theorem aligned_writeStream (frames : List (List UInt8)) (outcomes : List WriteOutcome) :
    Aligned frames (writeStream true frames outcomes).1 := by
  induction frames generalizing outcomes with
  | nil => exact ⟨0, [], by simp [writeStream], List.nil_prefix⟩
  | cons data rest ih =>
    cases outcomes with
    | nil => exact ⟨0, [], by simp [writeStream], List.nil_prefix⟩
    | cons outcome outcomes =>
      cases outcome with
      | complete =>
        obtain ⟨j, q, hsent, hq⟩ := ih outcomes
        refine ⟨j + 1, q, ?_, by simpa using hq⟩
        simp [writeStream, hsent]
      | cut written e =>
        exact ⟨0, data.take written, by simp [writeStream], by simpa using List.take_prefix _ _⟩

namespace Frame

variable {limit : Nat} {p : Packet}

theorem length_wire (p : Packet) : (wire p).length = prefixSize + p.length := by
  rw [wire, List.length_append, LittleEndian.encodeInt_length]
  rfl

theorem parse_wire_refused (hrefused : p.length = 0 ∨ limit < p.length) (hfits : p.length ≤ i32Max)
    (more : List UInt8) :
    (parse limit (wire p ++ more)).1 = [] ∧ ∃ e, (parse limit (wire p ++ more)).2 = .refused e := by
  have hann : announced (wire p ++ more) = p.length := by
    rw [wire, List.append_assoc, announced_wire hfits]
  have hlong : prefixSize ≤ (wire p ++ more).length := by
    rw [List.length_append, length_wire]
    omega
  rcases hrefused with hempty | hlarge
  · rw [parse_nonpositive hlong (by omega)]
    exact ⟨rfl, _, rfl⟩
  · rw [parse_too_large hlong (by omega) (by rw [hann, Int.toNat_natCast]; exact hlarge)]
    exact ⟨rfl, _, rfl⟩

/-- The receiver reads the frames of packets a signed word can count as a prefix of those packets:
it stops at the first packet it refuses. -/
theorem parse_wires_front {ps : List Packet} (hfits : ∀ p ∈ ps, p.length ≤ i32Max)
    (more : List UInt8) :
    (parse limit ((ps.map wire).flatten ++ more)).1 <+: ps.map Packet.bytes ++ (parse limit more).1 := by
  induction ps with
  | nil => exact List.prefix_refl _
  | cons p rest ih =>
    have hrest := ih (fun q hq => hfits q (List.mem_cons_of_mem p hq))
    rw [List.map_cons, List.flatten_cons, List.append_assoc]
    by_cases haccepted : 0 < p.length ∧ p.length ≤ limit
    · rw [parse_wire_append haccepted.1 haccepted.2 (hfits p List.mem_cons_self)]
      exact (List.prefix_cons_inj _).2 hrest
    · rw [(parse_wire_refused (by omega) (hfits p List.mem_cons_self) _).1]
      exact List.nil_prefix

theorem parse_prefix_wire {q : List UInt8} (hq : q <+: wire p) (hfits : p.length ≤ i32Max) :
    (parse limit q).1 <+: [p.bytes] ∧
      (0 < p.length → p.length ≤ limit → ∃ rest, (parse limit q).2 = .incomplete rest) := by
  by_cases hall : q = wire p
  · subst hall
    have hone := @parse_wires_front limit [p] (by simpa using hfits) []
    rw [parse_short (show ([] : List UInt8).length < prefixSize by decide)] at hone
    refine ⟨by simpa using hone, fun hpos hlimit => ?_⟩
    rw [← List.append_nil (wire p), parse_wire_append hpos hlimit hfits, parse_short (by decide)]
    exact ⟨_, rfl⟩
  by_cases hshort : q.length < prefixSize
  · rw [parse_short hshort]
    exact ⟨List.nil_prefix, fun _ _ => ⟨_, rfl⟩⟩
  obtain ⟨t, ht⟩ := hq
  have hann : announced q = p.length := by
    rw [← announced_append t (by omega), ht, wire, announced_wire hfits]
  have hlt : q.length < prefixSize + p.length := by
    have hlen := congrArg List.length ht
    rw [List.length_append, length_wire] at hlen
    have : 0 < t.length := List.length_pos_iff.2 fun h => hall (by simpa [h] using ht)
    omega
  by_cases hlimit : p.length ≤ limit
  · rw [parse_waiting (by omega) (by rw [hann, Int.toNat_natCast]; exact hlimit)
      (by rw [hann, Int.toNat_natCast]; exact hlt) (by omega)]
    exact ⟨List.nil_prefix, fun _ _ => ⟨_, rfl⟩⟩
  · rw [parse_too_large (by omega) (by omega) (by rw [hann, Int.toNat_natCast]; omega)]
    exact ⟨List.nil_prefix, fun _ h => absurd h hlimit⟩

end Frame

namespace Reassembler

open FrameLink.Frame

/-- The peer reads an aligned stream, in any pieces, as a prefix of the packets, and with every push
succeeding when it accepts every packet. -/
theorem pushAll_aligned {limit : Nat} {ps : List Packet} (hfits : ∀ p ∈ ps, p.length ≤ i32Max)
    {sent : List UInt8} (haligned : Aligned (ps.map wire) sent)
    {chunks : List (List UInt8)} (hchunks : chunks.flatten = sent) :
    ((new limit).pushAll chunks).frames.map Packet.bytes <+: ps.map Packet.bytes ∧
      ((∀ p ∈ ps, 0 < p.length ∧ p.length ≤ limit) →
        ((new limit).pushAll chunks).error = none) := by
  obtain ⟨j, q, hsent, hq⟩ := haligned
  have htake : ∀ p ∈ ps.take j, p.length ≤ i32Max := fun p hp => hfits p (List.mem_of_mem_take hp)
  have hrest : (parse limit q).1 <+: ((ps.drop j).take 1).map Packet.bytes ∧
      ((∀ p ∈ ps, 0 < p.length ∧ p.length ≤ limit) →
        ∃ rest, (parse limit q).2 = .incomplete rest) := by
    rw [← List.map_drop] at hq
    rcases hdrop : ps.drop j with _ | ⟨p, more⟩
    · rw [hdrop] at hq
      rw [List.prefix_nil.1 hq, parse_short (by decide)]
      exact ⟨List.nil_prefix, fun _ => ⟨_, rfl⟩⟩
    · rw [hdrop] at hq
      have hp : p ∈ ps := List.mem_of_mem_drop (hdrop ▸ List.mem_cons_self)
      obtain ⟨hfront, hwaiting⟩ : (parse limit q).1 <+: [p.bytes] ∧ _ := parse_prefix_wire hq (hfits p hp)
      exact ⟨by simpa using hfront, fun hall => hwaiting (hall p hp).1 (hall p hp).2⟩
  obtain ⟨hframes, herror, -⟩ := pushAll_new_eq_parse limit chunks
  rw [hchunks, hsent, ← List.map_take] at hframes herror
  obtain ⟨hfront, hwaiting⟩ := hrest
  refine ⟨?_, fun hall => ?_⟩
  · have hnext : (ps.take j).map Packet.bytes ++ ((ps.drop j).take 1).map Packet.bytes <+:
        ps.map Packet.bytes := by
      rw [← List.map_append]
      apply List.IsPrefix.map
      conv => rhs; rw [← List.take_append_drop j ps]
      exact (List.prefix_append_right_inj _).2 (List.take_prefix 1 _)
    rw [hframes, List.map_map]
    simp only [Function.comp_def, Packet.ofBytes, List.map_id']
    exact (parse_wires_front htake q).trans (((List.prefix_append_right_inj _).2 hfront).trans hnext)
  · have haccepted : ∀ p ∈ ps.take j, 0 < p.length ∧ p.length ≤ limit ∧ p.length ≤ i32Max :=
      fun p hp => ⟨(hall p (List.mem_of_mem_take hp)).1, (hall p (List.mem_of_mem_take hp)).2,
        htake p hp⟩
    obtain ⟨rest, hincomplete⟩ := hwaiting hall
    rw [herror, parse_wires haccepted, hincomplete]
    rfl

end Reassembler

/-- A writer that ends the session on a failure keeps the stream aligned: whole frames, then a prefix
of the next, which the peer reads in any pieces as a prefix of the queued packets. -/
theorem cut_write_ends_stream (ps : List Packet) (hfits : ∀ p ∈ ps, p.length ≤ i32Max)
    (outcomes : List WriteOutcome) :
    ps.mapM encodeFrame = .ok (ps.map Frame.wire) ∧
      Aligned (ps.map Frame.wire) (writeStream true (ps.map Frame.wire) outcomes).1 ∧
      (∀ (limit : Nat) (chunks : List (List UInt8)),
        chunks.flatten = (writeStream true (ps.map Frame.wire) outcomes).1 →
        ((Reassembler.new limit).pushAll chunks).frames.map Packet.bytes <+: ps.map Packet.bytes ∧
          ((∀ p ∈ ps, 0 < p.length ∧ p.length ≤ limit) →
            ((Reassembler.new limit).pushAll chunks).error = none)) ∧
      (writeStream false (ps.map Frame.wire) outcomes).1 =
        (List.zipWith (fun data outcome => outcome.part data) (ps.map Frame.wire) outcomes).flatten :=
  ⟨Frame.mapM_encodeFrame hfits, aligned_writeStream _ outcomes,
    fun _ _ hchunks => Reassembler.pushAll_aligned hfits (aligned_writeStream _ outcomes) hchunks,
    writeStream_eq_parts _ outcomes⟩

/-- The second write runs out of time after three bytes: the peer hands out the first packet alone. -/
theorem cut_write_leaves_whole_frames :
    let ps := [Packet.ofBytes [0xAA], Packet.ofBytes [0xBB, 0xCC]]
    let sent := (writeStream true (ps.map Frame.wire) [.complete, .cut 3 (.timedOut "write")]).1
    (∀ p ∈ ps, p.length ≤ i32Max) ∧ sent = [1, 0, 0, 0, 0xAA, 2, 0, 0] ∧
      ((Reassembler.new 16).pushAll [sent]).frames.map Packet.bytes <+: ps.map Packet.bytes ∧
      ((Reassembler.new 16).pushAll [sent]).error = none := by
  intro ps sent
  have hfits : ∀ p ∈ ps, p.length ≤ i32Max := by decide
  have hrun := (cut_write_ends_stream ps hfits [.complete, .cut 3 (.timedOut "write")]).2.2.1 16
    [sent] List.flatten_singleton
  exact ⟨hfits, rfl, hrun.1, hrun.2 (by decide)⟩

open FrameLink.Frame in
/-- A writer that goes on after a cut write loses alignment: the peer reads a frame made of the
first frame's prefix and the second frame's first byte. -/
theorem writer_resumes_after_cut_write :
    [Packet.ofBytes [0xAA], Packet.ofBytes [0xBB]].mapM encodeFrame =
        .ok [[1, 0, 0, 0, 0xAA], [1, 0, 0, 0, 0xBB]] ∧
      (writeStream false [[1, 0, 0, 0, 0xAA], [1, 0, 0, 0, 0xBB]]
        [.cut 4 (.timedOut "write"), .complete]).1 = [1, 0, 0, 0, 1, 0, 0, 0, 0xBB] ∧
      ¬Aligned [[1, 0, 0, 0, 0xAA], [1, 0, 0, 0, 0xBB]] [1, 0, 0, 0, 1, 0, 0, 0, 0xBB] ∧
      ((Reassembler.new).pushAll [[1, 0, 0, 0, 1, 0, 0, 0, 0xBB]]).frames.map Packet.bytes =
        [[1]] := by
  refine ⟨rfl, rfl, ?_, ?_⟩
  · rintro ⟨j, q, hsent, hq⟩
    match j, hsent, hq with
    | 0, hsent, hq =>
      simp only [List.take_zero, List.flatten_nil, List.nil_append] at hsent
      have hlength := hq.length_le
      simp [← hsent] at hlength
    | 1, hsent, _ => simp at hsent
    | j + 2, hsent, _ =>
      have hlength := congrArg List.length hsent
      simp at hlength
  · rw [(Reassembler.pushAll_new_eq_parse _ _).1, List.flatten_singleton,
      parse_frame (by decide) (by decide) (by decide)]
    have hann : announced [1, 0, 0, 0, 1, 0, 0, 0, 0xBB] = 1 := by decide
    have hrest : parse Reassembler.defaultLimit
        ([1, 0, 0, 0, 1, 0, 0, 0, 0xBB].drop (prefixSize + (1 : Int).toNat)) =
          ([], .refused (.invalidFrameLength (announced [0, 0, 0, 0xBB]))) :=
      parse_nonpositive (by decide) (by decide)
    rw [hann, hrest]
    rfl

end FrameLink
