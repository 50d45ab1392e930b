import FrameLink.Proofs.Reassembly

/-! Frames from the sender to the receiver. The sender writes a packet as its length, a signed
32-bit little-endian word, followed by its whole content; the receiver cuts the stream back into
payloads. Every packet the receiver can accept (not empty, within the frame limit) comes out whole
and in order, whatever pieces the stream arrives in, and nothing stays pending.

An empty packet is the exception: it is written with the length 0, and the receiver refuses a
length prefix that is not positive (`empty_packet_frame_refused`). -/

namespace FrameLink

/-- The bytes of a packet on the stream: its length as a signed 32-bit little-endian word, then its
whole content. -/
def Frame.wire (p : Packet) : List UInt8 := LittleEndian.encodeInt 4 p.length ++ p.bytes

namespace Frame

open Reassembler

theorem encode_i32_ofNat (n : Nat) :
    (Value.i32 (Int32.ofNat n)).encode = LittleEndian.encodeInt 4 n := by
  simp only [Value.encode, Int32.toUInt32_ofNat', UInt32.toNat_ofNat', LittleEndian.encodeInt]
  congr 1

theorem writeLength_of_le {p : Packet} (hfits : p.length ≤ i32Max) :
    p.writeLength = .ok { p with bytes := wire p } := by
  simp only [Packet.writeLength, hfits, if_true, Packet.insertFront, encode_i32_ofNat, wire]

/-- Writing a frame never looks at the cursor: the length and the whole content, or a refusal for
content a signed 32-bit word cannot count. -/
theorem encodeFrame_eq (p : Packet) :
    encodeFrame p =
      if p.length ≤ i32Max then .ok (wire p) else .error (.frameTooLarge p.length i32Max) := by
  by_cases hfits : p.length ≤ i32Max
  · rw [encodeFrame, writeLength_of_le hfits, if_pos hfits]
    rfl
  · simp only [encodeFrame, Packet.writeLength, hfits, if_false, Except.map]

theorem mapM_encodeFrame {ps : List Packet} (hps : ∀ p ∈ ps, p.length ≤ i32Max) :
    ps.mapM encodeFrame = .ok (ps.map wire) := by
  induction ps with
  | nil => rfl
  | cons p rest ih =>
      have hp : encodeFrame p = .ok (wire p) := by
        rw [encodeFrame_eq, if_pos (hps p (List.mem_cons_self ..))]
      rw [List.mapM_cons, hp, ih (fun q hq => hps q (List.mem_cons_of_mem p hq))]
      rfl

theorem decodeInt_encodeInt {n : Nat} (h : n ≤ i32Max) :
    LittleEndian.decodeInt (LittleEndian.encodeInt 4 n) = n := by
  have hrange : Nat.pow 2 (8 * 4) = 4294967296 := rfl
  have hword : LittleEndian.encodeInt 4 n = LittleEndian.encode 4 n := by
    rw [LittleEndian.encodeInt, hrange]
    congr 1
    simp only [i32Max] at h
    omega
  have hvalue : LittleEndian.decode (LittleEndian.encode 4 n) = n := by
    rw [LittleEndian.decode_encode, hrange]
    simp only [i32Max] at h
    omega
  rw [hword, LittleEndian.decodeInt, hvalue, LittleEndian.length_encode, hrange]
  simp only [i32Max] at h
  rw [if_pos (by omega)]

theorem announced_wire {n : Nat} (h : n ≤ i32Max) (rest : List UInt8) :
    announced (LittleEndian.encodeInt 4 n ++ rest) = n := by
  have hwidth : (LittleEndian.encodeInt 4 n).length = prefixSize := LittleEndian.encodeInt_length 4 n
  rw [announced, List.take_left' hwidth, decodeInt_encodeInt h]

/-- A packet the receiver accepts is cut off the front of the stream as its own content. -/
theorem parse_wire_append {limit : Nat} {p : Packet} (hpos : 0 < p.length)
    (hlimit : p.length ≤ limit) (hfits : p.length ≤ i32Max) (more : List UInt8) :
    parse limit (wire p ++ more) = (p.bytes :: (parse limit more).1, (parse limit more).2) := by
  have hann : announced (wire p ++ more) = p.length := by
    rw [wire, List.append_assoc, announced_wire hfits]
  have hprefix : (LittleEndian.encodeInt 4 p.length).length = prefixSize :=
    LittleEndian.encodeInt_length 4 p.length
  have hlength : (wire p ++ more).length = prefixSize + p.length + more.length := by
    rw [wire, List.length_append, List.length_append, hprefix]
    rfl
  have hbody : (wire p ++ more).drop prefixSize = p.bytes ++ more := by
    rw [wire, List.append_assoc, List.drop_left' hprefix]
  have hrest : (wire p ++ more).drop (prefixSize + p.length) = more := by
    rw [← List.drop_drop, hbody]
    exact List.drop_left' rfl
  rw [parse_frame (by omega) (by omega) (by rw [hann, hlength]; omega), hann, Int.toNat_natCast,
    hrest, hbody, List.take_left' (show p.bytes.length = p.length from rfl)]

theorem parse_wires {limit : Nat} {ps : List Packet}
    (hps : ∀ p ∈ ps, 0 < p.length ∧ p.length ≤ limit ∧ p.length ≤ i32Max) (more : List UInt8) :
    parse limit ((ps.map wire).flatten ++ more) =
      (ps.map Packet.bytes ++ (parse limit more).1, (parse limit more).2) := by
  induction ps with
  | nil => rfl
  | cons p rest ih =>
      obtain ⟨hpos, hlimit, hfits⟩ := hps p (List.mem_cons_self ..)
      rw [List.map_cons, List.flatten_cons, List.append_assoc, parse_wire_append hpos hlimit hfits,
        ih (fun q hq => hps q (List.mem_cons_of_mem p hq))]
      rfl

end Frame

namespace Reassembler

open FrameLink.Frame

/-- Non-empty packets within the frame limit, written as frames and cut into any pieces, come out of
a fresh reassembler whole and in order, every push succeeding. -/
theorem encoded_frames_reassemble (limit : Nat) (ps : List Packet)
    (hps : ∀ p ∈ ps, 0 < p.length ∧ p.length ≤ limit ∧ p.length ≤ i32Max) :
    (∀ p : Packet, encodeFrame p =
      if p.length ≤ i32Max then .ok (wire p) else .error (.frameTooLarge p.length i32Max)) ∧
    ps.mapM encodeFrame = .ok (ps.map wire) ∧
    ∀ chunks : List (List UInt8), chunks.flatten = (ps.map wire).flatten →
      let run := (new limit).pushAll chunks
      run.error = none ∧ run.pushes = chunks.length ∧
        run.frames.map Packet.bytes = ps.map Packet.bytes ∧ run.last.buffered = 0 := by
  refine ⟨encodeFrame_eq, mapM_encodeFrame (fun p hp => (hps p hp).2.2), ?_⟩
  intro chunks hchunks
  have hwhole : parse limit chunks.flatten = (ps.map Packet.bytes, .incomplete []) := by
    rw [hchunks, ← List.append_nil (ps.map wire).flatten, parse_wires hps,
      parse_short (by simp [prefixSize])]
    simp
  obtain ⟨hframes, herror, hlast⟩ := pushAll_new_eq_parse limit chunks
  rw [hwhole] at hframes herror hlast
  refine ⟨herror, pushAll_pushes_of_error_eq_none _ _ herror, ?_, ?_⟩
  · rw [hframes, List.map_map]
    exact List.map_id _
  · rw [buffered, hlast]
    rfl

/-- Two packets written as frames and cut across their prefixes come out as they went in. -/
theorem two_frames_across_pieces :
    let run := (new 8).pushAll [[1, 0, 0], [0, 7, 3, 0], [0, 0, 1, 2, 3]]
    run.error = none ∧ run.frames.map Packet.bytes = [[7], [1, 2, 3]] := by
  have hround := encoded_frames_reassemble 8 [Packet.ofBytes [7], Packet.ofBytes [1, 2, 3]]
    (by decide)
  obtain ⟨herror, -, hframes, -⟩ := hround.2.2 [[1, 0, 0], [0, 7, 3, 0], [0, 0, 1, 2, 3]] rfl
  exact ⟨herror, hframes⟩

/-- An empty packet is written with the length 0, which the receiver refuses. -/
theorem empty_packet_frame_refused :
    encodeFrame Packet.empty = .ok [0, 0, 0, 0] ∧
      ((new 16).pushAll [[0, 0, 0, 0]]).error = some (.invalidFrameLength 0) := by
  refine ⟨rfl, ?_⟩
  rw [(pushAll_new_eq_parse 16 _).2.1, List.flatten_singleton,
    parse_nonpositive (by decide) (by decide)]
  rfl

end Reassembler

end FrameLink
