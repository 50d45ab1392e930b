import FrameLink.Proofs.Codec
import FrameLink.Frame.Datagram

/-! Datagrams from the sender to the two receivers. A datagram is the sender's identity when one is
given, an unsigned 32-bit little-endian word, then the packet as a frame; it is refused when it is
longer than one datagram carries. The client's receiver reads the frame at the start; the server's
receiver in identity mode first reads the identity, and only a datagram with bytes after it goes on
to the frame. Both take exactly the announced payload and ignore what follows it.

As on the stream, the empty packet does not come through: its length prefix 0 is refused by both
receivers (`empty_packet_datagram_refused`). -/

namespace FrameLink

namespace Frame

/-- The bytes of the datagram of a packet: the sender's identity when given, then the frame. -/
def datagramWire (p : Packet) (id : Option ClientId) : List UInt8 :=
  (match id with
    | some k => LittleEndian.encode 4 k.toNat
    | none => []) ++ wire p

theorem prefixSize_le_length_wire (p : Packet) : prefixSize ≤ (wire p).length := by
  simp [wire, LittleEndian.encodeInt_length, prefixSize]

theorem encodeDatagram_eq {p : Packet} (hfits : p.length ≤ i32Max) (id : Option ClientId) :
    encodeDatagram p id =
      if (datagramWire p id).length ≤ maxDatagramSize then .ok (datagramWire p id)
      else .error (.datagramTooLarge (datagramWire p id).length maxDatagramSize) := by
  have htagged : encodeDatagram p id =
      if maxDatagramSize < (datagramWire p id).length then
        .error (.datagramTooLarge (datagramWire p id).length maxDatagramSize)
      else .ok (datagramWire p id) := by
    cases id <;> simp only [encodeDatagram, writeLength_of_le hfits] <;> rfl
  rw [htagged]
  by_cases hsize : (datagramWire p id).length ≤ maxDatagramSize
  · rw [if_neg (by omega), if_pos hsize]
  · rw [if_pos (by omega), if_neg hsize]

/-- A frame at the cursor with a payload gives back the payload, whatever follows it. -/
theorem decodeDatagramPayload_wire {p : Packet} (hpos : 0 < p.length) (hfits : p.length ≤ i32Max)
    {d : Packet} {rest : List UInt8} (h : d.unread = wire p ++ rest) :
    (decodeDatagramPayload d).2 = .ok (Packet.ofBytes p.bytes) := by
  have hwidth : (LittleEndian.encodeInt 4 p.length).length = prefixSize :=
    LittleEndian.encodeInt_length 4 p.length
  have hunread : d.unread = LittleEndian.encodeInt 4 p.length ++ (p.bytes ++ rest) := by
    rw [h, wire, List.append_assoc]
  have hprefix : d.readBytes prefixSize =
      .ok (LittleEndian.encodeInt 4 p.length, d.skip prefixSize) := by
    have henough :
        ensure (LittleEndian.encodeInt 4 p.length ++ (p.bytes ++ rest)) prefixSize = .ok () := by
      simp [ensure, hwidth]
    simp only [Packet.readBytes, hunread, henough, List.take_left' hwidth]
    rfl
  have hpayload : (d.skip prefixSize).readBytes p.length =
      .ok (p.bytes, (d.skip prefixSize).skip p.length) := by
    have hafter : (d.skip prefixSize).unread = p.bytes ++ rest := by
      rw [Packet.unread_skip, hunread, List.drop_left' hwidth]
    have henough : ensure (p.bytes ++ rest) p.length = .ok () := by
      simp [ensure, Packet.length]
    simp only [Packet.readBytes, hafter, henough,
      List.take_left' (show p.bytes.length = p.length from rfl)]
    rfl
  simp only [decodeDatagramPayload, hprefix, decodeInt_encodeInt hfits, Int.toNat_natCast,
    hpayload]
  rw [if_neg (by omega)]

/-- A packet whose length fits is encoded as its datagram when that is short enough; the datagram of
a non-empty packet reads back, with or without an identity, whatever follows it. -/
theorem datagram_round_trip (p : Packet) (id : Option ClientId) (hfits : p.length ≤ i32Max) :
    encodeDatagram p id =
        (if (datagramWire p id).length ≤ maxDatagramSize then .ok (datagramWire p id)
        else .error (.datagramTooLarge (datagramWire p id).length maxDatagramSize)) ∧
      (0 < p.length → ∀ trailing : List UInt8,
        isRunt (datagramWire p id ++ trailing) = false ∧
        (id = none →
          (decodeDatagramPayload (Packet.ofBytes (datagramWire p id ++ trailing))).2 =
            .ok (Packet.ofBytes p.bytes)) ∧
        (∀ k, id = some k → ∃ q,
          (Packet.ofBytes (datagramWire p id ++ trailing)).read (.scalar .u32) = .ok (.u32 k, q) ∧
            0 < q.unreadLength ∧ (decodeDatagramPayload q).2 = .ok (Packet.ofBytes p.bytes))) := by
  refine ⟨encodeDatagram_eq hfits id, ?_⟩
  intro hpos trailing
  have hframe := prefixSize_le_length_wire p
  refine ⟨?_, ?_, ?_⟩
  · simp only [isRunt, datagramWire, List.length_append, decide_eq_false_iff_not]
    omega
  · intro hid
    subst hid
    have hunread : (Packet.ofBytes (datagramWire p none ++ trailing)).unread = wire p ++ trailing := by
      simp [datagramWire, Packet.ofBytes, Packet.unread]
    exact decodeDatagramPayload_wire hpos hfits hunread
  · intro k hk
    subst hk
    let whole := Packet.ofBytes (datagramWire p (some k) ++ trailing)
    have hunread : whole.unread = (Value.u32 k).encode ++ (wire p ++ trailing) := by
      simp [whole, datagramWire, Packet.ofBytes, Packet.unread, Value.encode]
    have hafter : (whole.skip (Value.u32 k).size).unread = wire p ++ trailing := by
      rw [Packet.unread_skip, hunread, ← Value.length_encode, List.drop_left' rfl]
    refine ⟨whole.skip (Value.u32 k).size,
      Packet.readValue_request (show (Value.u32 k).WellSized from trivial) hunread, ?_,
      decodeDatagramPayload_wire hpos hfits hafter⟩
    rw [Packet.unreadLength_eq_length_unread, hafter, List.length_append]
    simp only [prefixSize] at hframe
    omega

/-- A one-byte packet with identity 3, read by the server with a stray byte after it. -/
theorem identified_datagram_reads_back :
    encodeDatagram (Packet.ofBytes [9]) (some 3) = .ok [3, 0, 0, 0, 1, 0, 0, 0, 9] ∧
      ∃ q, (Packet.ofBytes ([3, 0, 0, 0, 1, 0, 0, 0, 9] ++ [0xFF])).read (.scalar .u32) =
          .ok (.u32 3, q) ∧
        0 < q.unreadLength ∧ (decodeDatagramPayload q).2 = .ok (Packet.ofBytes [9]) := by
  have hround := datagram_round_trip (Packet.ofBytes [9]) (some 3) (by decide)
  have hwire : datagramWire (Packet.ofBytes [9]) (some 3) = [3, 0, 0, 0, 1, 0, 0, 0, 9] := rfl
  rw [hwire] at hround
  exact ⟨by rw [hround.1]; rfl, (hround.2 (by decide) [0xFF]).2.2 3 rfl⟩

/-- An empty packet is sent with the length 0, which the receiver refuses. -/
theorem empty_packet_datagram_refused :
    encodeDatagram Packet.empty none = .ok [0, 0, 0, 0] ∧
      (decodeDatagramPayload (Packet.ofBytes [0, 0, 0, 0])).2 = .error (.invalidFrameLength 0) :=
  ⟨rfl, rfl⟩

end Frame

end FrameLink
