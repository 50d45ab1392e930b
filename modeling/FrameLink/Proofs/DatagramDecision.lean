import FrameLink.Proofs.PacketCursor
import FrameLink.Proofs.Admission

/-! What the server does with one datagram, read off its bytes. When datagrams carry no identity
the whole datagram goes to the application. Otherwise the first four bytes name a session
(`datagramId`), the session's binding judges the source, and the datagram's payload reaches the
application only when the source is admitted and a frame follows the identity: a positive length in
the next four bytes and at least that many bytes after them (`CarriesFrame`). The payload is then
exactly those bytes; anything after them is ignored.

The checks run in this order and every failure drops the datagram silently, but judging the
source comes before the frame is read: a source that binds stays bound whatever follows it, so an
identity alone binds without reaching the application. Main statement: `datagram_decided_by_bytes`,
from the normal form `handleDatagram_of_identified`. -/

namespace FrameLink

/-- The identity a datagram names: its first four bytes as an unsigned little-endian word. -/
def datagramId (bytes : List UInt8) : ClientId :=
  UInt32.ofNat (LittleEndian.decode (bytes.take 4))

/-- The payload length a datagram announces after the identity: the next four bytes, signed. -/
def announcedPayload (bytes : List UInt8) : Int :=
  LittleEndian.decodeInt ((bytes.drop 4).take 4)

/-- After its identity the datagram holds a frame: a positive length and that many bytes. -/
def CarriesFrame (bytes : List UInt8) : Prop :=
  8 ≤ bytes.length ∧ 0 < announcedPayload bytes ∧
    8 + (announcedPayload bytes).toNat ≤ bytes.length

instance : DecidablePred CarriesFrame := fun bytes =>
  inferInstanceAs (Decidable (8 ≤ bytes.length ∧ 0 < announcedPayload bytes ∧
    8 + (announcedPayload bytes).toNat ≤ bytes.length))

def framePayload (bytes : List UInt8) : Packet :=
  Packet.ofBytes ((bytes.drop 8).take (announcedPayload bytes).toNat)

/-! ### The frame after the identity -/

section Payload

variable {d : Packet}

/-- A length prefix, a positive length and that many bytes after it give the bytes as payload. -/
theorem decodeDatagramPayload_of_frame (h4 : 4 ≤ d.unread.length)
    (hpos : 0 < LittleEndian.decodeInt (d.unread.take 4))
    (hlen : 4 + (LittleEndian.decodeInt (d.unread.take 4)).toNat ≤ d.unread.length) :
    (decodeDatagramPayload d).2 =
      .ok (Packet.ofBytes ((d.unread.drop 4).take (LittleEndian.decodeInt (d.unread.take 4)).toNat)) := by
  have hprefix := Packet.readBytes_of_le (p := d) (n := 4) h4
  have hbody : (LittleEndian.decodeInt (d.unread.take 4)).toNat ≤ (d.skip 4).unread.length := by
    simp only [Packet.unread_skip, List.length_drop]
    omega
  simp only [decodeDatagramPayload, hprefix, prefixSize, Int.not_le.2 hpos, if_false,
    Packet.readBytes_of_le hbody, Packet.unread_skip]

theorem decodeDatagramPayload_of_not_frame
    (h : ¬(4 ≤ d.unread.length ∧ 0 < LittleEndian.decodeInt (d.unread.take 4) ∧
      4 + (LittleEndian.decodeInt (d.unread.take 4)).toNat ≤ d.unread.length)) :
    ∃ e, (decodeDatagramPayload d).2 = .error e := by
  by_cases h4 : 4 ≤ d.unread.length
  · have hprefix := Packet.readBytes_of_le (p := d) (n := 4) h4
    by_cases hpos : 0 < LittleEndian.decodeInt (d.unread.take 4)
    · have hshort : (d.skip 4).unread.length <
          (LittleEndian.decodeInt (d.unread.take 4)).toNat := by
        simp only [Packet.unread_skip, List.length_drop]
        omega
      simp only [decodeDatagramPayload, hprefix, prefixSize, Int.not_le.2 hpos, if_false]
      rw [Packet.readBytes_of_lt hshort]
      exact ⟨_, rfl⟩
    · simp only [decodeDatagramPayload, hprefix, prefixSize, Int.not_lt.1 hpos, if_true]
      exact ⟨_, rfl⟩
  · rw [decodeDatagramPayload, Packet.readBytes_of_lt (by simp only [prefixSize]; omega)]
    exact ⟨_, rfl⟩

end Payload

/-! ### Judging the source -/

theorem DatagramBinding.checkSource_snd (b : DatagramBinding) (source peer : SocketAddr) :
    (b.checkSource source peer).2 =
      if (b.checkSource source peer).1 = .bound then ⟨some source⟩ else b := by
  rcases hb : b.endpoint with _ | e
  · by_cases hip : source.ip.canonical = peer.ip.canonical <;>
      simp [DatagramBinding.checkSource, hb, hip]
  · rw [DatagramBinding.checkSource_of_bound hb]
    by_cases he : e = source <;> simp [DatagramBinding.checkSource, hb, he]

theorem ClientSession.checkSource_snd {α : Type} (c : ClientSession α) (source : SocketAddr) :
    (c.checkSource source).2 =
      if (c.checkSource source).1 = .bound then { c with binding := ⟨some source⟩ } else c := by
  have h := DatagramBinding.checkSource_snd c.binding source c.stream.peer
  unfold ClientSession.checkSource
  rcases hcs : c.binding.checkSource source c.stream.peer with ⟨verdict, b⟩
  simp only [hcs] at h
  by_cases hv : verdict = .bound
  · rw [if_pos hv] at h
    simp [hv, h]
  · rw [if_neg hv] at h
    simp only [hv, h, if_false]

namespace Server

variable {α : Type} {s : Server α} {source : SocketAddr} {bytes : List UInt8}

/-- The source is let through by the session's binding. -/
def Admitted (c : ClientSession α) (source : SocketAddr) : Prop :=
  (c.checkSource source).1 = .bound ∨ (c.checkSource source).1 = .accepted

instance (c : ClientSession α) (source : SocketAddr) : Decidable (Admitted c source) :=
  inferInstanceAs (Decidable (_ ∨ _))

theorem unread_afterId (bytes : List UInt8) :
    ((Packet.ofBytes bytes).skip 4).unread = bytes.drop 4 := by
  simp [Packet.unread, Packet.ofBytes, Packet.skip]

theorem admitted_iff_of_verdict {c : ClientSession α} {v : Admission}
    (hv : (c.checkSource source).1 = v) : Admitted c source ↔ v = .bound ∨ v = .accepted := by
  rw [Admitted, hv]

/-- With a frame after the identity, bytes remain after it and the frame's payload is read. -/
theorem payload_of_frame (h : CarriesFrame bytes) :
    ((Packet.ofBytes bytes).skip 4).unreadLength ≠ 0 ∧
      (decodeDatagramPayload ((Packet.ofBytes bytes).skip 4)).2 = .ok (framePayload bytes) := by
  obtain ⟨h8, hpos, hlen⟩ := h
  have hrest := unread_afterId bytes
  unfold announcedPayload at hpos hlen
  refine ⟨?_, ?_⟩
  · rw [Packet.unreadLength_eq_length_unread, hrest, List.length_drop]
    omega
  · rw [decodeDatagramPayload_of_frame (by rw [hrest, List.length_drop]; omega) (by rwa [hrest])
      (by rw [hrest, List.length_drop]; omega), hrest, List.drop_drop]
    rfl

theorem payload_of_not_frame (h : ¬CarriesFrame bytes) :
    ∃ e, (decodeDatagramPayload ((Packet.ofBytes bytes).skip 4)).2 = .error e := by
  have hrest := unread_afterId bytes
  apply decodeDatagramPayload_of_not_frame
  rw [hrest, List.length_drop]
  rintro ⟨h4, hpos, hlen⟩
  exact h ⟨by omega, hpos, by unfold announcedPayload; omega⟩

/-- The whole decision in identity mode: a runt or an unknown identity changes nothing; otherwise
the binding judges the source, and an admitted source with a frame hands on its payload. -/
theorem handleDatagram_of_identified (hmode : s.options.requireClientIdInUdpData = true) :
    s.handleDatagram source bytes =
      if bytes.length < 4 then s
      else match s.session? (datagramId bytes) with
        | none => s
        | some c =>
          if Admitted c source ∧ CarriesFrame bytes then
            (s.putSession (c.checkSource source).2).dispatch
              (.data (datagramId bytes) (framePayload bytes))
          else s.putSession (c.checkSource source).2 := by
  by_cases hrunt : bytes.length < 4
  · simp [handleDatagram, hmode, isRunt, prefixSize, hrunt]
  have hread := Packet.readBytes_of_le (p := Packet.ofBytes bytes) (n := 4)
    (by simp [Packet.unread, Packet.ofBytes]; omega)
  have hid : UInt32.ofNat (LittleEndian.decode ((Packet.ofBytes bytes).unread.take 4)) =
      datagramId bytes := rfl
  simp only [handleDatagram, hmode, Bool.not_true, Bool.false_eq_true, if_false, isRunt,
    prefixSize, decide_eq_true_eq, hrunt, hread, hid]
  rcases hc : s.session? (datagramId bytes) with _ | c
  · rfl
  dsimp only
  split
  next hv => rw [if_neg fun h => absurd ((admitted_iff_of_verdict hv).1 h.1) (by decide)]
  next hv => rw [if_neg fun h => absurd ((admitted_iff_of_verdict hv).1 h.1) (by decide)]
  all_goals
    rename_i hv
    have hadmitted := (admitted_iff_of_verdict hv).2 (by decide)
    by_cases hframe : CarriesFrame bytes
    · obtain ⟨hremains, hpayload⟩ := payload_of_frame hframe
      rw [if_neg hremains, hpayload,
        if_pos (show Admitted c source ∧ CarriesFrame bytes from ⟨hadmitted, hframe⟩)]
    · rw [if_neg (show ¬(Admitted c source ∧ CarriesFrame bytes) from fun h => hframe h.2)]
      obtain ⟨e, he⟩ := payload_of_not_frame hframe
      split
      · rfl
      · rw [he]

theorem session?_putSession_of_session? {k₀ : ClientId} {c : ClientSession α}
    (hc : s.session? k₀ = some c) (k : ClientId) : (s.putSession c).session? k = s.session? k := by
  by_cases hk : k = c.id
  · rw [hk, session?_putSession_self, id_of_session?_eq_some hc, hc]
  · exact session?_putSession_of_ne hk

/-- Once a datagram names a session, the table after it is the table with the judged session put
back, whether or not a payload follows. -/
theorem session?_handleDatagram_of_named (hmode : s.options.requireClientIdInUdpData = true)
    (h4 : 4 ≤ bytes.length) {c : ClientSession α} (hc : s.session? (datagramId bytes) = some c)
    (k : ClientId) :
    (s.handleDatagram source bytes).session? k = (s.putSession (c.checkSource source).2).session? k := by
  rw [handleDatagram_of_identified hmode, if_neg (by omega), hc]
  dsimp only
  split <;> simp only [session?_dispatch]

theorem dispatchesData_dispatch_iff (hrun : s.queue.running = true) {t : Server α}
    (ht : t.queue = s.queue) {k k' : ClientId} {p p' : Packet} :
    DispatchesData s (t.dispatch (.data k' p')) k p ↔ k = k' ∧ p = p' := by
  simp only [DispatchesData, dispatch, DispatchQueue.execute, ht, hrun, if_true,
    List.append_cancel_left_eq, List.cons.injEq, and_true]
  constructor
  · intro h
    cases h
    exact ⟨rfl, rfl⟩
  · rintro ⟨rfl, rfl⟩
    rfl

/-- On a running queue, a datagram in identity mode hands on a payload exactly when it names a
session that admits the source and a frame follows the identity. -/
theorem dispatchesData_handleDatagram_iff (hmode : s.options.requireClientIdInUdpData = true)
    (hrun : s.queue.running = true) (k : ClientId) (p : Packet) :
    DispatchesData s (s.handleDatagram source bytes) k p ↔
      k = datagramId bytes ∧ (∃ c, s.session? k = some c ∧ Admitted c source) ∧
        CarriesFrame bytes ∧ p = framePayload bytes := by
  rw [handleDatagram_of_identified hmode]
  by_cases hrunt : bytes.length < 4
  · rw [if_pos hrunt]
    refine ⟨fun h => absurd h (not_dispatchesData_of_queue_eq rfl p), ?_⟩
    rintro ⟨-, -, ⟨h8, -⟩, -⟩
    omega
  rw [if_neg hrunt]
  rcases hc : s.session? (datagramId bytes) with _ | c
  · refine ⟨fun h => absurd h (not_dispatchesData_of_queue_eq rfl p), ?_⟩
    rintro ⟨rfl, ⟨c, hc', -⟩, -⟩
    rw [hc] at hc'
    cases hc'
  dsimp only
  by_cases hgo : Admitted c source ∧ CarriesFrame bytes
  · rw [if_pos hgo, dispatchesData_dispatch_iff hrun putSession_queue]
    constructor
    · rintro ⟨rfl, rfl⟩
      exact ⟨rfl, ⟨c, hc, hgo.1⟩, hgo.2, rfl⟩
    · rintro ⟨rfl, -, -, rfl⟩
      exact ⟨rfl, rfl⟩
  · rw [if_neg hgo]
    refine ⟨fun h => absurd h (not_dispatchesData_of_queue_eq putSession_queue p), ?_⟩
    rintro ⟨rfl, ⟨c', hc', hadmitted⟩, hframe, -⟩
    rw [hc] at hc'
    cases hc'
    exact absurd ⟨hadmitted, hframe⟩ hgo

theorem handleDatagram_of_dropped (hmode : s.options.requireClientIdInUdpData = true)
    (hquiet : bytes.length < 4 ∨ s.session? (datagramId bytes) = none ∨
      ∃ c, s.session? (datagramId bytes) = some c ∧ ¬Admitted c source) :
    (∀ k, (s.handleDatagram source bytes).session? k = s.session? k) ∧
      (s.handleDatagram source bytes).queue = s.queue := by
  rw [handleDatagram_of_identified hmode]
  by_cases hrunt : bytes.length < 4
  · rw [if_pos hrunt]
    exact ⟨fun _ => rfl, rfl⟩
  rw [if_neg hrunt]
  rcases hquiet with hrunt' | hnone | ⟨c, hc, hnot⟩
  · exact absurd hrunt' hrunt
  · rw [hnone]
    exact ⟨fun _ => rfl, rfl⟩
  · rw [hc]
    dsimp only
    rw [if_neg fun h => hnot h.1]
    have hsame : (c.checkSource source).2 = c := by
      rw [ClientSession.checkSource_snd, if_neg fun hb => hnot (.inl hb)]
    rw [hsame]
    exact ⟨session?_putSession_of_session? hc, putSession_queue⟩

theorem session?_handleDatagram_of_session? (hmode : s.options.requireClientIdInUdpData = true)
    (h4 : 4 ≤ bytes.length) {c : ClientSession α} (hc : s.session? (datagramId bytes) = some c) :
    (s.handleDatagram source bytes).session? (datagramId bytes) =
        some (if (c.checkSource source).1 = .bound then { c with binding := ⟨some source⟩ }
          else c) ∧
      ∀ k, k ≠ datagramId bytes → (s.handleDatagram source bytes).session? k = s.session? k := by
  have hid : (c.checkSource source).2.id = datagramId bytes := by
    rw [ClientSession.checkSource_id, id_of_session?_eq_some hc]
  refine ⟨?_, fun k hk => ?_⟩
  · rw [session?_handleDatagram_of_named hmode h4 hc, ← hid, session?_putSession_self,
      ClientSession.checkSource_snd]
  · rw [session?_handleDatagram_of_named hmode h4 hc, session?_putSession_of_ne (hid ▸ hk)]

/-- What one datagram does is decided by its bytes: the identity it names, the binding's verdict on
its source, and whether a frame follows the identity. -/
theorem datagram_decided_by_bytes (s : Server α) (source : SocketAddr) (bytes : List UInt8) :
    (s.options.requireClientIdInUdpData = false →
      s.handleDatagram source bytes = s.dispatch (.unidentified source (Packet.ofBytes bytes)) ∧
        (s.handleDatagram source bytes).sessions = s.sessions) ∧
    (s.options.requireClientIdInUdpData = true →
      s.handleDatagram source bytes =
        (if bytes.length < 4 then s
        else match s.session? (datagramId bytes) with
          | none => s
          | some c =>
            if Admitted c source ∧ CarriesFrame bytes then
              (s.putSession (c.checkSource source).2).dispatch
                (.data (datagramId bytes) (framePayload bytes))
            else s.putSession (c.checkSource source).2) ∧
      (s.queue.running = true → ∀ k p,
        DispatchesData s (s.handleDatagram source bytes) k p ↔
          k = datagramId bytes ∧ (∃ c, s.session? k = some c ∧ Admitted c source) ∧
            CarriesFrame bytes ∧ p = framePayload bytes) ∧
      ((bytes.length < 4 ∨ s.session? (datagramId bytes) = none ∨
          ∃ c, s.session? (datagramId bytes) = some c ∧ ¬Admitted c source) →
        (∀ k, (s.handleDatagram source bytes).session? k = s.session? k) ∧
          (s.handleDatagram source bytes).queue = s.queue) ∧
      (∀ c, 4 ≤ bytes.length → s.session? (datagramId bytes) = some c →
        (s.handleDatagram source bytes).session? (datagramId bytes) =
            some (if (c.checkSource source).1 = .bound then { c with binding := ⟨some source⟩ }
              else c) ∧
          ∀ k, k ≠ datagramId bytes → (s.handleDatagram source bytes).session? k = s.session? k)) := by
  refine ⟨fun hmode => ⟨by simp [handleDatagram, hmode], by simp [handleDatagram, hmode]⟩,
    fun hmode => ⟨handleDatagram_of_identified hmode,
      fun hrun => dispatchesData_handleDatagram_iff hmode hrun, handleDatagram_of_dropped hmode,
      fun c h4 hc => session?_handleDatagram_of_session? hmode h4 hc⟩⟩

end Server

end FrameLink
