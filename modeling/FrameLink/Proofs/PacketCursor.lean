import FrameLink.Proofs.Codec

/-! The read cursor of a packet and what reading does to it. The cursor never passes the end of
the content (`Packet.InBounds`): every way of making a packet puts it at the start, and no
operation moves it past the end, so the unread bytes, their count and dropping the bytes already
read are always taken within the content. An operation that fails leaves the packet exactly as it
was, and what a read gives depends on the unread bytes alone: the decoder's checks, in their
order, name the error, and a read that succeeds moves the cursor past exactly the bytes it used.

A string is read in four checks: its length prefix must be there, must not be negative, must be
followed by that many bytes, and those bytes must spell a string, that is be the UTF-8 encoding of
one (`Utf8.Spells`). -/

namespace FrameLink

namespace Utf8

/-- The bytes are the UTF-8 encoding of some string. -/
def Spells (bytes : List UInt8) : Prop := ∃ s, encode s = bytes

theorem encode_eq_of_decode_eq_ok {bytes : List UInt8} {s : String} (h : decode bytes = .ok s) :
    encode s = bytes := by
  unfold decode at h
  split at h
  · next chars hchars =>
    cases h
    have hvalid : (ByteArray.utf8Decode? ⟨bytes.toArray⟩).isSome := by simp [hchars]
    have hencode := ByteArray.utf8Encode_get_utf8Decode? (h := hvalid)
    simp only [hchars, Option.get_some] at hencode
    rw [encode, String.toUTF8_eq_toByteArray, ← String.utf8Encode_toList, String.toList_ofList,
      hencode]
  · cases h

theorem decode_eq_ok_iff {bytes : List UInt8} {s : String} : decode bytes = .ok s ↔ encode s = bytes :=
  ⟨encode_eq_of_decode_eq_ok, fun h => h ▸ decode_encode s⟩

/-- Decoding fails exactly on bytes that spell no string. -/
theorem exists_decode_eq_error_iff {bytes : List UInt8} :
    (∃ f, decode bytes = .error f) ↔ ¬Spells bytes := by
  constructor
  · rintro ⟨f, hf⟩ ⟨s, rfl⟩
    rw [decode_encode] at hf
    cases hf
  · intro hnot
    cases hd : decode bytes with
    | error f => exact ⟨f, rfl⟩
    | ok s => exact absurd ⟨s, encode_eq_of_decode_eq_ok hd⟩ hnot

end Utf8

/-! ### The decoders -/

section Decoders

variable {src : List UInt8}

theorem ensure_of_le {needed : Nat} (h : needed ≤ src.length) : ensure src needed = .ok () := by
  simp [ensure, Nat.not_lt.2 h]

theorem ensure_of_lt {needed : Nat} (h : src.length < needed) :
    ensure src needed = .error (.truncated needed src.length) := by
  simp [ensure, h]

theorem Scalar.decode_of_lt {kind : Scalar} (h : src.length < kind.width) :
    kind.decode src = .error (.truncated kind.width src.length) := by
  simp only [Scalar.decode, ensure_of_lt h]
  rfl

theorem Scalar.decode_of_le {kind : Scalar} (h : kind.width ≤ src.length) :
    kind.decode src = .ok (kind.ofWord (LittleEndian.decode (src.take kind.width)), kind.width) := by
  simp only [Scalar.decode, ensure_of_le h]
  rfl

theorem decodeString_of_short (h : src.length < 4) :
    decodeString src = .error (.truncated 4 src.length) := by
  simp only [decodeString, ensure_of_lt h]
  rfl

theorem decodeString_of_negative (h : 4 ≤ src.length)
    (hneg : LittleEndian.decodeInt (src.take 4) < 0) :
    decodeString src = .error (.invalidStringLength (LittleEndian.decodeInt (src.take 4))) := by
  simp only [decodeString, ensure_of_le h, hneg]
  rfl

theorem decodeString_of_short_body (h : 4 ≤ src.length)
    (hnonneg : 0 ≤ LittleEndian.decodeInt (src.take 4))
    (hshort : src.length - 4 < (LittleEndian.decodeInt (src.take 4)).toNat) :
    decodeString src =
      .error (.truncated (LittleEndian.decodeInt (src.take 4)).toNat (src.length - 4)) := by
  have hbody : (src.drop 4).length < (LittleEndian.decodeInt (src.take 4)).toNat := by
    simpa using hshort
  simp only [decodeString, ensure_of_le h, Int.not_lt.2 hnonneg, ensure_of_lt hbody,
    List.length_drop]
  rfl

/-- Once the prefix is there, not negative and followed by enough bytes, the string is what those
bytes decode to. -/
theorem decodeString_of_body (h : 4 ≤ src.length)
    (hnonneg : 0 ≤ LittleEndian.decodeInt (src.take 4))
    (hbody : (LittleEndian.decodeInt (src.take 4)).toNat ≤ src.length - 4) :
    decodeString src =
      match Utf8.decode ((src.drop 4).take (LittleEndian.decodeInt (src.take 4)).toNat) with
      | .ok s => .ok (s, 4 + (LittleEndian.decodeInt (src.take 4)).toNat)
      | .error f => .error (.utf8 f) := by
  have henough : (LittleEndian.decodeInt (src.take 4)).toNat ≤ (src.drop 4).length := by
    simpa using hbody
  simp only [decodeString, ensure_of_le h, Int.not_lt.2 hnonneg, ensure_of_le henough]
  cases Utf8.decode ((src.drop 4).take (LittleEndian.decodeInt (src.take 4)).toNat) <;> rfl

theorem decodeString_le_length {s : String} {n : Nat} (h : decodeString src = .ok (s, n)) :
    n ≤ src.length := by
  by_cases h4 : src.length < 4
  · rw [decodeString_of_short h4] at h
    cases h
  by_cases hneg : LittleEndian.decodeInt (src.take 4) < 0
  · rw [decodeString_of_negative (by omega) hneg] at h
    cases h
  by_cases hshort : src.length - 4 < (LittleEndian.decodeInt (src.take 4)).toNat
  · rw [decodeString_of_short_body (by omega) (by omega) hshort] at h
    cases h
  rw [decodeString_of_body (by omega) (by omega) (by omega)] at h
  split at h
  · obtain ⟨-, rfl⟩ := Prod.mk.inj (Except.ok.inj h)
    omega
  · cases h

theorem Kind.decode_str : Kind.str.decode src = (decodeString src).map fun r => (.str r.1, r.2) := by
  simp only [Kind.decode]
  cases decodeString src <;> rfl

theorem Kind.decode_str_of_error {e : NetError} (h : decodeString src = .error e) :
    Kind.str.decode src = .error e := by
  rw [Kind.decode_str, h]
  rfl

theorem Kind.decode_str_of_ok {s : String} {n : Nat} (h : decodeString src = .ok (s, n)) :
    Kind.str.decode src = .ok (.str s, n) := by
  rw [Kind.decode_str, h]
  rfl

theorem Kind.le_length_of_decode {kind : Kind} {v : Value} {n : Nat}
    (h : kind.decode src = .ok (v, n)) : n ≤ src.length := by
  cases kind with
  | scalar kind =>
    by_cases hwidth : kind.width ≤ src.length
    · rw [Kind.decode, Scalar.decode_of_le hwidth] at h
      obtain ⟨-, rfl⟩ := Prod.mk.inj (Except.ok.inj h)
      exact hwidth
    · rw [Kind.decode, Scalar.decode_of_lt (by omega)] at h
      cases h
  | str =>
    rw [Kind.decode_str] at h
    cases hs : decodeString src with
    | error e => simp [hs, Except.map] at h
    | ok r =>
      simp only [hs, Except.map, Except.ok.injEq, Prod.mk.injEq] at h
      rw [← h.2]
      exact decodeString_le_length hs

end Decoders

/-! ### The cursor -/

namespace Packet

variable {p q : Packet}

/-- The cursor stands within the content: at most at its end. -/
def InBounds (p : Packet) : Prop := p.cursor ≤ p.length

theorem inBounds_empty : empty.InBounds := Nat.le_refl 0

theorem inBounds_ofBytes (data : List UInt8) : (ofBytes data).InBounds := Nat.zero_le _

theorem inBounds_withId (id : Int16) : (withId id).InBounds := Nat.zero_le _

theorem length_unread (p : Packet) : p.unread.length = p.length - p.cursor := by
  simp [unread, length]

theorem InBounds.unreadLength_add (hp : p.InBounds) : p.unreadLength + p.cursor = p.length := by
  unfold InBounds at hp
  unfold unreadLength
  omega

theorem InBounds.skip (hp : p.InBounds) {n : Nat} (h : n ≤ p.unread.length) : (p.skip n).InBounds := by
  unfold InBounds at hp
  rw [length_unread] at h
  show p.cursor + n ≤ p.length
  omega

theorem read_eq (p : Packet) (kind : Kind) :
    p.read kind = (kind.decode p.unread).map fun r => (r.1, p.skip r.2) := by
  unfold read
  cases kind.decode p.unread <;> rfl

theorem InBounds.read (hp : p.InBounds) {kind : Kind} {v : Value} (h : p.read kind = .ok (v, q)) :
    q.InBounds := by
  rw [read_eq] at h
  cases hd : kind.decode p.unread with
  | error e => simp [hd, Except.map] at h
  | ok r =>
    simp only [hd, Except.map, Except.ok.injEq, Prod.mk.injEq] at h
    rw [← h.2]
    exact hp.skip (Kind.le_length_of_decode (v := r.1) hd)

theorem readBytes_of_le {n : Nat} (h : n ≤ p.unread.length) :
    p.readBytes n = .ok (p.unread.take n, p.skip n) := by
  simp only [readBytes, ensure_of_le h]
  rfl

theorem readBytes_of_lt {n : Nat} (h : p.unread.length < n) :
    p.readBytes n = .error (.truncated n p.unread.length) := by
  simp only [readBytes, ensure_of_lt h]
  rfl

/-- Taking raw bytes fails, naming the count asked for and the count left, exactly when fewer are
left. -/
theorem readBytes_eq_error_iff {n : Nat} :
    p.readBytes n = .error (.truncated n p.unread.length) ↔ p.unread.length < n := by
  constructor
  · intro h
    apply Nat.lt_of_not_le
    intro hle
    rw [readBytes_of_le hle] at h
    cases h
  · exact readBytes_of_lt

theorem InBounds.readBytes (hp : p.InBounds) {n : Nat} {data : List UInt8}
    (h : p.readBytes n = .ok (data, q)) : q.InBounds := by
  by_cases hn : n ≤ p.unread.length
  · rw [readBytes_of_le hn] at h
    obtain ⟨-, rfl⟩ := Prod.mk.inj (Except.ok.inj h)
    exact hp.skip hn
  · rw [readBytes_of_lt (by omega)] at h
    cases h

theorem InBounds.insertFront (hp : p.InBounds) (v : Value) : (p.insertFront v).InBounds := by
  simp only [InBounds, Packet.insertFront, length, List.length_append] at hp ⊢
  omega

theorem InBounds.writeLength (hp : p.InBounds) (h : p.writeLength = .ok q) : q.InBounds := by
  unfold Packet.writeLength at h
  split at h
  · cases h
    exact hp.insertFront _
  · cases h

/-- Step lemma: no operation moves the cursor past the end of the content. -/
theorem InBounds.perform (hp : p.InBounds) (c : Command) : (p.perform c).1.InBounds := by
  cases c with
  | write v =>
    simp only [Packet.perform, InBounds, Packet.write, length, List.length_append] at hp ⊢
    omega
  | insertFront v => exact hp.insertFront v
  | read kind =>
    cases hr : p.read kind with
    | error e => simpa [Packet.perform, hr] using hp
    | ok r => simpa [Packet.perform, hr] using hp.read hr
  | peek kind => exact hp
  | readBytes count =>
    cases hr : p.readBytes count with
    | error e => simpa [Packet.perform, hr] using hp
    | ok r => simpa [Packet.perform, hr] using hp.readBytes hr
  | rewind count =>
    simp only [Packet.perform, InBounds, Packet.rewind, length] at hp ⊢
    omega
  | reset => exact inBounds_empty
  | discardRead => exact Nat.zero_le _
  | append data =>
    simp only [Packet.perform, InBounds, Packet.append, length, List.length_append] at hp ⊢
    omega
  | writeLength =>
    cases hw : p.writeLength with
    | error e => simpa [Packet.perform, hw] using hp
    | ok r => simpa [Packet.perform, hw] using hp.writeLength hw
  | unread => exact hp
  | contents => exact hp

/-- Run lemma: along any sequence of operations from a packet within bounds, every packet is within
bounds. -/
theorem InBounds.performAll (hp : p.InBounds) (cmds : List Command) :
    ∀ q ∈ (p.performAll cmds).map Prod.fst, q.InBounds := by
  induction cmds generalizing p with
  | nil => simp [Packet.performAll]
  | cons c rest ih =>
    intro q hq
    simp only [Packet.performAll, List.map_cons, List.mem_cons] at hq
    rcases hq with rfl | hq
    · exact hp.perform c
    · exact ih (hp.perform c) q hq

theorem perform_of_error {c : Command} {e : NetError} (h : (p.perform c).2 = .error e) :
    (p.perform c).1 = p := by
  cases c with
  | read kind =>
    cases hr : p.read kind with
    | error _ => simp [perform, hr]
    | ok _ => simp [perform, hr] at h
  | readBytes count =>
    cases hr : p.readBytes count with
    | error _ => simp [perform, hr]
    | ok _ => simp [perform, hr] at h
  | writeLength =>
    cases hw : p.writeLength with
    | error _ => simp [perform, hw]
    | ok _ => simp [perform, hw] at h
  | peek kind => rfl
  | unread => rfl
  | contents => rfl
  | write v => simp [perform] at h
  | insertFront v => simp [perform] at h
  | rewind count => simp [perform] at h
  | reset => simp [perform] at h
  | discardRead => simp [perform] at h
  | append data => simp [perform] at h

end Packet

/-- Every packet keeps its cursor within the content along any sequence of operations; a failed
operation leaves it as it was, and a read fails exactly when its bytes are missing or bad. -/
theorem cursor_within_content_and_failed_reads_atomic :
    (Packet.empty.InBounds ∧ (∀ id, (Packet.withId id).InBounds) ∧
      ∀ data, (Packet.ofBytes data).InBounds) ∧
    (∀ (p : Packet) (cmds : List Packet.Command), p.InBounds →
      ∀ q ∈ (p.performAll cmds).map Prod.fst, q.InBounds ∧ q.unreadLength + q.cursor = q.length) ∧
    (∀ (p : Packet) (c : Packet.Command) (e : NetError),
      (p.perform c).2 = .error e → (p.perform c).1 = p) ∧
    (∀ (p : Packet) (kind : Kind),
      p.read kind = (kind.decode p.unread).map fun r => (r.1, p.skip r.2)) ∧
    (∀ (kind : Scalar) (b : List UInt8),
      (b.length < kind.width → kind.decode b = .error (.truncated kind.width b.length)) ∧
      (kind.width ≤ b.length →
        kind.decode b = .ok (kind.ofWord (LittleEndian.decode (b.take kind.width)), kind.width))) ∧
    (∀ b : List UInt8,
      (b.length < 4 → Kind.str.decode b = .error (.truncated 4 b.length)) ∧
      (4 ≤ b.length → LittleEndian.decodeInt (b.take 4) < 0 →
        Kind.str.decode b = .error (.invalidStringLength (LittleEndian.decodeInt (b.take 4)))) ∧
      (4 ≤ b.length → 0 ≤ LittleEndian.decodeInt (b.take 4) →
        b.length - 4 < (LittleEndian.decodeInt (b.take 4)).toNat →
        Kind.str.decode b =
          .error (.truncated (LittleEndian.decodeInt (b.take 4)).toNat (b.length - 4))) ∧
      (4 ≤ b.length → 0 ≤ LittleEndian.decodeInt (b.take 4) →
        (LittleEndian.decodeInt (b.take 4)).toNat ≤ b.length - 4 →
        ¬Utf8.Spells ((b.drop 4).take (LittleEndian.decodeInt (b.take 4)).toNat) →
        ∃ f, Utf8.decode ((b.drop 4).take (LittleEndian.decodeInt (b.take 4)).toNat) = .error f ∧
          Kind.str.decode b = .error (.utf8 f)) ∧
      (∀ s : String, 4 ≤ b.length → 0 ≤ LittleEndian.decodeInt (b.take 4) →
        (LittleEndian.decodeInt (b.take 4)).toNat ≤ b.length - 4 →
        Utf8.encode s = (b.drop 4).take (LittleEndian.decodeInt (b.take 4)).toNat →
        Kind.str.decode b = .ok (.str s, 4 + (LittleEndian.decodeInt (b.take 4)).toNat))) ∧
    (∀ (p : Packet) (n : Nat),
      (p.readBytes n = .error (.truncated n p.unread.length) ↔ p.unread.length < n) ∧
      (n ≤ p.unread.length → p.readBytes n = .ok (p.unread.take n, p.skip n))) := by
  refine ⟨⟨Packet.inBounds_empty, Packet.inBounds_withId, Packet.inBounds_ofBytes⟩, ?_,
    fun p c e h => Packet.perform_of_error h, Packet.read_eq,
    fun kind b => ⟨Scalar.decode_of_lt, Scalar.decode_of_le⟩, ?_,
    fun p n => ⟨Packet.readBytes_eq_error_iff, Packet.readBytes_of_le⟩⟩
  · intro p cmds hp q hq
    have hq' := hp.performAll cmds q hq
    exact ⟨hq', hq'.unreadLength_add⟩
  · intro b
    refine ⟨fun h => ?_, fun h hneg => ?_, fun h hnonneg hshort => ?_,
      fun h hnonneg hbody hnot => ?_, fun s h hnonneg hbody hs => ?_⟩
    · exact Kind.decode_str_of_error (decodeString_of_short h)
    · exact Kind.decode_str_of_error (decodeString_of_negative h hneg)
    · exact Kind.decode_str_of_error (decodeString_of_short_body h hnonneg hshort)
    · obtain ⟨f, hf⟩ := Utf8.exists_decode_eq_error_iff.2 hnot
      refine ⟨f, hf, Kind.decode_str_of_error ?_⟩
      rw [decodeString_of_body h hnonneg hbody, hf]
    · apply Kind.decode_str_of_ok
      rw [decodeString_of_body h hnonneg hbody, Utf8.decode_eq_ok_iff.2 hs]

end FrameLink
