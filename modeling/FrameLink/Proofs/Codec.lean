import FrameLink.Proofs.Framing
import FrameLink.Packet.Command

/-! The typed codec of packets. Values written one after another read back in the same order, each
as written (floating-point numbers bit for bit), each read moving the cursor by exactly the width
of the value's bytes, until nothing is left unread. A reader knows only what it asks for next: the
kind of a typed value, or the count of raw bytes (`Request`).

The widths are one byte for `u8` and `bool`, two for the 16-bit words, four for the 32-bit words
and `f32`, eight for the 64-bit words and `f64`, four plus the byte count for a string, and the
byte count for raw bytes (`Value.size`). A string reads back only when its byte count fits the
signed 32-bit prefix it is written with (`Value.WellSized`). -/

namespace FrameLink

/-- What a reader asks a packet for next: a value of a kind, or a count of raw bytes. -/
inductive Request where
  | typed (kind : Kind)
  | raw (count : Nat)
deriving DecidableEq, Repr

def Value.request : Value → Request
  | .u8 _ => .typed (.scalar .u8)
  | .bool _ => .typed (.scalar .bool)
  | .i16 _ => .typed (.scalar .i16)
  | .u16 _ => .typed (.scalar .u16)
  | .i32 _ => .typed (.scalar .i32)
  | .u32 _ => .typed (.scalar .u32)
  | .i64 _ => .typed (.scalar .i64)
  | .u64 _ => .typed (.scalar .u64)
  | .f32 _ => .typed (.scalar .f32)
  | .f64 _ => .typed (.scalar .f64)
  | .str _ => .typed .str
  | .raw bytes => .raw bytes.length

def Value.size : Value → Nat
  | .u8 _ | .bool _ => 1
  | .i16 _ | .u16 _ => 2
  | .i32 _ | .u32 _ | .f32 _ => 4
  | .i64 _ | .u64 _ | .f64 _ => 8
  | .str s => 4 + (Utf8.encode s).length
  | .raw bytes => bytes.length

/-- A string whose byte count its signed 32-bit prefix can hold; every other value. -/
def Value.WellSized : Value → Prop
  | .str s => (Utf8.encode s).length ≤ i32Max
  | _ => True

instance : DecidablePred Value.WellSized := fun v =>
  match v with
  | .str s => inferInstanceAs (Decidable ((Utf8.encode s).length ≤ i32Max))
  | .u8 _ | .bool _ | .i16 _ | .u16 _ | .i32 _ | .u32 _ | .i64 _ | .u64 _ | .f32 _ | .f64 _
  | .raw _ => isTrue trivial

namespace Packet

def readValue (p : Packet) : Request → Except NetError (Value × Packet)
  | .typed kind => p.read kind
  | .raw count => do
    let (data, q) ← p.readBytes count
    pure (.raw data, q)

def readValues (p : Packet) : List Request → Except NetError (List Value × Packet)
  | [] => pure ([], p)
  | request :: rest => do
    let (v, q) ← p.readValue request
    let (vs, last) ← q.readValues rest
    pure (v :: vs, last)

end Packet

theorem Value.length_encode (v : Value) : v.encode.length = v.size := by
  cases v <;> simp [Value.encode, Value.size, LittleEndian.encodeInt_length]

/-! ### One value -/

private theorem int16_ofNat_toNat (v : Int16) : Int16.ofNat v.toUInt16.toNat = v := by
  rw [← UInt16.toInt16_ofNat', UInt16.ofNat_toNat, Int16.toInt16_toUInt16]

private theorem int32_ofNat_toNat (v : Int32) : Int32.ofNat v.toUInt32.toNat = v := by
  rw [← UInt32.toInt32_ofNat', UInt32.ofNat_toNat, Int32.toInt32_toUInt32]

private theorem int64_ofNat_toNat (v : Int64) : Int64.ofNat v.toUInt64.toNat = v := by
  rw [← UInt64.toInt64_ofNat', UInt64.ofNat_toNat, Int64.toInt64_toUInt64]

theorem Scalar.decode_word (kind : Scalar) {width : Nat} (hwidth : kind.width = width) (n : Nat)
    (rest : List UInt8) :
    kind.decode (LittleEndian.encode width n ++ rest) =
      .ok (kind.ofWord (n % Nat.pow 2 (8 * width)), width) := by
  subst hwidth
  have henough : ensure (LittleEndian.encode kind.width n ++ rest) kind.width = .ok () := by
    simp [ensure]
  simp only [Scalar.decode, henough, List.take_left' (LittleEndian.length_encode kind.width n),
    LittleEndian.decode_encode]
  rfl

theorem Scalar.decode_encode {v : Value} {kind : Scalar} (hk : v.request = .typed (.scalar kind))
    (rest : List UInt8) : kind.decode (v.encode ++ rest) = .ok (v, v.size) := by
  cases v <;>
    simp only [Value.request, Request.typed.injEq, Kind.scalar.injEq, reduceCtorEq] at hk <;>
    subst hk
  case u8 x =>
    simp [Value.encode, Scalar.decode, ensure, Scalar.width, LittleEndian.decode, Scalar.ofWord,
      Value.size, Functor.map, Except.map]
  case bool b =>
    cases b <;> simp [Value.encode, Scalar.decode, ensure, Scalar.width, LittleEndian.decode,
      Scalar.ofWord, Value.size, Functor.map, Except.map]
  all_goals
    rw [Value.encode, Scalar.decode_word _ (by rfl)]
    simp [Scalar.ofWord, Value.size, int16_ofNat_toNat, int32_ofNat_toNat, int64_ofNat_toNat]

theorem decodeString_encode {s : String} (hs : (Utf8.encode s).length ≤ i32Max)
    (rest : List UInt8) :
    decodeString ((Value.str s).encode ++ rest) = .ok (s, 4 + (Utf8.encode s).length) := by
  have hwidth : (LittleEndian.encodeInt 4 (Utf8.encode s).length).length = 4 :=
    LittleEndian.encodeInt_length 4 _
  have hlength : LittleEndian.decodeInt (((Value.str s).encode ++ rest).take 4) =
      (Utf8.encode s).length := by
    rw [Value.encode, List.append_assoc, List.take_left' hwidth, Frame.decodeInt_encodeInt hs]
  have hprefix : ensure ((Value.str s).encode ++ rest) 4 = .ok () := by
    simp [ensure, Value.encode, hwidth]
  have hbody : ((Value.str s).encode ++ rest).drop 4 = Utf8.encode s ++ rest := by
    simp only [Value.encode, List.append_assoc]
    exact List.drop_left' hwidth
  have henough : ensure (Utf8.encode s ++ rest) (Utf8.encode s).length = .ok () := by
    simp [ensure]
  simp only [decodeString, hprefix, hlength, hbody, Int.toNat_natCast, henough,
    List.take_left' rfl, Utf8.decode_encode]
  rfl

theorem Kind.decode_encode {v : Value} (hv : v.WellSized) {kind : Kind}
    (hk : v.request = .typed kind) (rest : List UInt8) :
    kind.decode (v.encode ++ rest) = .ok (v, v.size) := by
  cases kind with
  | scalar kind => exact Scalar.decode_encode hk rest
  | str =>
      cases v <;> simp only [Value.request, Request.typed.injEq, reduceCtorEq] at hk
      case str s =>
        simp only [Kind.decode, decodeString_encode hv rest, Value.size]
        rfl

/-! ### Values one after another -/

namespace Packet

@[simp] theorem unread_skip (p : Packet) (count : Nat) : (p.skip count).unread = p.unread.drop count := by
  simp only [unread, skip, List.drop_drop]

theorem unreadLength_eq_length_unread (p : Packet) : p.unreadLength = p.unread.length := by
  simp only [unreadLength, unread, length, List.length_drop]

theorem skip_add (p : Packet) (first second : Nat) :
    (p.skip first).skip second = p.skip (first + second) := by
  simp only [skip, Nat.add_assoc]

/-- The value at the cursor reads back as written, and the cursor moves past its bytes. -/
theorem readValue_request {v : Value} (hv : v.WellSized) {p : Packet} {rest : List UInt8}
    (h : p.unread = v.encode ++ rest) : p.readValue v.request = .ok (v, p.skip v.size) := by
  cases hreq : v.request with
  | typed kind =>
      simp only [readValue, read, h, Kind.decode_encode hv hreq rest]
      rfl
  | raw count =>
      cases v <;> simp only [Value.request, reduceCtorEq, Request.raw.injEq] at hreq
      case raw bytes =>
        subst hreq
        simp only [Value.encode] at h
        have henough : ensure (bytes ++ rest) bytes.length = .ok () := by simp [ensure]
        simp only [readValue, readBytes, h, henough, List.take_left' rfl, Value.size]
        rfl

/-- Values at the cursor read back in order, the cursor moving past all their bytes. -/
theorem readValues_requests {vs : List Value} (hvs : ∀ v ∈ vs, v.WellSized) {p : Packet}
    {rest : List UInt8} (h : p.unread = (vs.map Value.encode).flatten ++ rest) :
    p.readValues (vs.map Value.request) = .ok (vs, p.skip (vs.map Value.encode).flatten.length) := by
  induction vs generalizing p with
  | nil => rfl
  | cons v more ih =>
      have hv := hvs v (List.mem_cons_self ..)
      have hfirst : p.unread = v.encode ++ ((more.map Value.encode).flatten ++ rest) := by
        simpa using h
      have hnext : (p.skip v.size).unread = (more.map Value.encode).flatten ++ rest := by
        rw [unread_skip, hfirst, ← Value.length_encode, List.drop_left' rfl]
      simp only [List.map_cons, readValues, readValue_request hv hfirst, bind, Except.bind,
        ih (fun w hw => hvs w (List.mem_cons_of_mem v hw)) hnext, skip_add, List.flatten_cons,
        List.length_append, Value.length_encode]
      rfl

theorem foldl_write (vs : List Value) (p : Packet) :
    vs.foldl write p = { p with bytes := p.bytes ++ (vs.map Value.encode).flatten } := by
  induction vs generalizing p with
  | nil => simp
  | cons v more ih =>
      rw [List.foldl_cons, ih]
      simp [write]

/-- Peeking answers what reading would and leaves the packet as it was. -/
theorem perform_peek (p : Packet) (kind : Kind) :
    p.perform (.peek kind) = (p, (p.read kind).map fun r => .value r.1) := by
  simp only [perform, peek, read, Except.map]
  cases kind.decode p.unread <;> rfl

theorem insertFront_readValue {v : Value} (hv : v.WellSized) (p : Packet) :
    ({ p.insertFront v with cursor := 0 } : Packet).readValue v.request =
        .ok (v, ⟨v.encode ++ p.bytes, v.size⟩) ∧
      (⟨v.encode ++ p.bytes, v.size⟩ : Packet).unread = p.bytes := by
  have hfront : ({ p.insertFront v with cursor := 0 } : Packet).unread = v.encode ++ p.bytes := by
    simp [unread, insertFront]
  refine ⟨?_, ?_⟩
  · rw [readValue_request hv hfront]
    simp [skip, insertFront]
  · simp only [unread, ← Value.length_encode, List.drop_left' rfl]

end Packet

/-- Values written one after another read back in order from the packet or from a copy of its
bytes, each moving the cursor by its width, until nothing is left unread. -/
theorem written_values_read_back (vs : List Value) (hvs : ∀ v ∈ vs, v.WellSized) :
    let p := vs.foldl Packet.write Packet.empty
    Packet.ofBytes p.bytes = p ∧
      (∀ i, p.readValues ((vs.take i).map Value.request) =
        .ok (vs.take i, ⟨p.bytes, ((vs.take i).map Value.encode).flatten.length⟩)) ∧
      (∃ q, p.readValues (vs.map Value.request) = .ok (vs, q) ∧ q.unreadLength = 0) ∧
      (∀ (v : Value) (q : Packet) (rest : List UInt8), v.WellSized → q.unread = v.encode ++ rest →
        q.readValue v.request = .ok (v, q.skip v.size) ∧ v.encode.length = v.size) ∧
      (∀ (q : Packet) (kind : Kind),
        q.perform (.peek kind) = (q, (q.read kind).map fun r => .value r.1)) ∧
      (∀ (q : Packet) (v : Value), v.WellSized →
        ({ q.insertFront v with cursor := 0 } : Packet).readValue v.request =
            .ok (v, ⟨v.encode ++ q.bytes, v.size⟩) ∧
          (⟨v.encode ++ q.bytes, v.size⟩ : Packet).unread = q.bytes) := by
  have hwritten : vs.foldl Packet.write Packet.empty = ⟨(vs.map Value.encode).flatten, 0⟩ := by
    rw [Packet.foldl_write]
    rfl
  simp only [hwritten]
  refine ⟨rfl, ?_, ?_, ?_, Packet.perform_peek, fun q v hv => Packet.insertFront_readValue hv q⟩
  · intro i
    have hsplit : (⟨(vs.map Value.encode).flatten, 0⟩ : Packet).unread =
        ((vs.take i).map Value.encode).flatten ++ ((vs.drop i).map Value.encode).flatten := by
      rw [← List.flatten_append, ← List.map_append, List.take_append_drop]
      rfl
    rw [Packet.readValues_requests (fun v hv => hvs v (List.mem_of_mem_take hv)) hsplit]
    simp [Packet.skip]
  · have hall : (⟨(vs.map Value.encode).flatten, 0⟩ : Packet).unread =
        (vs.map Value.encode).flatten ++ [] := by
      simp [Packet.unread]
    refine ⟨_, Packet.readValues_requests hvs hall, ?_⟩
    simp [Packet.unreadLength, Packet.skip, Packet.length]
  · intro v q rest hv h
    exact ⟨Packet.readValue_request hv h, Value.length_encode v⟩

/-- One value of every kind, the extremes of the words, a float, a string and raw bytes read back. -/
theorem every_kind_reads_back :
    let vs := [Value.u8 0xAB, .bool true, .bool false, .i16 (-1234), .u16 54321, .i32 (-7000000),
      .u32 4000000000, .i64 (-9223372036854775808), .u64 18446744073709551615, .f32 0x40600000,
      .f64 0xBFC0000000000000, .str "héllo", .str "", .raw [0xFF, 0]]
    ∃ q, (vs.foldl Packet.write Packet.empty).readValues (vs.map Value.request) = .ok (vs, q) ∧
      q.unreadLength = 0 :=
  (written_values_read_back _ (by decide)).2.2.1

end FrameLink
