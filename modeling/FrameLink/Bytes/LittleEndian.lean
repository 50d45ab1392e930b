/-!
Little-endian words: a number is written in a fixed count of bytes, least significant first,
and a signed number in two's complement. Main statements: a written word has its width
(`length_encode`), reads back modulo its range (`decode_encode`), and a byte string is the word
of its own value (`encode_decode`).
-/

namespace FrameLink.LittleEndian

/-- The `width` low bytes of `n`, least significant first. -/
def encode : Nat → Nat → List UInt8
  | 0, _ => []
  | width + 1, n => UInt8.ofNat (n % 256) :: encode width (n / 256)

def decode : List UInt8 → Nat
  | [] => 0
  | b :: rest => b.toNat + 256 * decode rest

/-- The two's complement of `v` in `width` bytes: `v` taken modulo `2 ^ (8 * width)`. -/
def encodeInt (width : Nat) (v : Int) : List UInt8 :=
  encode width (v % (Nat.pow 2 (8 * width) : Nat)).toNat

def decodeInt (bytes : List UInt8) : Int :=
  let n := decode bytes
  if 2 * n < Nat.pow 2 (8 * bytes.length) then n else (n : Int) - (Nat.pow 2 (8 * bytes.length) : Nat)

@[simp] theorem length_encode (width n : Nat) : (encode width n).length = width := by
  induction width generalizing n with
  | zero => rfl
  | succ w ih => simp [encode, ih]

theorem decode_lt (bytes : List UInt8) : decode bytes < Nat.pow 2 (8 * bytes.length) := by
  rw [Nat.pow_eq]
  induction bytes with
  | nil => simp [decode]
  | cons b rest ih =>
    have hb := b.toNat_lt
    simp only [decode, List.length_cons]
    rw [show 8 * (rest.length + 1) = 8 * rest.length + 8 by omega, Nat.pow_add]
    have : 2 ^ 8 = 256 := rfl
    omega

theorem decode_encode (width n : Nat) : decode (encode width n) = n % Nat.pow 2 (8 * width) := by
  rw [Nat.pow_eq]
  induction width generalizing n with
  | zero => simp [encode, decode, Nat.mod_one]
  | succ w ih =>
    simp only [encode, decode, ih]
    rw [show 8 * (w + 1) = 8 + 8 * w by omega, Nat.pow_add, Nat.mod_mul]
    have two : (2 : Nat) ^ 8 = 256 := rfl
    have low : (UInt8.ofNat (n % 256)).toNat = n % 256 := by
      rw [UInt8.toNat_ofNat']
      omega
    rw [two, low]

theorem encode_decode (bytes : List UInt8) : encode bytes.length (decode bytes) = bytes := by
  induction bytes with
  | nil => rfl
  | cons b rest ih =>
    have hb := b.toNat_lt
    have low : (b.toNat + 256 * decode rest) % 256 = b.toNat := by omega
    have high : (b.toNat + 256 * decode rest) / 256 = decode rest := by omega
    simp only [List.length_cons, encode, decode, low, high, ih, UInt8.ofNat_toNat]

theorem decode_append (a b : List UInt8) :
    decode (a ++ b) = decode a + Nat.pow 2 (8 * a.length) * decode b := by
  rw [Nat.pow_eq]
  induction a with
  | nil => simp [decode]
  | cons x rest ih =>
    simp only [List.cons_append, decode, ih, List.length_cons]
    rw [show 8 * (rest.length + 1) = 8 + 8 * rest.length by omega, Nat.pow_add]
    have : (2 : Nat) ^ 8 = 256 := rfl
    rw [this, Nat.mul_add, Nat.mul_assoc]
    omega

theorem encodeInt_length (width : Nat) (v : Int) : (encodeInt width v).length = width := by
  simp [encodeInt]

end FrameLink.LittleEndian
