import FrameLink.Text.Blank

/-!
Hexadecimal text of byte strings. A byte is written as two lowercase digits, high half first;
reading takes digits of either case, or a plus sign and one digit, and skips blanks anywhere.
Main statement: reading what was written gives the bytes back (`decode_encode`).
-/

namespace FrameLink.Hex

/-- The digit of a value below sixteen: `0`–`9`, then `a`–`f`. -/
def digit (n : Nat) : Char :=
  if n < 10 then Char.ofNat (48 + n) else Char.ofNat (87 + n)

def pair (b : UInt8) : List Char :=
  [digit (b.toNat / 16), digit (b.toNat % 16)]

def encodeChars (bytes : List UInt8) : List Char :=
  bytes.flatMap pair

def encode (bytes : List UInt8) : String :=
  String.ofList (encodeChars bytes)

def digitValue? (c : Char) : Option Nat :=
  if '0' ≤ c ∧ c ≤ '9' then some (c.toNat - 48)
  else if 'a' ≤ c ∧ c ≤ 'f' then some (c.toNat - 87)
  else if 'A' ≤ c ∧ c ≤ 'F' then some (c.toNat - 55)
  else none

inductive DecodeError where
  /-- The text, blanks removed, has an odd number of UTF-8 bytes. -/
  | oddLength
  /-- A pair of characters that is no byte. -/
  | badPair (pair : String)
deriving DecidableEq, Repr

def DecodeError.message : DecodeError → String
  | .oddLength => "odd hex length"
  | .badPair p => "bad hex: " ++ p

/-- The byte two characters stand for: two digits, or a plus sign and one digit. -/
def pairValue? (hi lo : Char) : Option Nat :=
  if hi = '+' then digitValue? lo
  else do
    let h ← digitValue? hi
    let l ← digitValue? lo
    pure (16 * h + l)

/-- Bytes from characters taken two at a time; a character of two UTF-8 bytes is never a byte. -/
def decodeChars : List Char → Except DecodeError (List UInt8)
  | [] => .ok []
  | [c] => .error (.badPair (String.singleton c))
  | hi :: lo :: rest =>
    if hi.utf8Size = 2 then .error (.badPair (String.singleton hi))
    else
      match pairValue? hi lo with
      | some v => (UInt8.ofNat v :: ·) <$> decodeChars rest
      | none => .error (.badPair (String.ofList [hi, lo]))

def utf8Length (cs : List Char) : Nat := cs.foldr (fun c n => c.utf8Size + n) 0

/-- The bytes of a hexadecimal text: blanks are skipped, and the rest must have an even number of
UTF-8 bytes. -/
def decode (text : String) : Except DecodeError (List UInt8) :=
  let cs := text.toList.filter fun c => !Blank.isBlank c
  if utf8Length cs % 2 = 1 then .error .oddLength else decodeChars cs

theorem digitValue_digit {n : Nat} (h : n < 16) : digitValue? (digit n) = some n := by
  rcases n with _ | _ | _ | _ | _ | _ | _ | _ | _ | _ | _ | _ | _ | _ | _ | _ | n
  all_goals first | rfl | omega

/-- A digit is one plain ASCII character: one UTF-8 byte, no plus sign, no blank. -/
theorem digit_plain {n : Nat} (h : n < 16) :
    (digit n).utf8Size = 1 ∧ digit n ≠ '+' ∧ Blank.isBlank (digit n) = false := by
  rcases n with _ | _ | _ | _ | _ | _ | _ | _ | _ | _ | _ | _ | _ | _ | _ | _ | n
  all_goals first | decide | omega

theorem pair_plain (b : UInt8) :
    ∀ c ∈ pair b, c.utf8Size = 1 ∧ c ≠ '+' ∧ Blank.isBlank c = false := by
  have hb := b.toNat_lt
  intro c hc
  simp only [pair, List.mem_cons, List.not_mem_nil, or_false] at hc
  rcases hc with rfl | rfl
  · exact digit_plain (by omega)
  · exact digit_plain (Nat.mod_lt _ (by decide))

theorem encodeChars_plain (bytes : List UInt8) :
    ∀ c ∈ encodeChars bytes, c.utf8Size = 1 ∧ c ≠ '+' ∧ Blank.isBlank c = false := by
  intro c hc
  simp only [encodeChars, List.mem_flatMap] at hc
  obtain ⟨b, -, hc⟩ := hc
  exact pair_plain b c hc

theorem decodeChars_encodeChars (bytes : List UInt8) :
    decodeChars (encodeChars bytes) = .ok bytes := by
  induction bytes with
  | nil => rfl
  | cons b rest ih =>
    have hb := b.toNat_lt
    have hi : b.toNat / 16 < 16 := by omega
    have lo : b.toNat % 16 < 16 := Nat.mod_lt _ (by decide)
    have split : UInt8.ofNat (16 * (b.toNat / 16) + b.toNat % 16) = b := by
      rw [Nat.div_add_mod]
      exact UInt8.ofNat_toNat
    obtain ⟨size, notPlus, -⟩ := digit_plain hi
    simp only [encodeChars, List.flatMap_cons, pair, List.cons_append, List.nil_append] at ih ⊢
    simp only [decodeChars, size, pairValue?, notPlus, digitValue_digit hi, digitValue_digit lo,
      ih]
    rw [if_neg (by decide), if_neg not_false]
    show Except.ok (UInt8.ofNat (16 * (b.toNat / 16) + b.toNat % 16) :: rest) = _
    rw [split]

theorem utf8Length_encodeChars (bytes : List UInt8) :
    utf8Length (encodeChars bytes) = 2 * bytes.length := by
  induction bytes with
  | nil => rfl
  | cons b rest ih =>
    have hb := b.toNat_lt
    have hi := (digit_plain (n := b.toNat / 16) (by omega)).1
    have lo := (digit_plain (Nat.mod_lt b.toNat (show 16 > 0 by decide))).1
    simp only [utf8Length, encodeChars, List.flatMap_cons, List.foldr_append, pair,
      List.foldr_cons, List.foldr_nil, hi, lo] at ih ⊢
    rw [ih, List.length_cons]
    omega

theorem decode_encode (bytes : List UInt8) : decode (encode bytes) = .ok bytes := by
  have keep : (encodeChars bytes).filter (fun c => !Blank.isBlank c) = encodeChars bytes :=
    List.filter_eq_self.2 fun c hc => by simp [(encodeChars_plain bytes c hc).2.2]
  have even : ¬ (2 * bytes.length) % 2 = 1 := by omega
  simp only [decode, encode, String.toList_ofList, keep, utf8Length_encodeChars]
  rw [if_neg even, decodeChars_encodeChars]

end FrameLink.Hex
