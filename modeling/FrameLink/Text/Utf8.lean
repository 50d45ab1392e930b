/-!
UTF-8 text in byte strings. A byte string is read as text exactly when it is well-formed UTF-8;
when it is not, the fault names the length of the longest well-formed prefix and the length of
the ill-formed sequence after it (one to three bytes), or says that the input ended inside a
sequence. The fault follows the Unicode rule of maximal subparts: a sequence is cut at the first
byte that cannot continue it. Main statement: the bytes of a string read back as that string
(`decode_encode`).
-/

namespace FrameLink.Utf8

/-- Where a byte string stops being UTF-8: the length of its well-formed prefix, and of the
ill-formed sequence after it (`none` when the input ends inside one). -/
structure Fault where
  validUpTo : Nat
  errorLen : Option Nat
deriving DecidableEq, Repr

def Fault.message : Fault → String
  | ⟨i, some k⟩ => s!"invalid utf-8 sequence of {k} bytes from index {i}"
  | ⟨i, none⟩ => s!"incomplete utf-8 byte sequence from index {i}"

/-- A continuation byte, `10xxxxxx`. -/
def isContinuation (b : UInt8) : Bool :=
  0x80 ≤ b.toNat && b.toNat ≤ 0xBF

/-- Whether `b` may follow `lead` as the second byte of a sequence; the ranges exclude overlong
forms, surrogates and code points above U+10FFFF. -/
def secondFits (lead b : UInt8) : Bool :=
  let l := lead.toNat
  let n := b.toNat
  if l = 0xE0 then 0xA0 ≤ n && n ≤ 0xBF
  else if l = 0xED then 0x80 ≤ n && n ≤ 0x9F
  else if l = 0xF0 then 0x90 ≤ n && n ≤ 0xBF
  else if l = 0xF4 then 0x80 ≤ n && n ≤ 0x8F
  else isContinuation b

/-- The length of the sequence a lead byte opens, or `0` for a byte that opens none. -/
def sequenceLength (lead : UInt8) : Nat :=
  let l := lead.toNat
  if l < 0x80 then 1
  else if 0xC2 ≤ l ∧ l ≤ 0xDF then 2
  else if 0xE0 ≤ l ∧ l ≤ 0xEF then 3
  else if 0xF0 ≤ l ∧ l ≤ 0xF4 then 4
  else 0

/-- What a byte string starts with: a whole character of the given length, or a fault with the
length of the ill-formed sequence. -/
inductive Head where
  | char (len : Nat)
  | fault (errorLen : Option Nat)

def head (lead : UInt8) (rest : List UInt8) : Head :=
  match sequenceLength lead, rest with
  | 1, _ => .char 1
  | 2, [] => .fault none
  | 2, c :: _ => if isContinuation c then .char 2 else .fault (some 1)
  | 3, [] => .fault none
  | 3, [c] => if secondFits lead c then .fault none else .fault (some 1)
  | 3, c :: d :: _ =>
    if !secondFits lead c then .fault (some 1)
    else if !isContinuation d then .fault (some 2)
    else .char 3
  | 4, [] => .fault none
  | 4, [c] => if secondFits lead c then .fault none else .fault (some 1)
  | 4, [c, d] =>
    if !secondFits lead c then .fault (some 1)
    else if !isContinuation d then .fault (some 2)
    else .fault none
  | 4, c :: d :: e :: _ =>
    if !secondFits lead c then .fault (some 1)
    else if !isContinuation d then .fault (some 2)
    else if !isContinuation e then .fault (some 3)
    else .char 4
  | _, _ => .fault (some 1)

/-- The first fault of `bytes`, whose first byte sits at index `offset` of the whole input. -/
def scan (bytes : List UInt8) (offset : Nat) : Option Fault :=
  match bytes with
  | [] => none
  | b :: rest =>
    match head b rest with
    | .char n => scan (rest.drop (n - 1)) (offset + n)
    | .fault e => some ⟨offset, e⟩
termination_by bytes.length
decreasing_by
  simp only [List.length_drop, List.length_cons]
  omega

def firstFault (bytes : List UInt8) : Option Fault :=
  scan bytes 0

def encode (s : String) : List UInt8 :=
  s.toUTF8.data.toList

/-- The string a byte string spells, or where it stops being UTF-8. -/
def decode (bytes : List UInt8) : Except Fault String :=
  match ByteArray.utf8Decode? ⟨bytes.toArray⟩ with
  | some chars => .ok (String.ofList chars.toList)
  | none => .error ((firstFault bytes).getD ⟨bytes.length, none⟩)

theorem decode_encode (s : String) : decode (encode s) = .ok s := by
  have bytes : (⟨(encode s).toArray⟩ : ByteArray) = s.toList.utf8Encode := by
    rw [String.utf8Encode_toList]
    simp [encode]
  simp only [decode, bytes, List.utf8Decode?_utf8Encode,
    String.ofList_toList]

end FrameLink.Utf8
