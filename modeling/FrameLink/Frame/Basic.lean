import FrameLink.Packet.Basic

/-!
Frames on a byte stream: the length of the payload as a signed 32-bit little-endian word, then
the payload. Writing a frame puts the whole content of a packet behind its length. Reading a
whole byte string cuts frames off its front while a length prefix is there: a prefix that is not
positive, or above the limit, stops the reading with an error, and a frame that is not complete
yet stops it with the bytes left over.
-/

namespace FrameLink

/-- Bytes of the length prefix in front of every frame. -/
def prefixSize : Nat := 4

/-- The bytes of a packet as a frame: its length, then its whole content, whatever its cursor;
content longer than a signed 32-bit word can count is refused. -/
def encodeFrame (p : Packet) : Except NetError (List UInt8) :=
  (p.writeLength).map Packet.bytes

namespace Frame

/-- Why cutting frames stopped: the bytes left hold no whole frame yet, or a prefix was refused. -/
inductive Stop where
  | incomplete (rest : List UInt8)
  | refused (error : NetError)
deriving DecidableEq, Repr

def announced (bytes : List UInt8) : Int :=
  LittleEndian.decodeInt (bytes.take prefixSize)

/-- The frames at the front of a byte string and why the cutting stopped; a length prefix that is
not positive, or above `limit`, is refused. -/
def parse (limit : Nat) (bytes : List UInt8) : List (List UInt8) × Stop :=
  if bytes.length < prefixSize then ([], .incomplete bytes)
  else
    let length := announced bytes
    if length ≤ 0 then ([], .refused (.invalidFrameLength length))
    else if limit < length.toNat then ([], .refused (.frameTooLarge length.toNat limit))
    else if bytes.length < prefixSize + length.toNat then ([], .incomplete bytes)
    else
      let rest := parse limit (bytes.drop (prefixSize + length.toNat))
      ((bytes.drop prefixSize).take length.toNat :: rest.1, rest.2)
termination_by bytes.length
decreasing_by
  simp only [List.length_drop, prefixSize] at *
  omega

end Frame

end FrameLink
