import FrameLink.Frame.Basic

/-!
Datagrams: a frame, optionally behind the sender's identity as an unsigned 32-bit little-endian
word, in one datagram of at most 65507 bytes. Reading a datagram takes the length prefix and then
exactly that many bytes; bytes after them are ignored.
-/

namespace FrameLink

/-- The largest payload one datagram carries. -/
def maxDatagramSize : Nat := 65507

/-- The bytes of a packet as a datagram: the sender's identity if given, then the packet as a frame;
a datagram longer than `maxDatagramSize` is refused with its size. -/
def encodeDatagram (p : Packet) (id : Option ClientId) : Except NetError (List UInt8) := do
  let framed ← p.writeLength
  let tagged := match id with
    | some k => framed.insertFront (.u32 k)
    | none => framed
  if maxDatagramSize < tagged.length then
    throw (.datagramTooLarge tagged.length maxDatagramSize)
  pure tagged.bytes

/-- A datagram too short to hold even a length prefix. -/
def isRunt (data : List UInt8) : Bool :=
  data.length < prefixSize

/-- Read the frame after the cursor of a datagram: the packet after the attempt, and the payload.
The prefix stays read when the length it announces is refused or not there. -/
def decodeDatagramPayload (d : Packet) : Packet × Except NetError Packet :=
  match d.readBytes prefixSize with
  | .error e => (d, .error e)
  | .ok (pre, afterPrefix) =>
    let length := LittleEndian.decodeInt pre
    if length ≤ 0 then (afterPrefix, .error (.invalidFrameLength length))
    else
      match afterPrefix.readBytes length.toNat with
      | .error e => (afterPrefix, .error e)
      | .ok (payload, rest) => (rest, .ok (Packet.ofBytes payload))

end FrameLink
