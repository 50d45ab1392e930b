import FrameLink.Packet.Basic

/-!
Commands on a packet and what each answers, so that a sequence of operations can be replayed
and every intermediate packet inspected. An error is the answer of its command and leaves the
packet unchanged; the commands after it still run.
-/

namespace FrameLink

inductive Packet.Command where
  | write (v : Value)
  | insertFront (v : Value)
  | read (kind : Kind)
  | peek (kind : Kind)
  | readBytes (count : Nat)
  | rewind (count : Nat)
  | reset
  | discardRead
  | append (data : List UInt8)
  | writeLength
  /-- The bytes after the cursor. -/
  | unread
  /-- The whole content. -/
  | contents
deriving Repr

/-- What a command answers besides the packet it leaves. -/
inductive Packet.Reply where
  | done
  | value (v : Value)
  | bytes (data : List UInt8)
deriving Repr

namespace Packet

def perform (p : Packet) : Command → Packet × Except NetError Reply
  | .write v => (p.write v, .ok .done)
  | .insertFront v => (p.insertFront v, .ok .done)
  | .read kind =>
    match p.read kind with
    | .ok (v, q) => (q, .ok (.value v))
    | .error e => (p, .error e)
  | .peek kind => (p, (p.peek kind).map .value)
  | .readBytes count =>
    match p.readBytes count with
    | .ok (data, q) => (q, .ok (.bytes data))
    | .error e => (p, .error e)
  | .rewind count => (p.rewind count, .ok .done)
  | .reset => (empty, .ok .done)
  | .discardRead => (p.discardRead, .ok .done)
  | .append data => (p.append data, .ok .done)
  | .writeLength =>
    match p.writeLength with
    | .ok q => (q, .ok .done)
    | .error e => (p, .error e)
  | .unread => (p, .ok (.bytes p.unread))
  | .contents => (p, .ok (.bytes p.bytes))

def performAll (p : Packet) : List Command → List (Packet × Except NetError Reply)
  | [] => []
  | c :: rest =>
    let (q, reply) := p.perform c
    (q, reply) :: performAll q rest

end Packet

end FrameLink
