import FrameLink.Frame.Basic

/-!
The reassembler: it receives a byte stream in pieces of any size and hands out the frames in
it, in order, as soon as each is complete. Bytes that do not yet form a whole frame wait for
the next piece. A refused length prefix ends the push with an error after the
frames before it, and discards everything pending, since the stream cannot be read on from
there.
-/

namespace FrameLink

/-- A frame limit and the bytes received but not yet handed out. -/
structure Reassembler where
  limit : Nat
  pending : List UInt8
deriving Repr

namespace Reassembler

/-- The frame limit when none is given: 16 MiB. -/
def defaultLimit : Nat := 16777216

def new (limit : Nat := defaultLimit) : Reassembler := ⟨limit, []⟩

def buffered (r : Reassembler) : Nat := r.pending.length

def clear (r : Reassembler) : Reassembler := { r with pending := [] }

/-- Frames cut from pending bytes, the refusal that stopped the cutting if any, and what is left. -/
structure Cut where
  frames : List Packet
  error : Option NetError
  pending : List UInt8

/-- Cut whole frames off the front of `bytes`, after the frames `done` (last first). A frame not
complete stays pending, its prefix included; a refused prefix drops everything. -/
def cutFrom (limit : Nat) (done : List Packet) : List UInt8 → Cut
  | b0 :: b1 :: b2 :: b3 :: rest =>
    let length := Frame.announced [b0, b1, b2, b3]
    if length ≤ 0 then ⟨done.reverse, some (.invalidFrameLength length), []⟩
    else if limit < length.toNat then ⟨done.reverse, some (.frameTooLarge length.toNat limit), []⟩
    else
      let body := rest.take length.toNat
      if body.length < length.toNat then ⟨done.reverse, none, b0 :: b1 :: b2 :: b3 :: rest⟩
      else cutFrom limit (Packet.ofBytes body :: done) (rest.drop length.toNat)
  | bytes => ⟨done.reverse, none, bytes⟩
termination_by bytes => bytes.length
decreasing_by
  simp only [List.length_drop, List.length_cons]
  omega

def cut (limit : Nat) (bytes : List UInt8) : Cut := cutFrom limit [] bytes

/-- What one push hands out: the frames it completed, its refusal if any, and the reassembler after. -/
structure Push where
  frames : List Packet
  error : Option NetError
  next : Reassembler

def push (r : Reassembler) (data : List UInt8) : Push :=
  let c := cut r.limit (r.pending ++ data)
  ⟨c.frames, c.error, { r with pending := c.pending }⟩

inductive Command where
  | push (data : List UInt8)
  | clear
  | buffered
deriving Repr

/-- What an operation answers: the frames and refusal of a push, or only the state after it. -/
inductive Reply where
  | pushed (frames : List Packet) (error : Option NetError)
  | done

def perform (r : Reassembler) : Command → Reassembler × Reply
  | .push data =>
    let out := r.push data
    (out.next, .pushed out.frames out.error)
  | .clear => (r.clear, .done)
  | .buffered => (r, .done)

def performAll (r : Reassembler) : List Command → List (Reassembler × Reply)
  | [] => []
  | c :: rest =>
    let (next, reply) := r.perform c
    (next, reply) :: performAll next rest

end Reassembler

end FrameLink
