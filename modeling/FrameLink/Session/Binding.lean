import FrameLink.Address.Basic

/-!
Datagram admission for one session. The first datagram whose source has the same canonical IP
address as the session's stream peer binds its exact source endpoint; from then on only that
endpoint is accepted, until the binding is cleared. A datagram from any other source changes
nothing.
-/

namespace FrameLink

inductive Admission where
  /-- The first datagram from the stream peer's address: its endpoint is now bound. -/
  | bound
  /-- A datagram from the bound endpoint. -/
  | accepted
  /-- Nothing bound, and the source address differs from the stream peer's. -/
  | addressMismatch
  /-- Bound, and the source is another endpoint. -/
  | spoofed
deriving DecidableEq, Repr

structure DatagramBinding where
  endpoint : Option SocketAddr
deriving DecidableEq, Repr

namespace DatagramBinding

def empty : DatagramBinding := ⟨none⟩

/-- Judge the source of a datagram against the binding and the stream peer, binding the first one
from the peer's address. -/
def checkSource (b : DatagramBinding) (source peer : SocketAddr) : Admission × DatagramBinding :=
  match b.endpoint with
  | some e => if e = source then (.accepted, b) else (.spoofed, b)
  | none =>
    if source.ip.canonical = peer.ip.canonical then (.bound, ⟨some source⟩)
    else (.addressMismatch, b)

def clear (b : DatagramBinding) : Bool × DatagramBinding :=
  (b.endpoint.isSome, empty)

inductive Command where
  | checkSource (source peer : SocketAddr)
  | endpoint
  | clear

inductive Reply where
  | admission (a : Admission)
  | endpoint (e : Option SocketAddr)
  | flag (b : Bool)

def perform (b : DatagramBinding) : Command → DatagramBinding × Reply
  | .checkSource source peer =>
    let (a, next) := b.checkSource source peer
    (next, .admission a)
  | .endpoint => (b, .endpoint b.endpoint)
  | .clear =>
    let (was, next) := b.clear
    (next, .flag was)

def performAll (b : DatagramBinding) : List Command → List (DatagramBinding × Reply)
  | [] => []
  | c :: rest =>
    let (next, reply) := b.perform c
    (next, reply) :: performAll next rest

end DatagramBinding

end FrameLink
