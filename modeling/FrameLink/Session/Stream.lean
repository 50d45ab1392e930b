import FrameLink.Address.Basic
import FrameLink.Options
import FrameLink.Packet.Basic

/-!
Stream sessions: one stream connection from creation to its close. A session starts
`connecting`, becomes `connected` when its connection is attached, and ends `disconnected`,
which is final. Bytes sent before the attach wait in order; once closed, sending fails and
nothing waits any more.
-/

namespace FrameLink

/-- The stages of a stream session. `idle` names the stage before any session exists. -/
inductive LinkState where
  | idle
  | connecting
  | connected
  | disconnected
deriving DecidableEq, Repr

def LinkState.name : LinkState → String
  | .idle => "Idle"
  | .connecting => "Connecting"
  | .connected => "Connected"
  | .disconnected => "Disconnected"

/-- A stream session: its peer, its stage, and the bytes waiting for the writer, oldest first. -/
structure StreamSession where
  peer : SocketAddr
  state : LinkState
  outgoing : List (List UInt8)
deriving Repr

namespace StreamSession

def new (peer : SocketAddr) : StreamSession := ⟨peer, .connecting, []⟩

def isConnected (s : StreamSession) : Bool := s.state = .connected

/-- Attach the connection: only a session still connecting becomes connected; whether it did. -/
def attach (s : StreamSession) : Bool × StreamSession :=
  if s.state = .connecting then (true, { s with state := .connected }) else (false, s)

def send (s : StreamSession) (data : List UInt8) : Except NetError StreamSession :=
  if s.state = .disconnected then .error .notConnected
  else .ok { s with outgoing := s.outgoing ++ [data] }

/-- Close the session: `true` for the call that closed it, `false` afterwards. -/
def close (s : StreamSession) : Bool × StreamSession :=
  if s.state = .disconnected then (false, s)
  else (true, { s with state := .disconnected, outgoing := [] })

end StreamSession

/-- What the reader and writer of a stream session tell its owner. -/
inductive StreamEvent where
  | frame (payload : Packet)
  /-- The session must end: the peer closed, or a failure ends it. -/
  | closed
  | failed (operation : FailedOperation) (error : NetError)

end FrameLink
