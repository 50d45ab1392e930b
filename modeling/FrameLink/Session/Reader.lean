import FrameLink.Session.Stream
import FrameLink.Frame.Reassembler

/-!
The reader of a stream session: what it tells the session's owner for a sequence of read
outcomes, while the session stays connected. Data goes through a reassembler and each frame is
handed on; a refused frame length is reported and ends the session, whatever the options say.
The peer closing, or the connection dropping under it, ends the session silently. Any other
failure is reported; it ends the session when the options say so, and otherwise the reader goes
on after a time limit and stops after anything else.
-/

namespace FrameLink

inductive ReadFailure where
  /-- The connection was reset, aborted, broken or ended early by the peer. -/
  | remoteClose
  | timedOut
  | other
deriving DecidableEq, Repr

inductive ReadOutcome where
  | data (bytes : List UInt8)
  /-- The peer closed its end: a read of no bytes. -/
  | eof
  | failed (kind : ReadFailure) (error : IoError)
deriving Repr

/-- The events the reader reports for the read outcomes, the reassembler holding what came before. -/
def readEvents (disconnectOnError : Bool) : Reassembler → List ReadOutcome → List StreamEvent
  | _, [] => []
  | r, .data bytes :: rest =>
    let out := r.push bytes
    out.frames.map .frame ++
      match out.error with
      | some e => [.failed .receiveTcp e, .closed]
      | none => readEvents disconnectOnError out.next rest
  | _, .eof :: _ => [.closed]
  | _, .failed .remoteClose _ :: _ => [.closed]
  | r, .failed kind e :: rest =>
    .failed .receiveTcp (.io e) ::
      if disconnectOnError then [.closed]
      else if kind = .timedOut then readEvents disconnectOnError r rest
      else []

end FrameLink
