import FrameLink.Session.Stream

/-!
The writer of a stream session: it writes the queued byte strings in order, each whole or
until a failure. What reaches the connection, and what the writer tells the session's owner,
follow from the outcome of each write. A failed write is reported; it ends the session when the
options say so, and otherwise the writer goes on with the next byte string.
-/

namespace FrameLink

inductive WriteOutcome where
  | complete
  /-- The write failed, or ran out of time, after `written` bytes went out. -/
  | cut (written : Nat) (error : IoError)
deriving Repr

/-- The bytes the writer puts on the connection and the events it reports, for the queued byte
strings and the outcomes of their writes; it waits when either runs out. -/
def writeStream (disconnectOnError : Bool) :
    List (List UInt8) → List WriteOutcome → List UInt8 × List StreamEvent
  | [], _ => ([], [])
  | _ :: _, [] => ([], [])
  | data :: rest, .complete :: outcomes =>
    let (wire, events) := writeStream disconnectOnError rest outcomes
    (data ++ wire, events)
  | data :: rest, .cut written e :: outcomes =>
    let report := StreamEvent.failed .sendTcp (.io e)
    if disconnectOnError then (data.take written, [report, .closed])
    else
      let (wire, events) := writeStream disconnectOnError rest outcomes
      (data.take written ++ wire, report :: events)

end FrameLink
