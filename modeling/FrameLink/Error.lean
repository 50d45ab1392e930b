import FrameLink.Text.Utf8

/-!
Errors of the transport, each a cause with the data that explains it, and the one function that
words them. Decoding errors carry counts of bytes; input/output errors carry what the operating
system or a time limit reported.
-/

namespace FrameLink

/-- Identity the server gives a connected client; the first is `1`. -/
abbrev ClientId := UInt32

inductive OsError where
  /-- An argument the call cannot take, such as a link-local peer with no scope. -/
  | invalidArgument
  /-- No local address can serve the endpoint. -/
  | addressNotAvailable
  /-- Another socket holds the local endpoint. -/
  | addressInUse
  /-- The socket's family cannot carry the endpoint's address. -/
  | addressFamilyNotSupported
  | networkUnreachable
  | connectionRefused
deriving DecidableEq, Repr

/-- The number the operating system gives the failure. -/
def OsError.code : OsError → Nat
  | .invalidArgument => 22
  | .addressNotAvailable => 99
  | .addressInUse => 98
  | .addressFamilyNotSupported => 97
  | .networkUnreachable => 101
  | .connectionRefused => 111

def OsError.description : OsError → String
  | .invalidArgument => "Invalid argument"
  | .addressNotAvailable => "Cannot assign requested address"
  | .addressInUse => "Address already in use"
  | .addressFamilyNotSupported => "Address family not supported by protocol"
  | .networkUnreachable => "Network is unreachable"
  | .connectionRefused => "Connection refused"

/-- An input/output failure: reported by the operating system, or a time limit that ran out while
an operation waited. -/
inductive IoError where
  | os (error : OsError)
  | timedOut (operation : String)
deriving DecidableEq, Repr

def IoError.message : IoError → String
  | .os error =>
    let text := error.description
    let code := error.code
    s!"{text} (os error {code})"
  | .timedOut operation => operation ++ " timed out"

inductive NetError where
  | invalidOptions (reason : String)
  /-- An operation on a transport the instance was not configured for. -/
  | invalidProtocol (reason : String)
  /-- An operation not valid in the current stage of the lifecycle. -/
  | invalidState (reason : String)
  | clientNotFound (id : ClientId)
  | notConnected
  | truncated (needed available : Nat)
  /-- A frame length prefix that is zero or negative. -/
  | invalidFrameLength (length : Int)
  /-- A frame longer than the limit. -/
  | frameTooLarge (size limit : Nat)
  /-- A datagram longer than one datagram can carry. -/
  | datagramTooLarge (size limit : Nat)
  /-- A negative string length prefix. -/
  | invalidStringLength (length : Int)
  | io (error : IoError)
  | utf8 (fault : Utf8.Fault)
deriving DecidableEq, Repr

def NetError.message : NetError → String
  | .invalidOptions reason => "Invalid options: " ++ reason
  | .invalidProtocol reason => "Invalid protocol: " ++ reason
  | .invalidState reason => "Invalid state: " ++ reason
  | .clientNotFound id => s!"Client {id} not found"
  | .notConnected => "Not connected"
  | .truncated needed available => s!"Not enough data: needed {needed} bytes, {available} available"
  | .invalidFrameLength length => s!"Invalid frame length: {length}"
  | .frameTooLarge size limit => s!"Frame too large: {size} bytes (max: {limit})"
  | .datagramTooLarge size limit => s!"Datagram too large: {size} bytes (max: {limit})"
  | .invalidStringLength length => s!"Invalid string length: {length}"
  | .io error => "I/O error: " ++ error.message
  | .utf8 fault => "UTF-8 conversion error: " ++ fault.message

end FrameLink
