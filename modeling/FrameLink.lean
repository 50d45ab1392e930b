import FrameLink.Text.Blank
import FrameLink.Bytes.Hex
import FrameLink.Bytes.LittleEndian
import FrameLink.Text.Utf8
import FrameLink.Text.Decimal
import FrameLink.Text.Literal
import FrameLink.Text.Json
import FrameLink.Text.Numeral
import FrameLink.Error
import FrameLink.Packet.Value
import FrameLink.Packet.Basic
import FrameLink.Packet.Command
import FrameLink.Frame.Basic
import FrameLink.Frame.Reassembler
import FrameLink.Frame.Datagram
import FrameLink.IdentityPool
import FrameLink.SharedPool
import FrameLink.Address.Basic
import FrameLink.Address.Text
import FrameLink.Address.Parse
import FrameLink.Session.Binding
import FrameLink.Session.Stream
import FrameLink.Session.Lifecycle
import FrameLink.Session.ClientSession
import FrameLink.Options
import FrameLink.Resolve
import FrameLink.Dispatch.Queue
import FrameLink.Dispatch.Trial
import FrameLink.Dispatch.Worker
import FrameLink.Host
import FrameLink.Session.Reader
import FrameLink.Session.Writer
import FrameLink.Server.Basic
import FrameLink.Server.Send
import FrameLink.Server.Lifecycle
import FrameLink.Server.Incoming
import FrameLink.Server.Command
import FrameLink.Server.Concurrent
import FrameLink.Server.Listening
import FrameLink.Client.Basic
import FrameLink.Client.Command
import FrameLink.Client.Concurrent
import FrameLink.Loopback.Basic
import FrameLink.Loopback.Run
import FrameLink.Proofs.Reassembly
import FrameLink.Proofs.Framing
import FrameLink.Proofs.Codec
import FrameLink.Proofs.Datagram
import FrameLink.Proofs.Identities
import FrameLink.Proofs.Admission
import FrameLink.Proofs.Alignment
import FrameLink.Proofs.Tasks
import FrameLink.Proofs.Interleavings
import FrameLink.Proofs.SessionTable
import FrameLink.Proofs.IdentityReuse
import FrameLink.Proofs.DispatchOrder
import FrameLink.Proofs.DispatchStop
import FrameLink.Proofs.SessionLifecycle
import FrameLink.Proofs.ClientSteps
import FrameLink.Proofs.ClientReports
import FrameLink.Proofs.ClientCustody
import FrameLink.Proofs.PacketCursor
import FrameLink.Proofs.DatagramDecision
import FrameLink.Proofs.ReaderEvents
import FrameLink.Proofs.PoolExclusion
import FrameLink.Proofs.Buffering
import FrameLink.Proofs.IdentityArithmetic
import FrameLink.Proofs.ListenRollback
