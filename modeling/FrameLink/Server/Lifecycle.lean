import FrameLink.Server.Send

/-!
The server's lifecycle. Listening binds the stream endpoint, then the datagram endpoint on the
same port; if a bind fails, everything the call bound is let go and the server is as before. A
stopped server cannot listen again, and a listening one cannot listen twice. Stopping lets go of
the endpoints (the stream address stays on record), tears every session down without telling the
application, and stops the dispatch queue, which discards the events still waiting.
-/

namespace FrameLink

namespace Server

variable {α : Type}

/-- Bind the transports the options select: the stream endpoint first, then the datagram endpoint
on the port the stream endpoint got. -/
def bindEndpoints (s : Server α) (host : Host) :
    Except IoError (Option SocketAddr × Option SocketAddr × Host) := do
  let (tcpAddr, port, host) ← if s.options.protocol.usesTcp then do
      let (a, host) ← host.bind .stream s.options.address s.options.port
      pure (some a, a.port, host)
    else pure (none, s.options.port, host)
  let (udpAddr, host) ← if s.options.protocol.usesUdp then do
      let (a, host) ← host.bind .datagram s.options.address port
      pure (some a, host)
    else pure (none, host)
  pure (tcpAddr, udpAddr, host)

def listen (s : Server α) (host : Host) : Except NetError Unit × Server α × Host :=
  if s.stopped then (.error (.invalidState "server has been stopped"), s, host)
  else if s.listening then (.error (.invalidState "server is already listening"), s, host)
  else
    match s.bindEndpoints host with
    | .ok (tcpAddr, udpAddr, host) => (.ok (), { s with listening := true, tcpAddr, udpAddr }, host)
    | .error e => (.error (.io e), s, host)

/-- Let go of the endpoints and tear every session down without telling the application. -/
def shutdown (s : Server α) : Server α :=
  let s := { s with listening := false, udpAddr := none, outgoing := [] }
  s.clientIds.foldl (fun s id => (s.teardown id .both false).2) s

/-- Stop the server for good; stopping again changes nothing. -/
def stop (s : Server α) : Server α :=
  if s.stopped then s
  else
    let s := ({ s with stopped := true } : Server α).shutdown
    { s with queue := s.queue.stop }

end Server

end FrameLink
