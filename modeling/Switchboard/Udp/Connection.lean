import Switchboard.Connection.Note
import Switchboard.Connection.SendRequest

/-!
# Datagram connections

A datagram connection is one remote endpoint as a service sees it. A passive one owns no socket:
what it sends and its wish to close are requests to the acceptor that found the endpoint. An active
one has a socket of its own with a driver. Sending is refused from the moment the connection no
longer runs; closing is always possible and harmless when repeated.
-/

namespace Switchboard

/-- A datagram connection as its handles see it. -/
structure UdpConnection where
  /-- Its id. -/
  id : ConnectionId
  /-- Who started it. -/
  direction : Direction
  /-- The token of its requester. -/
  identity : Identity
  /-- The local end. -/
  host : Endpoint
  /-- The remote end. -/
  peer : Endpoint
  /-- Where it is in its life. -/
  state : ConnectionState := .running
  deriving DecidableEq, Repr

namespace UdpConnection

/-- Whether data may be sent. -/
def isRunning (c : UdpConnection) : Bool := c.state = .running

/-- Whether the other side started the connection. -/
def isPassive (c : UdpConnection) : Bool := c.direction = .passive

/-- Moves the connection on. -/
def withState (c : UdpConnection) (s : ConnectionState) : UdpConnection := { c with state := s }

/-- What becomes of a request to send: chunks are refused unless the connection runs. -/
def screen (c : UdpConnection) : SendRequest → SendRequest
  | .answered granted => .answered granted
  | .chunk data => if c.isRunning then .chunk data else .answered false

/-- The connection as a log shows it, with its id and its peer shown in the given way. -/
def describe (c : UdpConnection) (id peer : String) : String :=
  "UdpConnection \x7b id: ConnectionId(" ++ id ++ "), direction: " ++
    (if c.isPassive then "Passive" else "Active") ++ ", peer_addr: " ++ peer ++
    ", state: " ++ c.state.name ++ " \x7d"

end UdpConnection

/-- What can be asked of the driver of an active connection. -/
inductive UdpCommand where
  /-- Send a datagram. -/
  | send (data : Bytes)
  /-- Close the connection. -/
  | close
  deriving DecidableEq, Repr

/-- What can be asked of an acceptor. -/
inductive AcceptorCommand where
  /-- Send a datagram to an endpoint on behalf of a connection. -/
  | send (peer : Endpoint) (id : ConnectionId) (data : Bytes)
  /-- Close a connection of an endpoint. -/
  | close (peer : Endpoint) (id : ConnectionId)
  /-- Stop altogether. -/
  | stop
  deriving DecidableEq, Repr

end Switchboard
