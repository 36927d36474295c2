import Switchboard.Connection.Note
import Switchboard.Connection.SendRequest

/-!
# Stream connections

A stream connection is a socket, plain or encrypted, that a driver owns. Its handles can be used
from anywhere: what they ask for is posted to the driver. Whether a chunk is accepted for sending
depends on nothing but whether the driver still takes requests.
-/

namespace Switchboard

/-- A stream connection as its handles see it. -/
structure TcpConnection where
  /-- Its id. -/
  id : ConnectionId
  /-- Who started it. -/
  direction : Direction
  /-- The token of its requester. -/
  identity : Identity
  /-- Whether it is encrypted. -/
  encrypted : Bool := false
  /-- The local end. -/
  host : Endpoint
  /-- The remote end. -/
  peer : Endpoint
  /-- Where it is in its life. -/
  state : ConnectionState := .running
  deriving DecidableEq, Repr

namespace TcpConnection

/-- Whether the other side started the connection. -/
def isPassive (c : TcpConnection) : Bool := c.direction = .passive

/-- What the connection runs over. -/
def carrier (c : TcpConnection) : Carrier := if c.encrypted then .tls else .tcp

/-- Moves the connection on. -/
def withState (c : TcpConnection) (s : ConnectionState) : TcpConnection := { c with state := s }

/-- The connection as a log shows it, with its id and its peer shown in the given way. -/
def describe (c : TcpConnection) (id peer : String) : String :=
  "TcpConnection \x7b id: ConnectionId(" ++ id ++ "), direction: " ++
    (if c.isPassive then "Passive" else "Active") ++ ", tls: " ++
    (if c.encrypted then "true" else "false") ++ ", peer_addr: " ++ peer ++
    ", state: " ++ c.state.name ++ " \x7d"

@[simp] theorem id_withState (c : TcpConnection) (s : ConnectionState) :
    (c.withState s).id = c.id := rfl

@[simp] theorem state_withState (c : TcpConnection) (s : ConnectionState) :
    (c.withState s).state = s := rfl

@[simp] theorem carrier_withState (c : TcpConnection) (s : ConnectionState) :
    (c.withState s).carrier = c.carrier := rfl

end TcpConnection

/-- What can be asked of the driver of a stream connection. -/
inductive TcpCommand where
  /-- Send a chunk. -/
  | send (data : Bytes)
  /-- Set the watermark. -/
  | mark (mark : Nat)
  /-- Close the connection. -/
  | close
  deriving DecidableEq, Repr

/-- How a connection came to exist, which decides the call that announces it. -/
inductive Opening where
  /-- It was accepted on a port. -/
  | accepted (port : Port)
  /-- It was asked for. -/
  | connected
  deriving DecidableEq, Repr

/-- Who starts a connection that came to exist in a way. -/
def Opening.direction : Opening → Direction
  | accepted _ => .passive
  | connected => .active

end Switchboard
