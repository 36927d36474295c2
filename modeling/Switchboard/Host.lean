import Switchboard.Address.Endpoint
import Switchboard.Fault.System

/-!
# The sockets of a host

A host gives out ports. A port can be held once for each kind of socket and address; an address that
stands for all of a family collides with every other one of the family. Datagram sockets that are
all opened for sharing may hold a port together, which is not so for streams, where sharing only
concerns sockets that are no longer in use.

A host without a network lets every address be bound and reaches no endpoint: each attempt fails in
the same way.
-/

namespace Switchboard

/-- The two kinds of sockets. -/
inductive SocketKind where
  | stream
  | datagram
  deriving DecidableEq, Repr

/-- A socket that is bound to a local end. -/
structure LocalSocket where
  /-- Its kind. -/
  kind : SocketKind
  /-- Its local end. -/
  endpoint : Endpoint
  /-- Whether it was opened for sharing. -/
  shared : Bool
  deriving DecidableEq, Repr

namespace LocalSocket

/-- Whether two addresses are of one family and equal, or one of them stands for all. -/
def overlap (a b : IpAddress) : Bool :=
  a.isV4 == b.isV4 && (a == b || a.isUnspecified || b.isUnspecified)

/-- Whether two sockets cannot be bound at the same time. -/
def collides (a b : LocalSocket) : Bool :=
  a.kind == b.kind && a.endpoint.port == b.endpoint.port && overlap a.endpoint.ip b.endpoint.ip &&
    !(a.kind == .datagram && a.shared && b.shared)

end LocalSocket

/-- The sockets of a host that has no network. -/
structure Host where
  /-- The bound sockets. -/
  sockets : List LocalSocket := []
  /-- The next port to be given out. -/
  nextPort : Port := 32768
  deriving DecidableEq, Repr

namespace Host

/-- What is reported of a port that is held. -/
def portHeld : SystemError := .os 98

/-- What is reported of an address of another family than the socket. -/
def wrongFamily : SystemError := .os 97

/-- What is reported of an endpoint that cannot be reached. -/
def unreachable : SystemError := .os 101

/-- What is reported of a socket that has nothing to hand out and does not wait. -/
def wouldBlock : SystemError := .os 11

/-- A port that nobody holds. -/
def freshPort (h : Host) : Port × Host := (h.nextPort, { h with nextPort := h.nextPort + 1 })

/-- Binds a socket to a local end; port 0 stands for any. -/
def bind (h : Host) (kind : SocketKind) (endpoint : Endpoint) (shared : Bool) :
    Except SystemError Port × Host :=
  let (port, h) := if endpoint.port = 0 then h.freshPort else (endpoint.port, h)
  let socket : LocalSocket := ⟨kind, ⟨endpoint.ip, port⟩, shared⟩
  if h.sockets.any socket.collides then (.error portHeld, h)
  else (.ok port, { h with sockets := h.sockets ++ [socket] })

/-- Lets go of the sockets of a kind on a port. -/
def release (h : Host) (kind : SocketKind) (port : Port) : Host :=
  { h with sockets := h.sockets.filter fun s => !(s.kind == kind && s.endpoint.port == port) }

/-- Reaches an endpoint. -/
def reach (_ : Host) (_ : Endpoint) : Except SystemError Unit := .error unreachable

/-- Whether a socket can be bound, which is let go of at once. -/
def tryBind (h : Host) (kind : SocketKind) (endpoint : Endpoint) (shared : Bool) :
    Except SystemError Port :=
  (h.bind kind endpoint shared).1

/-- An attempt to connect a stream from a local end, if one is asked for. -/
def connectStream (h : Host) (bind : Option Endpoint) (target : Endpoint) :
    Except SystemError Unit := do
  if let some host := bind then
    if host.ip.isV4 != target.ip.isV4 then throw wrongFamily
    let _ ← h.tryBind .stream host true
  h.reach target

/-- An attempt to open a datagram socket on a local end for a remote one. -/
def connectDatagram (h : Host) (host target : Endpoint) : Except SystemError Unit := do
  let _ ← h.tryBind .datagram host true
  h.reach target

/-- The local end and the sharing of a stream socket that is about to be connected. -/
def streamSocket (h : Host) (bind : Option Endpoint) (target : Endpoint) :
    Except SystemError LocalSocket := do
  match bind with
  | none => return ⟨.stream, target.unspecifiedFor, false⟩
  | some host =>
    if host.ip.isV4 != target.ip.isV4 then throw wrongFamily
    let port ← h.tryBind .stream host true
    return ⟨.stream, ⟨host.ip, port⟩, true⟩

end Host

end Switchboard
