import Switchboard.Simulation.Script
import Switchboard.Udp.Acceptor
import Switchboard.Udp.Driver

/-!
# Scripted datagram connections

What actions mean for datagram connections, active and passive ones alike.
-/

namespace Switchboard.Simulation

/-- What actions on a datagram connection come down to. -/
structure DatagramSide (σ : Type) where
  /-- The connection. -/
  connection : σ → Option UdpConnection
  /-- Asks to send. -/
  request : σ → SendRequest → Bool × Noted σ
  /-- Asks to close. -/
  close : σ → σ
  /-- The received datagrams. -/
  received : σ → DatagramQueue
  /-- Takes the oldest datagram out. -/
  pop : σ → Option Bytes × Noted σ
  /-- Removes the oldest datagram if it has the given length. -/
  dropFront : σ → Nat → Bool × Noted σ
  /-- Puts the connection into a state. -/
  setState : σ → ConnectionState → σ

namespace DatagramSide

variable {σ : Type} (side : DatagramSide σ)

/-- Takes datagrams out until none is left, at most `fuel` of them. -/
def popAll : Nat → σ → List Bytes × Noted σ
  | 0, s => ([], s, [])
  | fuel + 1, s =>
    match side.pop s with
    | (none, s) => ([], s)
    | (some d, s, notes) =>
      let (ds, s, more) := popAll fuel s
      (d :: ds, s, notes ++ more)

/-- Does an action. -/
def act (s : σ) (action : Action) : Answer × Noted σ :=
  let ask (f : UdpConnection → Answer) : Answer × Noted σ :=
    (((side.connection s).map f).getD .nothing, s, [])
  let send (r : SendRequest) : Answer × Noted σ :=
    let (granted, s) := side.request s r
    (.flag granted, s)
  match action with
  | .send data => send (.ofAll data)
  | .sendPart data length => send (.ofPart data length)
  | .sendChunk data => send (.ofChunk data)
  | .close => (.nothing, side.close s, [])
  | .state => ask fun c => .text c.state.name
  | .running => ask fun c => .flag c.isRunning
  | .passive => ask fun c => .flag c.isPassive
  | .direction => ask fun c => .text c.direction.name
  | .identity => ask fun c => .number c.identity.token
  | .describe => ask fun c => .text (c.describe "N" "PEER")
  | .ends => ask fun c => .endpoints c.host c.peer
  | .setState state => (.nothing, side.setState s state, [])
  | .has => (.flag (side.received s).hasData, s, [])
  | .size => (.number (side.received s).front.length, s, [])
  | .data => (.bytes (side.received s).front, s, [])
  | .count => (.number (side.received s).size, s, [])
  | .drop length =>
    let (dropped, s) := side.dropFront s length
    (.flag dropped, s)
  | .pop =>
    let (d, s) := side.pop s
    ((d.map Answer.bytes).getD .nothing, s)
  | .popAll =>
    let (ds, s) := side.popAll (side.received s).size s
    (.list ds, s)
  | .echo =>
    match side.pop s with
    | (none, s) => (.nothing, s)
    | (some d, s, notes) =>
      let (granted, s, more) := side.request s (.ofChunk d)
      (.flag granted, s, notes ++ more)
  | _ => (.nothing, s, [])

end DatagramSide

/-- Actions on an active connection. -/
def activeSide : DatagramSide UdpDriver where
  connection d := some d.connection
  request d r := d.request r
  close d := d.requestClose
  received d := d.received
  pop d := d.pop
  dropFront d n := d.dropFront n
  setState d s := { d with connection := d.connection.withState s }

/-- Actions on a passive connection. -/
def passiveSide (id : ConnectionId) : DatagramSide Acceptor where
  connection a := a.connection? id
  request a r := a.request id r
  close a := a.requestClose id
  received a := (a.context?.map fun (_, p) => p.received).getD {}
  pop a := a.pop
  dropFront a n := a.dropFront n
  setState a s := match a.connection? id with
    | some c => { a with connections := a.connections.put id (c.withState s) }
    | none => a

/-- An acceptor as a machine. -/
def acceptorMachine : Machine Acceptor where
  inCall a := a.phase != .idle
  act id a action := (passiveSide id).act a action
  returned a keep := a.returned keep

/-- A driven acceptor. -/
structure AcceptorRun where
  /-- The service. -/
  service : Service
  /-- What was seen. -/
  log : Log := {}
  /-- The acceptor. -/
  acceptor : Acceptor

namespace AcceptorRun

/-- Goes on from a step of the acceptor until the service has answered every call. -/
def after (r : AcceptorRun) (step : Noted Acceptor) : AcceptorRun :=
  let fuel := 4 * (step.1.peers.length + 2)
  let (service, log, acceptor) :=
    settle acceptorMachine fuel (r.service, r.log.addAll step.2, step.1)
  { service, log, acceptor }

/-- Does an action on a connection. -/
def act (r : AcceptorRun) (id : ConnectionId) (action : Action) : Answer × AcceptorRun :=
  let (answer, step) := (passiveSide id).act r.acceptor action
  (answer, r.after step)

/-- Reads the calls since the last time. -/
def read (r : AcceptorRun) : List Record × AcceptorRun :=
  let (records, log) := r.log.read
  (records, { r with log })

end AcceptorRun

end Switchboard.Simulation
