import Switchboard.Buffer.Datagram
import Switchboard.Buffer.Send
import Switchboard.Connection.Mailbox
import Switchboard.Fault.System
import Switchboard.Udp.Connection

/-!
# Telling datagrams apart

An acceptor owns one socket and makes of every remote endpoint that sends to it a connection. It
keeps the received datagrams of each connection apart, and sends the datagrams of all of them
through one queue. Each connection counts its datagrams in that queue; when a sent one was its last
there, the service is told.

Endpoints come back: after a connection is over, the next datagram from its endpoint makes a new
one. So requests and queued datagrams name a connection by endpoint *and* id, and those of a
connection that is gone do nothing.

The acceptor is a machine. The service is called by entering a phase, and `returned` tells the
machine what the service answered. Between two phases the machine is idle and takes the next thing
up: a posted request before a received datagram, and a received datagram before one to be sent.
-/

namespace Switchboard

/-- What an acceptor keeps for a connection. -/
structure Peer where
  /-- The connection. -/
  id : ConnectionId
  /-- Received and not yet removed by the service. -/
  received : DatagramQueue := {}
  /-- How many datagrams of the connection are queued for sending. -/
  pending : Nat := 0
  deriving DecidableEq, Repr

/-- A datagram queued for sending. -/
structure Outgoing where
  /-- Where it goes. -/
  peer : Endpoint
  /-- The connection it is sent for. -/
  id : ConnectionId
  /-- The payload. -/
  data : Bytes
  deriving DecidableEq, Repr

/-- Which call of the service an acceptor waits for. -/
inductive AcceptorPhase where
  /-- None. -/
  | idle
  /-- A new connection was announced, whose first datagram waits. -/
  | accepting (peer : Endpoint) (datagram : Bytes)
  /-- A datagram was announced. -/
  | receiving (peer : Endpoint)
  /-- The end of sending was announced. -/
  | drained (peer : Endpoint)
  /-- The end of a connection was announced; when the acceptor stops, more connections follow. -/
  | closing (following : Option (List Endpoint))
  /-- A failed receive was reported, after which the acceptor may have to stop. -/
  | reporting (fatal : Bool)
  deriving DecidableEq, Repr

/-- Whether an acceptor's task is running. -/
inductive AcceptorTask where
  /-- It is. -/
  | running
  /-- It is about to end and closes its connections. -/
  | ending
  /-- It has ended. -/
  | ended
  deriving DecidableEq, Repr

/-- An acceptor. -/
structure Acceptor where
  /-- The local end of its socket. -/
  host : Endpoint
  /-- Longer datagrams are cut to this length. -/
  maxDatagram : Nat
  /-- The id of the next connection. -/
  nextId : ConnectionId := .first
  /-- All connections ever made. -/
  connections : Table ConnectionId UdpConnection := []
  /-- The live connections by endpoint. -/
  peers : Table Endpoint Peer := []
  /-- Datagrams to be sent, for all connections. -/
  queue : SendQueue Outgoing := {}
  /-- Posted requests. -/
  mailbox : Mailbox AcceptorCommand := {}
  /-- Whether the socket is still held. -/
  socketOpen : Bool := true
  /-- Whether the acceptor has been stopped. -/
  stopped : Bool := false
  /-- The call of the service under way. -/
  phase : AcceptorPhase := .idle
  /-- Whether the task is running. -/
  task : AcceptorTask := .running
  deriving Repr

namespace Acceptor

/-- An acceptor on a local end. -/
def bind (host : Endpoint) (maxDatagram : Nat) (nextId : ConnectionId) : Acceptor :=
  { host, maxDatagram, nextId }

/-- The port that the service is told. -/
def port (a : Acceptor) : Port := a.host.port

/-- The live connection of an endpoint. -/
def idOf? (a : Acceptor) (peer : Endpoint) : Option ConnectionId := (a.peers.get? peer).map Peer.id

/-- The connection with an id, live or not. -/
def connection? (a : Acceptor) (id : ConnectionId) : Option UdpConnection := a.connections.get? id

/-! ### Handles -/

/-- Asks to send on behalf of a connection. -/
def request (a : Acceptor) (id : ConnectionId) (r : SendRequest) : Bool × Noted Acceptor :=
  match a.connection? id with
  | none => (false, a, [])
  | some c =>
    match c.screen r with
    | .answered granted => (granted, a, [])
    | .chunk data =>
      let (granted, mailbox) := a.mailbox.post (.send c.peer id data)
      (granted, { a with mailbox }, if granted then [.posted id data] else [])

/-- Asks to close a connection. -/
def requestClose (a : Acceptor) (id : ConnectionId) : Acceptor :=
  match a.connection? id with
  | none => a
  | some c => { a with mailbox := (a.mailbox.post (.close c.peer id)).2 }

/-- Asks the acceptor to stop. -/
def requestStop (a : Acceptor) : Acceptor := { a with mailbox := (a.mailbox.post .stop).2 }

/-! ### Connections -/

/-- Ends the connection of an endpoint; `following` are ended after it. -/
def remove (a : Acceptor) (peer : Endpoint) (following : Option (List Endpoint)) : Noted Acceptor :=
  match a.peers.get? peer with
  | none => (a, [])
  | some p =>
    let connections := match a.connections.get? p.id with
      | some c => a.connections.put p.id (c.withState .closed)
      | none => a.connections
    ({ a with connections, peers := a.peers.erase peer, phase := .closing following },
      [.measured (.closed .udp), .measured (.peers (-1)), .callback (.close p.id .closed)])

/-- Gives a datagram to the connection of its endpoint. -/
def receive (a : Acceptor) (peer : Endpoint) (datagram : Bytes) : Noted Acceptor :=
  match a.peers.get? peer with
  | none => (a, [])
  | some p =>
    ({ a with peers := a.peers.put peer { p with received := p.received.push datagram },
              phase := .receiving peer },
      [.measured (.received .udp datagram.length), .arrived p.id datagram,
       .callback (.receive p.id)])

/-- Takes a datagram in; an endpoint without a connection gets a new one first. -/
def deliver (a : Acceptor) (peer : Endpoint) (datagram : Bytes) : Noted Acceptor :=
  match a.peers.get? peer with
  | some _ => a.receive peer datagram
  | none =>
    let id := a.nextId
    let c : UdpConnection :=
      { id, direction := .passive, identity := .anonymous, host := a.host, peer }
    ({ a with nextId := id.next, connections := a.connections.put id c,
              peers := a.peers.put peer { id }, phase := .accepting peer datagram },
      [.tracked 1, .measured (.opened .udp .passive), .measured (.peers 1),
       .callback (.accept id a.port)])

/-! ### Sending -/

/-- Queues a datagram on behalf of a connection, if that is the live one of the endpoint. -/
def enqueue (a : Acceptor) (peer : Endpoint) (id : ConnectionId) (data : Bytes) : Noted Acceptor :=
  match a.peers.get? peer with
  | none => (a, [])
  | some p =>
    if p.id = id then
      ({ a with peers := a.peers.put peer { p with pending := p.pending + 1 },
                queue := a.queue.push ⟨peer, id, data⟩ }, [.queued id data])
    else (a, [])

/-- Takes the outcome of sending the front of the queue in. -/
def sent (a : Acceptor) (outcome : Except SystemError Unit) : Noted Acceptor :=
  match a.queue.front? with
  | none => (a, [])
  | some out =>
    let a := { a with queue := a.queue.pop }
    match outcome with
    | .ok () =>
      let notes : List Note := [.measured (.sent .udp out.data.length), .left out.id out.data]
      match a.peers.get? out.peer with
      | none => (a, notes)
      | some p =>
        if p.id = out.id then
          let pending := p.pending - 1
          let a := { a with peers := a.peers.put out.peer { p with pending } }
          if pending = 0 then
            ({ a with phase := .drained out.peer }, notes ++ [.callback (.sent p.id)])
          else (a, notes)
        else (a, notes)
    | .error _ =>
      let b : Noted Acceptor := (a, [.lost out.id out.data])
      b.andThen fun a => if a.idOf? out.peer = some out.id then a.remove out.peer none else (a, [])

/-! ### Stopping -/

/-- Ends the connections of endpoints one after the other; behind the last one the queue is empty
and a task that was ending has ended. -/
def closeAll (a : Acceptor) : List Endpoint → Noted Acceptor
  | [] =>
    let ended := a.task == .ending
    ({ a with queue := {}, phase := .idle,
              task := if ended then .ended else a.task,
              mailbox := if ended then .abandoned else a.mailbox }, [])
  | peer :: rest => if (a.idOf? peer).isSome then a.remove peer (some rest) else closeAll a rest

/-- Stops: the socket is released, then every connection is ended. A second stop does nothing. -/
def stop (a : Acceptor) : Noted Acceptor :=
  if a.stopped then (a, [])
  else
    let b : Noted Acceptor := ({ a with stopped := true, socketOpen := false }, [.released])
    b.andThen fun a => a.closeAll a.peers.keys

/-- Ends the task: stops, and lets nothing more be posted afterwards. Connections made after a stop
are given up without a word. -/
def endTask (a : Acceptor) : Noted Acceptor :=
  if a.stopped then
    ({ a with task := .ended, mailbox := .abandoned, peers := [] },
      a.peers.map fun _ => .tracked (-1))
  else ({ a with task := .ending } : Acceptor).stop

/-! ### The service's side -/

/-- Goes on after the service has answered the call under way. -/
def returned (a : Acceptor) (keep : Bool) : Noted Acceptor :=
  match a.phase with
  | .idle => (a, [])
  | .accepting peer datagram =>
    if keep then a.receive peer datagram else a.remove peer none
  | .receiving peer | .drained peer =>
    if keep then ({ a with phase := .idle }, []) else a.remove peer none
  | .closing following =>
    let b : Noted Acceptor := ({ a with phase := .idle }, [.tracked (-1)])
    b.andThen fun a => match following with
      | none => (a, [])
      | some rest => a.closeAll rest
  | .reporting fatal =>
    let a := { a with phase := .idle }
    if fatal then a.endTask else (a, [])

/-- The datagrams that the service may look at: those of the connection it is told about. -/
def context? (a : Acceptor) : Option (Endpoint × Peer) :=
  match a.phase with
  | .receiving peer => (a.peers.get? peer).map fun p => (peer, p)
  | _ => none

/-- Removes the oldest datagram on behalf of the service. -/
def pop (a : Acceptor) : Option Bytes × Noted Acceptor :=
  match a.context? with
  | none => (none, a, [])
  | some (peer, p) =>
    match p.received.pop? with
    | none => (none, a, [])
    | some (d, received) =>
      (some d, { a with peers := a.peers.put peer { p with received } }, [.removed p.id d])

/-- Removes the oldest datagram on behalf of the service, if it has the given length. -/
def dropFront (a : Acceptor) (length : Nat) : Bool × Noted Acceptor :=
  match a.context? with
  | none => (false, a, [])
  | some (peer, p) =>
    match p.received.dropFront? length with
    | none => (false, a, [])
    | some received =>
      (true, { a with peers := a.peers.put peer { p with received } },
        [.removed p.id p.received.front])

/-! ### The task -/

/-- What can happen to an acceptor. -/
inductive Event where
  /-- Somebody asks to send on behalf of a connection. -/
  | request (id : ConnectionId) (r : SendRequest)
  /-- Somebody asks to close a connection. -/
  | requestClose (id : ConnectionId)
  /-- The manager asks the acceptor to stop. -/
  | requestStop
  /-- The oldest request is taken up. -/
  | command
  /-- A datagram comes in. -/
  | arrive (peer : Endpoint) (datagram : Bytes)
  /-- Receiving fails. -/
  | receiveFailed (e : SystemError)
  /-- The datagram at the front of the queue is sent, or cannot be sent. -/
  | sendDone (outcome : Except SystemError Unit)
  /-- The service removes a datagram. -/
  | pop
  /-- The service removes a datagram of a length. -/
  | dropFront (length : Nat)
  /-- The service answers. -/
  | returned (keep : Bool)
  /-- The loop drops the task. -/
  | abort

/-- Whether the task waits for something to happen. -/
def waits (a : Acceptor) : Bool := a.phase == .idle && a.task == .running

/-- Whether a failed receive leaves the socket usable: it reports on an earlier send. -/
def isPeerFault (e : SystemError) : Bool :=
  e.kind = .connectionReset || e.kind = .connectionRefused

/-- Takes the oldest request up. -/
def takeCommand (a : Acceptor) : Noted Acceptor :=
  match a.mailbox.take? with
  | none => (a, [])
  | some (command, mailbox) =>
    let a := { a with mailbox }
    match command with
    | .send peer id data => a.enqueue peer id data
    | .close peer id => if a.idOf? peer = some id then a.remove peer none else (a, [])
    | .stop => a.endTask

/-- What an event does; events that cannot happen now do nothing. -/
def step (a : Acceptor) : Event → Noted Acceptor
  | .request id r => (a.request id r).2
  | .requestClose id => (a.requestClose id, [])
  | .requestStop => (a.requestStop, [])
  | .command => if a.waits then a.takeCommand else (a, [])
  | .arrive peer datagram =>
    if a.waits && a.mailbox.posted.isEmpty then a.deliver peer (datagram.take a.maxDatagram)
    else (a, [])
  | .receiveFailed e =>
    if a.waits && a.mailbox.posted.isEmpty then
      ({ a with phase := .reporting (!isPeerFault e) },
        [.callback (.error "acceptor" "recv" e.code e.message)])
    else (a, [])
  | .sendDone outcome => if a.waits && a.mailbox.posted.isEmpty then a.sent outcome else (a, [])
  | .pop => a.pop.2
  | .dropFront length => (a.dropFront length).2
  | .returned keep => a.returned keep
  | .abort => if a.waits then a.endTask else (a, [])

/-- What a sequence of events does. -/
def run (a : Acceptor) : List Event → Noted Acceptor
  | [] => (a, [])
  | e :: es => (a.step e).andThen fun a => a.run es

end Acceptor

end Switchboard
