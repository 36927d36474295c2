import Switchboard.Buffer.Datagram
import Switchboard.Buffer.Send
import Switchboard.Connection.Mailbox
import Switchboard.Fault.System
import Switchboard.Udp.Connection

/-!
# Driving an active datagram connection

An active connection has a socket of its own, connected to its peer. Its driver announces the
connection, then takes things up one at a time: a posted request before a received datagram, and
that before a datagram to be sent. It ends when the service says so, when it is asked to close, or
when the socket fails, and then tells the service once. A driver that is dropped by its loop ends as
well.
-/

namespace Switchboard

/-- Which call of the service a driver waits for. -/
inductive UdpPhase where
  /-- The driver has not been started. -/
  | fresh
  /-- The connection was announced. -/
  | opening
  /-- None: the driver waits for something to happen. -/
  | waiting
  /-- A datagram was announced. -/
  | receiving
  /-- The end of sending was announced. -/
  | drained
  /-- The end of the connection was announced. -/
  | closing
  /-- It is over. -/
  | done
  deriving DecidableEq, Repr

/-- The driver of an active datagram connection. -/
structure UdpDriver where
  /-- The connection. -/
  connection : UdpConnection
  /-- Longer datagrams are cut to this length. -/
  maxDatagram : Nat
  /-- Received and not yet removed by the service. -/
  received : DatagramQueue := {}
  /-- Datagrams to be sent. -/
  queue : SendQueue Bytes := {}
  /-- Posted requests. -/
  mailbox : Mailbox UdpCommand := {}
  /-- The call of the service under way. -/
  phase : UdpPhase := .fresh
  deriving Repr

namespace UdpDriver

/-- The id of the connection. -/
def id (d : UdpDriver) : ConnectionId := d.connection.id

/-! ### Handles -/

/-- Asks to send. -/
def request (d : UdpDriver) (r : SendRequest) : Bool × Noted UdpDriver :=
  match d.connection.screen r with
  | .answered granted => (granted, d, [])
  | .chunk data =>
    let (granted, mailbox) := d.mailbox.post (.send data)
    (granted, { d with mailbox }, if granted then [.posted d.id data] else [])

/-- Asks to close. -/
def requestClose (d : UdpDriver) : UdpDriver := { d with mailbox := (d.mailbox.post .close).2 }

/-! ### The task -/

/-- Announces the connection. -/
def start (d : UdpDriver) : Noted UdpDriver :=
  if d.phase = .fresh then
    ({ d with phase := .opening },
      [.measured (.opened .udp .active), .callback (.connect (some d.id) d.connection.identity)])
  else (d, [])

/-- Announces the end of the connection. -/
def finish (d : UdpDriver) : Noted UdpDriver :=
  ({ d with connection := d.connection.withState .closed, phase := .closing },
    [.measured (.closed .udp), .callback (.close d.id .closed)])

/-- Lets nothing more be posted, and announces the end. -/
def leave (d : UdpDriver) : Noted UdpDriver :=
  ({ d with mailbox := d.mailbox.close } : UdpDriver).finish

/-- Goes on after the service has answered the call under way. -/
def returned (d : UdpDriver) (keep : Bool) : Noted UdpDriver :=
  match d.phase with
  | .opening | .receiving | .drained =>
    if keep then ({ d with phase := .waiting }, []) else d.leave
  | .closing => ({ d with phase := .done, mailbox := .abandoned }, [.tracked (-1)])
  | .fresh | .waiting | .done => (d, [])

/-- Takes the oldest request up. -/
def takeCommand (d : UdpDriver) : Noted UdpDriver :=
  match d.mailbox.take? with
  | none => (d, [])
  | some (.send data, mailbox) =>
    ({ d with mailbox, queue := d.queue.push data }, [.queued d.id data])
  | some (.close, mailbox) => ({ d with mailbox } : UdpDriver).leave

/-- Gives a datagram to the service. -/
def receive (d : UdpDriver) (datagram : Bytes) : Noted UdpDriver :=
  ({ d with received := d.received.push datagram, phase := .receiving },
    [.arrived d.id datagram, .measured (.received .udp datagram.length),
     .callback (.receive d.id)])

/-- Takes the outcome of sending the front of the queue in. -/
def sent (d : UdpDriver) (outcome : Except SystemError Unit) : Noted UdpDriver :=
  match d.queue.front? with
  | none => (d, [])
  | some data =>
    match outcome with
    | .error _ => d.leave
    | .ok () =>
      let queue := d.queue.pop
      let notes : List Note := [.measured (.sent .udp data.length), .left d.id data]
      if queue.isEmpty then
        ({ d with queue, phase := .drained }, notes ++ [.callback (.sent d.id)])
      else ({ d with queue }, notes)

/-- Drops the driver: one that was not started still announces its end. -/
def abort (d : UdpDriver) : Noted UdpDriver :=
  match d.phase with
  | .fresh => d.finish
  | .waiting => d.leave
  | _ => (d, [])

/-- Removes the oldest datagram on behalf of the service. -/
def pop (d : UdpDriver) : Option Bytes × Noted UdpDriver :=
  if d.phase = .receiving then
    match d.received.pop? with
    | none => (none, d, [])
    | some (datagram, received) =>
      (some datagram, { d with received }, [.removed d.id datagram])
  else (none, d, [])

/-- Removes the oldest datagram on behalf of the service, if it has the given length. -/
def dropFront (d : UdpDriver) (length : Nat) : Bool × Noted UdpDriver :=
  if d.phase = .receiving then
    match d.received.dropFront? length with
    | none => (false, d, [])
    | some received => (true, { d with received }, [.removed d.id d.received.front])
  else (false, d, [])

/-- What can happen to a driver. -/
inductive Event where
  /-- Somebody asks to send. -/
  | request (r : SendRequest)
  /-- Somebody asks to close. -/
  | requestClose
  /-- The loop starts the driver. -/
  | start
  /-- The oldest request is taken up. -/
  | command
  /-- A datagram comes in. -/
  | arrive (datagram : Bytes)
  /-- Receiving fails. -/
  | receiveFailed (e : SystemError)
  /-- The datagram at the front of the queue is sent, or cannot be sent. -/
  | sendDone (outcome : Except SystemError Unit)
  /-- The service removes a datagram. -/
  | pop
  /-- The service removes a datagram of a length. -/
  | dropFront (length : Nat)
  /-- The service answers. -/
  | returned (keep : Bool)
  /-- The loop drops the driver. -/
  | abort

/-- Whether the driver waits and no request is left to be taken up. -/
def listens (d : UdpDriver) : Bool := d.phase == .waiting && d.mailbox.posted.isEmpty

/-- What an event does; events that cannot happen now do nothing. -/
def step (d : UdpDriver) : Event → Noted UdpDriver
  | .request r => (d.request r).2
  | .requestClose => (d.requestClose, [])
  | .start => d.start
  | .command => if d.phase = .waiting then d.takeCommand else (d, [])
  | .arrive datagram => if d.listens then d.receive (datagram.take d.maxDatagram) else (d, [])
  | .receiveFailed _ => if d.listens then d.leave else (d, [])
  | .sendDone outcome => if d.listens then d.sent outcome else (d, [])
  | .pop => d.pop.2
  | .dropFront length => (d.dropFront length).2
  | .returned keep => d.returned keep
  | .abort => d.abort

/-- What a sequence of events does. -/
def run (d : UdpDriver) : List Event → Noted UdpDriver
  | [] => (d, [])
  | e :: es => (d.step e).andThen fun d => d.run es

end UdpDriver

end Switchboard
