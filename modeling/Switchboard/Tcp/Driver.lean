import Switchboard.Buffer.Receive
import Switchboard.Buffer.Send
import Switchboard.Connection.Mailbox
import Switchboard.Fault.System
import Switchboard.Tcp.Connection

/-!
# Driving a stream connection

The driver of a stream connection owns the socket and both buffers. It announces the connection and
then takes things up one at a time: a posted request before a finished read, and that before a
finished write. Each time it starts to wait it hands the receive buffer's reservation to a new read;
if something else comes first, the reservation is given up with nothing in it.

A write that empties the queue is followed by a flush, and then the service is told. The driver
leaves when it is asked to, when the peer ends its stream, when the service says so, or when the
socket fails. With a closing time, and unless the socket failed, everything accepted for sending is
still written out, the requests behind the one to close included. At last the socket is shut down,
which without a closing time is tried but not waited for, and the service is told once. A driver
that is dropped by its loop wherever it waits ends as well.
-/

namespace Switchboard

/-- Why a driver left. -/
inductive CloseReason where
  /-- It was asked to. -/
  | requested
  /-- The peer ended its stream. -/
  | peerClosed
  /-- The service refused to go on. -/
  | rejected
  /-- The socket failed. -/
  | failed (source : SystemError)
  deriving DecidableEq, Repr

/-- Whether the socket is still good. -/
def CloseReason.isOrderly : CloseReason → Bool
  | failed _ => false
  | _ => true

/-- What a driver is waiting for. -/
inductive TcpPhase where
  /-- To be started. -/
  | fresh
  /-- The service, to which the connection was announced. -/
  | opening
  /-- Whatever comes first: a request, a read or a write. -/
  | waiting
  /-- The service, to which received bytes were announced. -/
  | receiving
  /-- The socket, which is flushed after the last queued chunk. -/
  | flushing
  /-- The service, to which the end of sending was announced. -/
  | drained
  /-- The socket, which takes over a chunk within the closing time; some of it is written. -/
  | emptying (chunk : Bytes) (written : Nat)
  /-- The socket, which is flushed within the closing time. -/
  | settling
  /-- The socket, which is shut down. -/
  | shutting
  /-- The service, to which the end was announced. -/
  | closing
  /-- Nothing: it is over. -/
  | done
  deriving DecidableEq, Repr

/-- The driver of a stream connection. -/
structure TcpDriver where
  /-- The connection. -/
  connection : TcpConnection
  /-- How the connection came to exist. -/
  opening : Opening
  /-- How many bytes each read asks for. -/
  chunkSize : Nat
  /-- The closing time, if there is one. -/
  linger : Option Nat := none
  /-- Received and not yet removed by the service. -/
  received : ReceiveBuffer := {}
  /-- Chunks to be sent. -/
  queue : SendQueue Bytes := {}
  /-- Posted requests. -/
  mailbox : Mailbox TcpCommand := {}
  /-- What the driver is waiting for. -/
  phase : TcpPhase := .fresh
  /-- Why the driver left, if it did. -/
  reason : Option CloseReason := none
  deriving Repr

namespace TcpDriver

/-- The id of the connection. -/
def id (d : TcpDriver) : ConnectionId := d.connection.id

/-- What the connection runs over. -/
def carrier (d : TcpDriver) : Carrier := d.connection.carrier

/-! ### Handles -/

/-- Asks to send. -/
def request (d : TcpDriver) : SendRequest → Bool × Noted TcpDriver
  | .answered granted => (granted, d, [])
  | .chunk data =>
    let (granted, mailbox) := d.mailbox.post (.send data)
    (granted, { d with mailbox }, if granted then [.posted d.id data] else [])

/-- Asks for a watermark. -/
def requestMark (d : TcpDriver) (mark : Nat) : TcpDriver :=
  { d with mailbox := (d.mailbox.post (.mark mark)).2 }

/-- Asks to close. -/
def requestClose (d : TcpDriver) : TcpDriver := { d with mailbox := (d.mailbox.post .close).2 }

/-! ### Beginning and end -/

/-- The call that announces the connection. -/
def announcement (d : TcpDriver) : Callback :=
  match d.opening with
  | .accepted port => .accept d.id port
  | .connected => .connect (some d.id) d.connection.identity

/-- Announces the connection. -/
def start (d : TcpDriver) : Noted TcpDriver :=
  if d.phase = .fresh then
    ({ d with phase := .opening },
      [.measured (.opened d.carrier d.connection.direction), .callback d.announcement])
  else (d, [])

/-- Announces the end of the connection. -/
def finish (d : TcpDriver) : Noted TcpDriver :=
  ({ d with connection := d.connection.withState .closed, phase := .closing },
    [.measured (.closed d.carrier), .callback (.close d.id .closed)])

/-- The chunks among requests. -/
def chunksOf (commands : List TcpCommand) : List Bytes :=
  commands.filterMap fun
    | .send data => some data
    | _ => none

/-- Starts on the next queued chunk within the closing time, or on the flush behind the last one. -/
def nextChunk (d : TcpDriver) : TcpDriver :=
  match d.queue.front? with
  | some chunk => { d with queue := d.queue.pop, phase := .emptying chunk 0 }
  | none => { d with phase := .settling }

/-- Leaves: lets nothing more be posted, and writes out what is left if there is time for it. -/
def leave (d : TcpDriver) (reason : CloseReason) : Noted TcpDriver :=
  let d := { d with
    mailbox := d.mailbox.close
    connection := d.connection.withState .closing
    reason := some reason }
  if reason.isOrderly && d.linger.isSome then
    let chunks := chunksOf d.mailbox.posted
    let d := { d with
      queue := chunks.foldl SendQueue.push d.queue
      mailbox := { d.mailbox with posted := [] } }
    let notes := chunks.map (Note.queued d.id)
    if d.queue.isEmpty then ({ d with phase := .shutting }, notes) else (d.nextChunk, notes)
  else ({ d with phase := .shutting }, [])

/-- Goes on after the service has answered the call under way. -/
def returned (d : TcpDriver) (keep : Bool) : Noted TcpDriver :=
  match d.phase with
  | .opening =>
    if keep then ({ d with phase := .waiting }, [])
    else ({ d with mailbox := d.mailbox.close } : TcpDriver).finish
  | .receiving | .drained =>
    if keep then ({ d with phase := .waiting }, []) else d.leave .rejected
  | .closing => ({ d with phase := .done, mailbox := .abandoned }, [.tracked (-1)])
  | _ => (d, [])

/-- Drops the driver where it waits for something else than the service; one that was not started
still announces its end. -/
def abort (d : TcpDriver) : Noted TcpDriver :=
  match d.phase with
  | .fresh => d.finish
  | .waiting | .flushing | .emptying _ _ | .settling | .shutting =>
    ({ d with mailbox := .abandoned } : TcpDriver).finish
  | _ => (d, [])

/-! ### Requests, reads and writes -/

/-- Hands the space for a read out. -/
def prepared (d : TcpDriver) : TcpDriver := { d with received := d.received.prepare d.chunkSize }

/-- Takes the oldest request up. -/
def takeCommand (d : TcpDriver) : Noted TcpDriver :=
  match d.mailbox.take? with
  | none => (d, [])
  | some (.send data, mailbox) =>
    ({ d.prepared with mailbox, queue := d.queue.push data }, [.queued d.id data])
  | some (.mark mark, mailbox) =>
    ({ d.prepared with mailbox, received := d.prepared.received.setWatermark mark }, [])
  | some (.close, mailbox) => ({ d.prepared with mailbox } : TcpDriver).leave .requested

/-- Takes the outcome of a read in; no bytes stand for the end of the stream. -/
def read (d : TcpDriver) : Except SystemError Bytes → Noted TcpDriver
  | .error e => d.prepared.leave (.failed e)
  | .ok [] => d.prepared.leave .peerClosed
  | .ok bytes =>
    let d := { d with received := (d.prepared.received.fill bytes).commit bytes.length }
    let notes := [.arrived d.id bytes, .measured (.received d.carrier bytes.length)]
    if d.received.reachedWatermark then
      ({ d with phase := .receiving }, notes ++ [.callback (.receive d.id)])
    else (d, notes)

/-- What is reported of a socket that takes no bytes. -/
def writeZero : SystemError := .plain .writeZero

/-- Takes the outcome of a write in: the socket took over some bytes of the front chunk. -/
def wrote (d : TcpDriver) : Except SystemError Nat → Noted TcpDriver
  | .error e => d.prepared.leave (.failed e)
  | .ok 0 => d.prepared.leave (.failed writeZero)
  | .ok n =>
    let taken := d.queue.unwritten.take n
    let (queue, through) := d.queue.advance n
    let d := { d.prepared with queue }
    let notes := [.left d.id taken, .measured (.sent d.carrier n)]
    if through && queue.isEmpty then ({ d with phase := .flushing }, notes) else (d, notes)

/-- Takes the outcome of the flush behind the last queued chunk in. -/
def flushed (d : TcpDriver) : Except SystemError Unit → Noted TcpDriver
  | .error e => d.leave (.failed e)
  | .ok () => ({ d with phase := .drained }, [.callback (.sent d.id)])

/-- Takes the outcome of a write within the closing time in. -/
def emptied (d : TcpDriver) (chunk : Bytes) (written : Nat) :
    Except SystemError Nat → Noted TcpDriver
  | .error _ | .ok 0 => ({ d with phase := .shutting }, [])
  | .ok n =>
    let note := Note.left d.id ((chunk.drop written).take n)
    if written + n < chunk.length then ({ d with phase := .emptying chunk (written + n) }, [note])
    else (d.nextChunk, [note, .measured (.sent d.carrier chunk.length)])

/-! ### What the service does with received bytes -/

/-- Removes bytes on behalf of the service and hands them out. -/
def take (d : TcpDriver) (length : Nat) : Option Bytes × Noted TcpDriver :=
  if d.phase = .receiving then
    match d.received.take? length with
    | none => (none, d, [])
    | some (taken, received) => (some taken, { d with received }, [.removed d.id taken])
  else (none, d, [])

/-- Removes bytes on behalf of the service. -/
def dropFront (d : TcpDriver) (length : Nat) : Bool × Noted TcpDriver :=
  let (taken, d) := d.take length
  (taken.isSome, d)

/-- Sets the watermark on behalf of the service. -/
def setMark (d : TcpDriver) (mark : Nat) : TcpDriver :=
  if d.phase = .receiving then { d with received := d.received.setWatermark mark } else d

/-! ### Whole runs -/

/-- What can happen to a driver. -/
inductive Event where
  /-- Somebody asks to send. -/
  | request (r : SendRequest)
  /-- Somebody asks for a watermark. -/
  | requestMark (mark : Nat)
  /-- Somebody asks to close. -/
  | requestClose
  /-- The loop starts the driver. -/
  | start
  /-- The oldest request is taken up. -/
  | command
  /-- A read ends. -/
  | readDone (outcome : Except SystemError Bytes)
  /-- A write ends; the socket took over so many bytes. -/
  | writeDone (outcome : Except SystemError Nat)
  /-- A flush ends. -/
  | flushDone (outcome : Except SystemError Unit)
  /-- The closing time is over. -/
  | lingerOver
  /-- The socket is shut down, cannot be, or is not waited for. -/
  | shutdownOver
  /-- The service removes bytes. -/
  | take (length : Nat)
  /-- The service removes bytes without looking at them. -/
  | dropFront (length : Nat)
  /-- The service sets the watermark. -/
  | setMark (mark : Nat)
  /-- The service answers. -/
  | returned (keep : Bool)
  /-- The loop drops the driver. -/
  | abort

/-- Whether the driver waits and no request is left to be taken up. -/
def listens (d : TcpDriver) : Bool := d.phase == .waiting && d.mailbox.posted.isEmpty

/-- Whether a read can end in a way: it brings at most what was asked for. -/
def canRead (d : TcpDriver) : Except SystemError Bytes → Bool
  | .ok bytes => d.listens && bytes.length ≤ d.chunkSize
  | .error _ => d.listens

/-- Whether the write of the front chunk can end in a way: a socket takes no more than it is
given. -/
def canWrite (d : TcpDriver) : Except SystemError Nat → Bool
  | .ok n => d.listens && !d.queue.isEmpty && n ≤ d.queue.unwritten.length
  | .error _ => d.listens && !d.queue.isEmpty

/-- Whether a write of the rest of a chunk can end in a way. -/
def fits (chunk : Bytes) (written : Nat) : Except SystemError Nat → Bool
  | .ok n => written + n ≤ chunk.length
  | .error _ => true

/-- What an event does; events that cannot happen now do nothing. -/
def step (d : TcpDriver) : Event → Noted TcpDriver
  | .request r => (d.request r).2
  | .requestMark mark => (d.requestMark mark, [])
  | .requestClose => (d.requestClose, [])
  | .start => d.start
  | .command => if d.phase = .waiting then d.takeCommand else (d, [])
  | .readDone outcome => if d.canRead outcome then d.read outcome else (d, [])
  | .writeDone outcome =>
    match d.phase with
    | .emptying chunk written =>
      if fits chunk written outcome then d.emptied chunk written outcome else (d, [])
    | _ => if d.canWrite outcome then d.wrote outcome else (d, [])
  | .flushDone outcome =>
    match d.phase with
    | .flushing => d.flushed outcome
    | .settling => ({ d with phase := .shutting }, [])
    | _ => (d, [])
  | .lingerOver =>
    match d.phase with
    | .emptying _ _ | .settling => ({ d with phase := .shutting }, [])
    | _ => (d, [])
  | .shutdownOver => if d.phase = .shutting then d.finish else (d, [])
  | .take length => (d.take length).2
  | .dropFront length => (d.dropFront length).2
  | .setMark mark => (d.setMark mark, [])
  | .returned keep => d.returned keep
  | .abort => d.abort

/-- What a sequence of events does. -/
def run (d : TcpDriver) : List Event → Noted TcpDriver
  | [] => (d, [])
  | e :: es => (d.step e).andThen fun d => d.run es

/-- Whether every step that the driver could take by itself waits for the socket. An unencrypted
socket is flushed at once, and without a closing time its end is not waited for. -/
def waitsForSocket (d : TcpDriver) : Bool :=
  match d.phase with
  | .waiting => d.mailbox.posted.isEmpty
  | .flushing | .settling => d.connection.encrypted
  | .emptying _ _ => true
  | .shutting => d.linger.isSome
  | .fresh | .opening | .receiving | .drained | .closing | .done => false

end TcpDriver

end Switchboard
