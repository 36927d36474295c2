import Switchboard.Proxy.Forwarder
import Switchboard.Tcp.Driver

/-!
# The forwarder at work

An exchange is a forwarder together with the drivers of all connections it serves. Each connection
has its calls made one after the other on its loop, but calls of different connections run side by
side: one may use the table of pairs between the moment another has left it and the moment that
other one's errand is done. So a call is made in steps. First it consults the table, which it then
has to itself; what is left is an errand that is advanced one post at a time, and in the end the
driver gets the answer.

Calls that belong to no connection, those for targets that could not be reached and the deadlines,
have their errands in a list of their own.
-/

namespace Switchboard.Proxy

/-- A forwarder and the connections it serves. -/
structure Exchange where
  /-- The forwarder. -/
  forwarder : Forwarder
  /-- How many bytes each read asks for. -/
  chunkSize : Nat := 512
  /-- The closing time of connections. -/
  linger : Option Nat := none
  /-- The drivers of the connections, those that are over included. -/
  drivers : Table ConnectionId TcpDriver := []
  /-- The errands of calls that are done with the table. -/
  errands : Table ConnectionId Errand := []
  /-- The errands of calls that belong to no connection. -/
  loose : List Errand := []
  /-- The pairs whose target was asked for and is neither there nor given up. -/
  requested : List Nat := []
  /-- The pairs whose deadline is awaited. -/
  watched : List Nat := []
  deriving Repr

namespace Exchange

/-- Replaces the driver of a connection. -/
def put (x : Exchange) (id : ConnectionId) (d : TcpDriver) : Exchange :=
  { x with drivers := x.drivers.put id d }

/-- Has something happen to the driver of a connection. -/
def withDriver (x : Exchange) (id : ConnectionId) (f : TcpDriver → Noted TcpDriver) :
    Noted Exchange :=
  match x.drivers.get? id with
  | none => (x, [])
  | some d =>
    let (d, notes) := f d
    (x.put id d, notes)

/-- A driver for a new connection, which announces it. -/
def greet (x : Exchange) (id : ConnectionId) (identity : Identity) (opening : Opening)
    (host peer : Endpoint) : Noted Exchange :=
  if (x.drivers.get? id).isSome then (x, [])
  else
    let driver : TcpDriver :=
      { connection := { id, direction := opening.direction, identity, host, peer }
        opening
        chunkSize := x.chunkSize
        linger := x.linger }
    let (driver, notes) := driver.start
    (x.put id driver, notes)

/-- Ends the wait for the target of a pair. -/
def answered (x : Exchange) (number : Nat) : Exchange :=
  { x with requested := x.requested.erase number }

/-- Takes all received bytes out on behalf of the service. -/
def takeAll (d : TcpDriver) : Bytes × Noted TcpDriver :=
  let (chunk, d) := d.take d.received.size
  (chunk.getD [], d)

/-- Has the call under way on a connection consult the table, if it has not done so yet. -/
def consult (x : Exchange) (id : ConnectionId) : Noted Exchange :=
  match x.drivers.get? id, x.errands.get? id with
  | some d, none =>
    let leaveTable (x : Exchange) (call : Errand × Forwarder) : Exchange :=
      { x with forwarder := call.2, errands := x.errands.put id call.1 }
    match d.phase with
    | .opening =>
      match d.opening with
      | .accepted _ => (leaveTable x (x.forwarder.accepted id), [])
      | .connected => (leaveTable x (x.forwarder.connected (some id) d.connection.identity), [])
    | .receiving =>
      let (chunk, d, notes) := takeAll d
      (leaveTable (x.put id d) (x.forwarder.received id chunk), notes)
    | .drained => ({ x with errands := x.errands.put id (.done true) }, [])
    | .closing => (leaveTable x (x.forwarder.closed id), [])
    | _ => (x, [])
  | _, _ => (x, [])

/-- One step of an errand and what is left of it; `asked` tells whether the manager takes a request
for a target. An errand with nothing left but its answer stays as it is. -/
def advance (x : Exchange) (asked : Bool) : Errand → Errand × Noted Exchange
  | .connect number _ =>
    if asked then (.watch number, { x with requested := x.requested ++ [number] }, [])
    else (.done false, x, [])
  | .watch number =>
    let watched := if x.forwarder.deadline.isSome then x.watched ++ [number] else x.watched
    (.done true, { x with watched }, [])
  | .send _ [] => (.done true, x, [])
  | .send other (chunk :: rest) =>
    match x.drivers.get? other with
    | none => (.done false, x, [])
    | some d =>
      let (granted, d, notes) := d.request (.ofChunk chunk)
      (if granted then .send other rest else .done false, x.put other d, notes)
  | .close other answer => (.done answer, x.withDriver other fun d => (d.requestClose, []))
  | .done answer => (.done answer, x, [])

/-- One step of the errand of a connection's call; the answer goes to its driver. -/
def errand (x : Exchange) (id : ConnectionId) (asked : Bool) : Noted Exchange :=
  match x.errands.get? id with
  | none => (x, [])
  | some (.done answer) =>
    ({ x with errands := x.errands.erase id } : Exchange).withDriver id (·.returned answer)
  | some errand =>
    let (rest, x, notes) := x.advance asked errand
    ({ x with errands := x.errands.put id rest }, notes)

/-- One step of an errand that belongs to no connection. -/
def looseErrand (x : Exchange) (i : Nat) : Noted Exchange :=
  match x.loose[i]? with
  | none => (x, [])
  | some (.done _) => ({ x with loose := x.loose.eraseIdx i }, [])
  | some errand =>
    let (rest, x, notes) := x.advance false errand
    ({ x with loose := x.loose.set i rest }, notes)

/-- What can happen. -/
inductive Event where
  /-- A client is accepted. -/
  | accept (id : ConnectionId) (port : Port) (host peer : Endpoint)
  /-- The target of a pair is there. -/
  | targetUp (number : Nat) (id : ConnectionId) (host peer : Endpoint)
  /-- The target of a pair could not be reached. -/
  | targetDown (number : Nat)
  /-- The target of a pair was reached but could not be encrypted, of which only an error tells. -/
  | targetSpoiled (number : Nat) (code : Nat) (message : String)
  /-- The deadline of a pair is over. -/
  | deadline (number : Nat)
  /-- A call consults the table. -/
  | consult (id : ConnectionId)
  /-- A call goes on with its errand. -/
  | errand (id : ConnectionId) (asked : Bool)
  /-- An errand that belongs to no connection goes on. -/
  | looseErrand (i : Nat)
  /-- Something happens to a driver that is not up to the service. -/
  | drive (id : ConnectionId) (e : TcpDriver.Event)

/-- Whether something that happens to a driver is up to its service, which alone has the handles of
the connections. -/
def isOfService : TcpDriver.Event → Bool
  | .request _ | .requestMark _ | .requestClose => true
  | .start | .take _ | .dropFront _ | .setMark _ | .returned _ => true
  | _ => false

/-- What an event does; events that cannot happen now do nothing. -/
def step (x : Exchange) : Event → Noted Exchange
  | .accept id port host peer => x.greet id .anonymous (.accepted port) host peer
  | .targetUp number id host peer =>
    if number ∈ x.requested then (x.answered number).greet id ⟨number⟩ .connected host peer
    else (x, [])
  | .targetDown number =>
    if number ∈ x.requested then
      let (errand, forwarder) := x.forwarder.connected none ⟨number⟩
      ({ x.answered number with forwarder, loose := x.loose ++ [errand] },
        [.callback (.connect none ⟨number⟩)])
    else (x, [])
  | .targetSpoiled number code message =>
    if number ∈ x.requested then
      (x.answered number, [.callback (.error "connection" "handshake" code message)])
    else (x, [])
  | .deadline number =>
    if number ∈ x.watched then
      ({ x with
          watched := x.watched.erase number
          loose := x.loose ++ [x.forwarder.deadlineOver number] }, [])
    else (x, [])
  | .consult id => x.consult id
  | .errand id asked => x.errand id asked
  | .looseErrand i => x.looseErrand i
  | .drive id e => if isOfService e then (x, []) else x.withDriver id (·.step e)

/-- What a sequence of events does. -/
def run (x : Exchange) : List Event → Noted Exchange
  | [] => (x, [])
  | e :: es => (x.step e).andThen fun x => x.run es

end Exchange

end Switchboard.Proxy
