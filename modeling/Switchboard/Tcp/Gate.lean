import Switchboard.Tcp.Outbound

/-!
# Letting connections in

The listeners of a manager share a number of permits, one for each connection there may be at a
time. A listener takes a permit before it accepts; permits are given to listeners in the order in
which they came to ask. An accepted connection keeps its listener's permit. It is moved to its loop,
encrypted if the manager has what it takes, and driven, and the permit is given back when its driver
is over or when it is lost before it has one.

`Gate` is the state of all listeners of a manager with the connections they let in, and `Gate.step`
what can happen to it. Listeners join one after the other, as their loops get to them, while those
before them already let connections in.
-/

namespace Switchboard.Tcp

/-- What a listener is doing. -/
inductive ListenerStage where
  /-- It waits for a permit. -/
  | queued
  /-- It has a permit and waits for a connection. -/
  | accepting
  /-- It pauses after a failure to accept. -/
  | pausing
  /-- It is over. -/
  | ended
  deriving DecidableEq, Repr

/-- A listener. -/
structure Listener where
  /-- Its port. -/
  port : Port
  /-- Its loop. -/
  eventLoop : EventLoop
  /-- What it is doing. -/
  stage : ListenerStage := .queued
  deriving DecidableEq, Repr

/-- Where an accepted connection is. -/
inductive ArrivalStage where
  /-- On its way to another loop. -/
  | moving
  /-- On its loop, being encrypted or about to be driven. -/
  | preparing
  /-- Driven. -/
  | driven (driver : TcpDriver)
  deriving Repr

/-- An accepted connection. -/
structure Arrival where
  /-- The port it came in on. -/
  port : Port
  /-- The loop it is meant for. -/
  eventLoop : EventLoop
  /-- Where it is. -/
  stage : ArrivalStage
  deriving Repr

/-- The listeners of a manager and the connections they let in. -/
structure Gate where
  /-- What the listeners share with the manager. -/
  engine : Engine
  /-- The permits that nobody has. -/
  free : Nat
  /-- The listeners. -/
  listeners : List Listener
  /-- The positions of the listeners that wait for a permit, first come first. -/
  queue : List Nat
  /-- The accepted connections by number. -/
  arrivals : Table Nat Arrival := []
  /-- The number of the next accepted connection. -/
  nextArrival : Nat := 0
  deriving Repr

namespace Gate

/-- The most permits there can be: an eighth of what a machine word can count. -/
def maxPermits : Nat := UInt64.size / 8 - 1

/-- What is said where more are wanted. -/
def tooManyPermits : String :=
  "a semaphore may not have more than MAX_PERMITS permits (" ++ Numeral.decimal maxPermits ++ ")"

/-- A gate with so many permits and without listeners. -/
def start (engine : Engine) (limit : Nat) : Gate :=
  { engine, free := limit, listeners := [], queue := [] }

/-- How many permits the listeners have. -/
def heldByListeners (g : Gate) : Nat := g.listeners.countP (·.stage = .accepting)

/-- How many permits the accepted connections have. -/
def heldByArrivals (g : Gate) : Nat := g.arrivals.length

/-- Moves a listener on. -/
def setStage (g : Gate) (i : Nat) (stage : ListenerStage) : Gate :=
  { g with listeners := g.listeners.modify i fun l => { l with stage } }

/-- Has a listener ask for a permit. -/
def ask (g : Gate) (i : Nat) : Gate :=
  let g := g.setStage i .queued
  { g with queue := g.queue ++ [i] }

/-- A listener starts on its loop and asks for its first permit. -/
def join (g : Gate) (port : Port) (eventLoop : EventLoop) : Gate :=
  { g with
    listeners := g.listeners ++ [{ port, eventLoop }]
    queue := g.queue ++ [g.listeners.length] }

/-- Gives a free permit to the listener that has waited longest. -/
def grant (g : Gate) : Gate :=
  match g.free, g.queue with
  | free + 1, i :: rest => ({ g with free, queue := rest } : Gate).setStage i .accepting
  | _, _ => g

/-- Gives a permit back. -/
def release (g : Gate) : Gate := { g with free := g.free + 1 }

/-- Lets go of an accepted connection and its permit. -/
def forget (g : Gate) (n : Nat) : Gate :=
  ({ g with arrivals := g.arrivals.erase n } : Gate).release

/-- Enters an accepted connection that has the permit of its listener. -/
def enter (g : Gate) (arrival : Arrival) : Gate :=
  { g with
    arrivals := g.arrivals.put g.nextArrival arrival
    nextArrival := g.nextArrival + 1 }

/-- A listener accepted a connection. Without a loop to send it to the listener is over; one that is
meant for another loop must come off its own, which `detached` tells. -/
def accept (g : Gate) (i : Nat) (target : Option EventLoop) (detached : Bool) : Gate :=
  match g.listeners[i]? with
  | none => g
  | some l =>
    if l.stage = .accepting then
      match target with
      | none => (g.setStage i .ended).release
      | some loop =>
        let g := g.ask i
        if loop = l.eventLoop then g.enter ⟨l.port, loop, .preparing⟩
        else if detached then g.enter ⟨l.port, loop, .moving⟩
        else g.release
    else g

/-- A listener failed to accept: it reports that, gives its permit back and pauses. -/
def acceptFailed (g : Gate) (i : Nat) (e : SystemError) : Noted Gate :=
  match g.listeners[i]? with
  | none => (g, [])
  | some l =>
    if l.stage = .accepting then
      ((g.setStage i .pausing).release,
        [.callback (.error "acceptor" "accept" e.code e.message)])
    else (g, [])

/-- A listener's pause is over. -/
def resume (g : Gate) (i : Nat) : Gate :=
  match g.listeners[i]? with
  | none => g
  | some l => if l.stage = .pausing then g.ask i else g

/-- A connection came to its loop, which takes it over or loses it. -/
def arrive (g : Gate) (n : Nat) (registered : Bool) : Gate :=
  match g.arrivals.get? n with
  | some ⟨port, loop, .moving⟩ =>
    if registered then { g with arrivals := g.arrivals.put n ⟨port, loop, .preparing⟩ }
    else g.forget n
  | _ => g

/-- A connection is encrypted, if it is to be, and its driver starts. -/
def openArrival (g : Gate) (n : Nat) (id : ConnectionId) (handshake : Except SystemError Unit)
    (ends : Except SystemError (Endpoint × Endpoint)) : Noted Gate :=
  match g.arrivals.get? n with
  | some ⟨port, loop, .preparing⟩ =>
    let go (encrypted : Bool) : Noted Gate :=
      match g.engine.runConnection id .anonymous encrypted ends (.accepted port) with
      | (none, notes) => (g.forget n, notes)
      | (some driver, notes) =>
        ({ g with arrivals := g.arrivals.put n ⟨port, loop, .driven driver⟩ }, notes)
    match g.engine.acceptor, handshake with
    | none, _ => go false
    | some _, .ok () => go true
    | some _, .error e => (g.forget n, handshakeFailed e.code e.message)
  | _ => (g, [])

/-- Something happens to the driver of a connection; once it is over the permit is given back. -/
def drive (g : Gate) (n : Nat) (e : TcpDriver.Event) : Noted Gate :=
  match g.arrivals.get? n with
  | some ⟨port, loop, .driven driver⟩ =>
    let (driver, notes) := driver.step e
    if driver.phase = .done then (g.forget n, notes)
    else ({ g with arrivals := g.arrivals.put n ⟨port, loop, .driven driver⟩ }, notes)
  | _ => (g, [])

/-- A loop that stops drops a listener. -/
def dropListener (g : Gate) (i : Nat) : Gate :=
  match g.listeners[i]? with
  | none => g
  | some l =>
    let ended := { g.setStage i .ended with queue := g.queue.filter (· ≠ i) }
    if l.stage = .accepting then ended.release else ended

/-- A loop that stops drops an accepted connection; a driven one announces its end first. -/
def dropArrival (g : Gate) (n : Nat) : Noted Gate :=
  match g.arrivals.get? n with
  | none => (g, [])
  | some ⟨_, _, .driven _⟩ => g.drive n .abort
  | some _ => (g.forget n, [])

/-- What can happen. -/
inductive Event where
  /-- A listener starts on its loop. -/
  | join (port : Port) (eventLoop : EventLoop)
  /-- A permit is given out. -/
  | grant
  /-- A listener accepts. -/
  | accept (i : Nat) (target : Option EventLoop) (detached : Bool)
  /-- A listener fails to accept. -/
  | acceptFailed (i : Nat) (e : SystemError)
  /-- A listener's pause is over. -/
  | resume (i : Nat)
  /-- A connection comes to its loop. -/
  | arrive (n : Nat) (registered : Bool)
  /-- A connection gets its driver. -/
  | openArrival (n : Nat) (id : ConnectionId) (handshake : Except SystemError Unit)
      (ends : Except SystemError (Endpoint × Endpoint))
  /-- Something happens to the driver of a connection. -/
  | drive (n : Nat) (e : TcpDriver.Event)
  /-- A listener is dropped. -/
  | dropListener (i : Nat)
  /-- A connection is dropped. -/
  | dropArrival (n : Nat)

/-- What an event does; events that cannot happen now do nothing. -/
def step (g : Gate) : Event → Noted Gate
  | .join port eventLoop => (g.join port eventLoop, [])
  | .grant => (g.grant, [])
  | .accept i target detached => (g.accept i target detached, [])
  | .acceptFailed i e => g.acceptFailed i e
  | .resume i => (g.resume i, [])
  | .arrive n registered => (g.arrive n registered, [])
  | .openArrival n id handshake ends => g.openArrival n id handshake ends
  | .drive n e => g.drive n e
  | .dropListener i => (g.dropListener i, [])
  | .dropArrival n => g.dropArrival n

/-- What a sequence of events does. -/
def run (g : Gate) : List Event → Noted Gate
  | [] => (g, [])
  | e :: es => (g.step e).andThen fun g => g.run es

end Gate

end Switchboard.Tcp
