import Switchboard.Config.Validation
import Switchboard.Host
import Switchboard.Loop.Interleaving
import Switchboard.Udp.Outbound

/-!
# The datagram manager

A manager owns a pool of loops, handles of the acceptors it opened, and the engine that its outbound
connections share. It runs exactly when it has an engine.

Its three cells can be reached from different threads, so starting and stopping are machines that
touch one cell at a time: `Startup` is a start on its way, `Teardown` a stop. A stop asks every
acceptor to stop before it stops the loops. `Manager.init` and `Manager.exit` are the same calls
made without interruption, and `Call.interleave` makes any number of them side by side.
-/

namespace Switchboard.Udp

/-- An acceptor that was sent to a loop. -/
structure Serving where
  /-- The port it opened. -/
  port : Port
  /-- Its loop. -/
  eventLoop : EventLoop
  /-- Whether it has been asked to stop. -/
  stopAsked : Bool := false
  deriving DecidableEq, Repr

/-- The cells of a manager, and the acceptors it has sent to its loops. -/
structure Manager where
  /-- The loops. -/
  pool : LoopPool := {}
  /-- What acceptors and connections share, while the manager runs. -/
  engine : Option Engine := none
  /-- The acceptors' handles, in the order in which their ports were opened. -/
  handles : List Serving := []
  /-- The acceptors. -/
  serving : List Serving := []
  deriving Repr

/-- What a starting manager asks of the system, whose own state is an `ω`. -/
structure System (ω : Type) where
  /-- Starts the loop with a number. -/
  startLoop : Nat → Except SystemError Unit := fun _ => .ok ()
  /-- Opens a datagram socket and tells the port it got. -/
  openSocket : ω → Endpoint → Except SystemError Port × ω

namespace Manager

/-- Whether the manager runs. -/
def isRunning (m : Manager) : Bool := m.engine.isSome

/-- How many loops there are. -/
def threadCount (m : Manager) : Nat := m.pool.size

/-- The ports that were opened, in the order in which they were. -/
def ports (m : Manager) : List Port := m.handles.map Serving.port

/-- The acceptors that go on: their loops have not been stopped, and neither have they. -/
def acceptors (m : Manager) : List Serving :=
  m.serving.filter fun s => !s.stopAsked && !m.pool.isStopped s.eventLoop

/-- Asks the acceptors of all handles to stop, and lets go of the handles. -/
def stopAcceptors (m : Manager) : Manager :=
  { m with
    handles := []
    serving := m.serving.map fun s => { s with stopAsked := s.stopAsked || m.handles.contains s } }

end Manager

/-! ### Stopping -/

/-- Where a stop is on its way: the cell it turns to next. -/
inductive Teardown where
  | engine
  | handles
  | pool
  | finished
  deriving DecidableEq, Repr

/-- Goes one cell on. -/
def Teardown.step : Teardown → Manager → Teardown × Manager
  | engine, m => (handles, { m with engine := none })
  | handles, m => (pool, m.stopAcceptors)
  | pool, m => (finished, { m with pool := m.pool.exit })
  | finished, m => (finished, m)

/-! ### Starting -/

/-- Where a start is on its way. -/
inductive Startup where
  /-- It looks whether the manager runs, and at its settings. -/
  | entering
  /-- It starts the loops. -/
  | starting (host : IpAddress)
  /-- It takes a selector of the loops. -/
  | selecting (host : IpAddress)
  /-- It deals out a loop for the next port and opens an acceptor there. -/
  | binding (host : IpAddress) (engine : Engine) (rest : List Port)
  /-- It keeps the handle of the acceptor that was opened. -/
  | keeping (host : IpAddress) (engine : Engine) (opened : Serving) (rest : List Port)
  /-- It sends the acceptor to its loop. -/
  | spawning (host : IpAddress) (engine : Engine) (opened : Serving) (rest : List Port)
  /-- It looks whether any port was opened. -/
  | checking (engine : Engine)
  /-- It makes the engine known. -/
  | publishing (engine : Engine)
  /-- It takes everything back. -/
  | undoing (cause : NetworkError) (stage : Teardown)
  /-- It has answered. -/
  | answered (answer : Except NetworkError Unit)

namespace Startup

/-- What the service is told of a port that cannot be opened. -/
def bindFailed (e : NetworkError) : Note :=
  .callback (.error "acceptor" "bind" e.code e.message)

/-- Goes on to the ports that are left, or to the end of the list. -/
def proceed (config : UdpConfig) (host : IpAddress) (engine : Engine) : List Port → Startup
  | [] => if config.ports.isEmpty then publishing engine else checking engine
  | port :: rest => binding host engine (port :: rest)

/-- What a start has come to. -/
structure Progress (ω : Type) where
  /-- Where the call is now. -/
  stage : Startup
  /-- The manager. -/
  manager : Manager
  /-- The state of the system. -/
  world : ω
  /-- What was noted. -/
  notes : List Note := []

/-- Goes one step on. -/
def step {ω : Type} (system : System ω) (config : UdpConfig) (stage : Startup) (m : Manager)
    (w : ω) : Progress ω :=
  match stage with
  | entering =>
    if m.engine.isSome then ⟨answered (.error .alreadyInitialized), m, w, []⟩
    else if !config.violations.isEmpty then
      ⟨answered (.error (.config (Violation.describe config.violations))), m, w, []⟩
    else
      match IpAddress.ofString? config.bindHost with
      | none =>
        ⟨answered (.error (.config ("invalid bind host '" ++ config.bindHost ++ "'"))), m, w, []⟩
      | some host => ⟨starting host, m, w, []⟩
  | starting host =>
    match m.pool.init config.threadCount system.startLoop with
    | (.error e, pool) => ⟨answered (.error e), { m with pool }, w, []⟩
    | (.ok (), pool) => ⟨selecting host, { m with pool }, w, []⟩
  | selecting host =>
    match m.pool.selector? with
    | none => ⟨undoing .notInitialized .engine, m, w, []⟩
    | some loops =>
      ⟨proceed config host { loops, maxDatagram := config.maxDatagramSize } config.ports, m, w, []⟩
  | binding host engine ports =>
    match ports with
    | [] => ⟨proceed config host engine [], m, w, []⟩
    | port :: rest =>
      match m.pool.next engine.loops with
      | (none, pool) => ⟨undoing .notInitialized .engine, { m with pool }, w, []⟩
      | (some eventLoop, pool) =>
        let m := { m with pool }
        match system.openSocket w ⟨host, port⟩ with
        | (.ok opened, w) => ⟨keeping host engine { port := opened, eventLoop } rest, m, w, []⟩
        | (.error source, w) =>
          let e := NetworkError.bind ⟨host, port⟩ source
          if config.portPolicy = .all then ⟨undoing e .engine, m, w, [bindFailed e]⟩
          else ⟨proceed config host engine rest, m, w, [bindFailed e]⟩
  | keeping host engine opened rest =>
    ⟨spawning host engine opened rest, { m with handles := m.handles ++ [opened] }, w, []⟩
  | spawning host engine opened rest =>
    let asked := !m.handles.contains opened
    let m := { m with serving := m.serving ++ [{ opened with stopAsked := asked }] }
    ⟨proceed config host engine (if config.portPolicy = .any then [] else rest), m, w, []⟩
  | checking engine =>
    if m.handles.isEmpty then ⟨undoing .noListener .engine, m, w, []⟩
    else ⟨publishing engine, m, w, []⟩
  | publishing engine => ⟨answered (.ok ()), { m with engine := some engine }, w, []⟩
  | undoing cause .finished => ⟨answered (.error cause), m, w, []⟩
  | undoing cause stage =>
    let (stage, m) := stage.step m
    ⟨undoing cause stage, m, w, []⟩
  | answered answer => ⟨answered answer, m, w, []⟩

/-- Goes at most `fuel` steps on, without interruption. -/
def drive {ω : Type} (system : System ω) (config : UdpConfig) : Nat → Startup → Manager → ω →
    Progress ω
  | 0, stage, m, w => ⟨stage, m, w, []⟩
  | fuel + 1, stage, m, w =>
    match stage with
    | answered answer => ⟨answered answer, m, w, []⟩
    | stage =>
      let now := stage.step system config m w
      let later := drive system config fuel now.stage now.manager now.world
      { later with notes := now.notes ++ later.notes }

/-- How many steps a start takes at most: three for each port and ten around them. -/
def steps (config : UdpConfig) : Nat := 3 * config.ports.length + 10

end Startup

namespace Manager

variable {ω : Type}

/-- Starts loops and opens an acceptor on the ports; what was started is stopped again if the start
fails. -/
def init (m : Manager) (system : System ω) (config : UdpConfig) (w : ω) :
    Except NetworkError Unit × Manager × ω × List Note :=
  let last := Startup.drive system config (Startup.steps config) .entering m w
  match last.stage with
  | .answered answer => (answer, last.manager, last.world, last.notes)
  | _ => (.error .notInitialized, last.manager, last.world, last.notes)

/-- Stops every acceptor and every loop, and with them every connection. -/
def exit (m : Manager) : Manager :=
  let (stage, m) := Teardown.engine.step m
  let (stage, m) := stage.step m
  (stage.step m).2

/-- What comes of a request for an outbound connection. -/
structure Outcome where
  /-- The caller's answer. -/
  answer : Except NetworkError Unit
  /-- How far the request got. -/
  passage : Passage := {}
  /-- What was noted on the loop. -/
  notes : List Note := []
  deriving Repr

/-- Asks for an outbound connection. What is left to a loop is lost if that loop has been
stopped. -/
def createConnection (m : Manager) (journey : Journey) (id : ConnectionId)
    (request : Connect.Request) : Outcome × Manager :=
  match m.engine with
  | none => ({ answer := .error .notInitialized }, m)
  | some engine =>
    match bindEndpoint request.bindIp request.bindPort with
    | .error e => ({ answer := .error e }, m)
    | .ok bind =>
      match m.pool.next engine.loops with
      | (none, pool) => ({ answer := .error .notInitialized }, { m with pool })
      | (some eventLoop, pool) =>
        let m := { m with pool }
        if request.sync then
          let (answer, passage, notes) := engine.attend journey id request bind
          match pool.runOn eventLoop (passage, notes) with
          | some (passage, notes) => ({ answer, passage, notes }, m)
          | none => ({ answer, passage := { passage with driver := none } }, m)
        else
          match pool.runOn eventLoop (engine.connect journey id request bind) with
          | some (passage, notes) => ({ answer := .ok (), passage, notes }, m)
          | none => ({ answer := .ok () }, m)

end Manager

/-! ### Calls from different threads -/

/-- A start or a stop under way. -/
inductive Call where
  /-- A start with some settings. -/
  | starting (config : UdpConfig) (stage : Startup)
  /-- A stop. -/
  | stopping (stage : Teardown)

namespace Call

/-- A start that has just begun. -/
def start (config : UdpConfig) : Call := starting config .entering

/-- A stop that has just begun. -/
def stop : Call := stopping .engine

/-- Whether the call has answered. -/
def isOver : Call → Bool
  | starting _ (.answered _) => true
  | stopping .finished => true
  | _ => false

/-- Takes a call a step on; the manager and the system are shared by all calls. -/
def step {ω : Type} (system : System ω) (call : Call) (shared : Manager × ω) :
    Call × Noted (Manager × ω) :=
  match call with
  | starting config stage =>
    let now := stage.step system config shared.1 shared.2
    (starting config now.stage, (now.manager, now.world), now.notes)
  | stopping stage =>
    let (stage, manager) := stage.step shared.1
    (stopping stage, (manager, shared.2), [])

/-- What becomes of a manager and the system while calls are made and go on in some order. -/
def interleave {ω : Type} (system : System ω) (x : Interleaving (Manager × ω) Call)
    (events : List (Interleaving.Event Call)) : Noted (Interleaving (Manager × ω) Call) :=
  x.run (step system) events

end Call

/-! ### On a host

What a host answers to a manager and to its outbound connections. -/

/-- What a starting manager gets from a host. -/
def System.onHost : System Host where
  openSocket h endpoint := h.bind .datagram endpoint true

/-- What an outbound connection meets on a host. -/
def Journey.onHost (host : Host) (resolver : Resolver) : Journey where
  resolver := resolver
  attempt local_ _ target := host.connectDatagram local_ target
  host := .error Host.unreachable
  peer := .error Host.unreachable

/-- The host once the sockets of a manager's stopped acceptors are gone: `before` listed them. -/
def Manager.releasePorts (m : Manager) (before : List Serving) (host : Host) : Host :=
  (before.filter fun s => !m.acceptors.contains s).foldl
    (fun h s => h.release .datagram s.port) host

end Switchboard.Udp
