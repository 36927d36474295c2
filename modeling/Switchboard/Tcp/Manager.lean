import Switchboard.Config.Validation
import Switchboard.Host
import Switchboard.Loop.Interleaving
import Switchboard.Tcp.Gate

/-!
# The stream manager

A manager owns a pool of loops, the ports its listeners opened, and the engine that its listeners
and connections share. It runs exactly when it has an engine.

These are three cells, and calls from different threads may interleave between any two accesses to
them. So starting and stopping are given as machines that touch one cell at a time: `Startup` is a
start on its way, `Teardown` a stop. A start that fails once its loops run takes itself back by
going through a stop; one that is to let in more connections than there can be permits breaks down
instead and leaves its loops behind. `Manager.init` and `Manager.exit` are the same calls made
without interruption, and `Call.interleave` makes any number of them side by side.
-/

namespace Switchboard.Tcp

/-- A listener that serves on a loop. -/
structure Serving where
  /-- The port it opened. -/
  port : Port
  /-- Its loop. -/
  eventLoop : EventLoop
  deriving DecidableEq, Repr

/-- The cells of a manager, and the listeners it has sent to its loops. -/
structure Manager where
  /-- The loops. -/
  pool : LoopPool := {}
  /-- What listeners and connections share, while the manager runs. -/
  engine : Option Engine := none
  /-- The ports that were opened, in the order in which they were. -/
  ports : List Port := []
  /-- The listeners. -/
  serving : List Serving := []
  deriving Repr

/-- What a starting manager asks of the system, whose own state is an `ω`. -/
structure System (ω : Type) where
  /-- Starts the loop with a number. -/
  startLoop : Nat → Except SystemError Unit := fun _ => .ok ()
  /-- Loads what a server uses. -/
  serverMaterial : Certificate → Except NetworkError Tls.ServerMaterial
  /-- Loads what a client uses. -/
  clientMaterial : Certificate → Except NetworkError Tls.ClientMaterial
  /-- Opens a listening socket and tells the port it got. -/
  listen : ω → Endpoint → Except SystemError Port × ω

namespace Manager

/-- Whether the manager runs. -/
def isRunning (m : Manager) : Bool := m.engine.isSome

/-- How many loops there are. -/
def threadCount (m : Manager) : Nat := m.pool.size

/-- The listeners whose loops have not been stopped; the others are gone with their sockets. -/
def listeners (m : Manager) : List Serving :=
  m.serving.filter fun s => !m.pool.isStopped s.eventLoop

end Manager

/-! ### Stopping -/

/-- Where a stop is on its way: the cell it turns to next. -/
inductive Teardown where
  | engine
  | pool
  | ports
  | finished
  deriving DecidableEq, Repr

/-- Goes one cell on. -/
def Teardown.step : Teardown → Manager → Teardown × Manager
  | engine, m => (pool, { m with engine := none })
  | pool, m => (ports, { m with pool := m.pool.exit })
  | ports, m => (finished, { m with ports := [] })
  | finished, m => (finished, m)

/-! ### Starting -/

/-- Where a start is on its way. -/
inductive Startup where
  /-- It looks whether the manager runs, and at its settings. -/
  | entering
  /-- It starts the loops. -/
  | starting (host : IpAddress)
  /-- It takes a selector of the loops and loads the certificates. -/
  | loading (host : IpAddress)
  /-- It deals out a loop for the next port and opens a listener there. -/
  | binding (host : IpAddress) (engine : Engine) (rest : List Port)
  /-- It lists the port that was opened. -/
  | listing (host : IpAddress) (engine : Engine) (opened : Serving) (rest : List Port)
  /-- It sends the listener to its loop. -/
  | spawning (host : IpAddress) (engine : Engine) (opened : Serving) (rest : List Port)
  /-- It looks whether any port was opened. -/
  | checking (engine : Engine)
  /-- It makes the engine known. -/
  | publishing (engine : Engine)
  /-- It takes everything back. -/
  | undoing (cause : NetworkError) (stage : Teardown)
  /-- It has answered. -/
  | answered (answer : Except NetworkError Unit)
  /-- It has broken down and will not answer. -/
  | brokenDown

namespace Startup

/-- What the service is told of a certificate that cannot be loaded. -/
def loadFailed (role : CertificateRole) (e : NetworkError) : Note :=
  .callback (.error "manager" ("load " ++ role.name ++ " certificate") e.code e.message)

/-- What the service is told of a port that cannot be opened. -/
def bindFailed (e : NetworkError) : Note :=
  .callback (.error "acceptor" "bind" e.code e.message)

/-- Loads the material of one role: none is wanted without a certificate, and one that cannot be
loaded is reported and done without, unless encryption is required. -/
def material {α : Type} (role : CertificateRole) (required : Bool)
    (load : Certificate → Except NetworkError α) :
    Option Certificate → Except NetworkError (Option α) × List Note
  | none => (.ok none, [])
  | some c =>
    match load c with
    | .ok a => (.ok (some a), [])
    | .error e => (if required then .error e else .ok none, [loadFailed role e])

/-- Loads the material of both roles, the server's first. -/
def materials {ω : Type} (system : System ω) (config : TcpConfig) :
    Except NetworkError (Option Tls.ServerMaterial × Option Tls.ClientMaterial) × List Note :=
  let (acceptor, reports) :=
    material .server config.requireTls system.serverMaterial config.serverCertificate
  match acceptor with
  | .error e => (.error e, reports)
  | .ok acceptor =>
    let (connector, more) :=
      material .client config.requireTls system.clientMaterial config.clientCertificate
    (connector.map fun connector => (acceptor, connector), reports ++ more)

/-- Goes on to the ports that are left, or to the end of the list. -/
def proceed (config : TcpConfig) (host : IpAddress) (engine : Engine) : List Port → Startup
  | [] => if config.ports.isEmpty then publishing engine else checking engine
  | port :: rest => binding host engine (port :: rest)

/-- What a manager is asked to do once, with whatever comes of it. -/
structure Progress (ω : Type) where
  /-- Where the call is now. -/
  stage : Startup
  /-- The manager. -/
  manager : Manager
  /-- The state of the system. -/
  world : ω
  /-- What was noted. -/
  notes : List Note := []

/-- Goes one step on. -/
def step {ω : Type} (system : System ω) (config : TcpConfig) (stage : Startup) (m : Manager)
    (w : ω) : Progress ω :=
  match stage with
  | entering =>
    if m.engine.isSome then ⟨answered (.error .alreadyInitialized), m, w, []⟩
    else if !config.violations.isEmpty then
      ⟨answered (.error (.config (Violation.describe config.violations))), m, w, []⟩
    else
      match IpAddress.ofString? config.bindHost with
      | none =>
        ⟨answered (.error (.config ("invalid bind host '" ++ config.bindHost ++ "'"))), m, w, []⟩
      | some host => ⟨starting host, m, w, []⟩
  | starting host =>
    match m.pool.init config.threadCount system.startLoop with
    | (.error e, pool) => ⟨answered (.error e), { m with pool }, w, []⟩
    | (.ok (), pool) => ⟨loading host, { m with pool }, w, []⟩
  | loading host =>
    match m.pool.selector? with
    | none => ⟨undoing .notInitialized .engine, m, w, []⟩
    | some loops =>
      match materials system config with
      | (.error e, notes) => ⟨undoing e .engine, m, w, notes⟩
      | (.ok (acceptor, connector), notes) =>
        let engine : Engine :=
          { loops, acceptor, connector, chunkSize := config.chunkSize
            connectTimeout := config.connectTimeout, closeLinger := config.closeLinger }
        if config.maxConnections > Gate.maxPermits then ⟨brokenDown, m, w, notes⟩
        else ⟨proceed config host engine config.ports, m, w, notes⟩
  | binding host engine ports =>
    match ports with
    | [] => ⟨proceed config host engine [], m, w, []⟩
    | port :: rest =>
      match m.pool.next engine.loops with
      | (none, pool) => ⟨undoing .notInitialized .engine, { m with pool }, w, []⟩
      | (some eventLoop, pool) =>
        let m := { m with pool }
        match system.listen w ⟨host, port⟩ with
        | (.ok port, w) => ⟨listing host engine ⟨port, eventLoop⟩ rest, m, w, []⟩
        | (.error source, w) =>
          let e := NetworkError.bind ⟨host, port⟩ source
          match config.portPolicy with
          | .all => ⟨undoing e .engine, m, w, [bindFailed e]⟩
          | .any => ⟨proceed config host engine rest, m, w, [bindFailed e]⟩
  | listing host engine opened rest =>
    ⟨spawning host engine opened rest, { m with ports := m.ports ++ [opened.port] }, w, []⟩
  | spawning host engine opened rest =>
    let m := { m with serving := m.serving ++ [opened] }
    match config.portPolicy with
    | .any => ⟨proceed config host engine [], m, w, []⟩
    | .all => ⟨proceed config host engine rest, m, w, []⟩
  | checking engine =>
    if m.ports.isEmpty then ⟨undoing .noListener .engine, m, w, []⟩
    else ⟨publishing engine, m, w, []⟩
  | publishing engine => ⟨answered (.ok ()), { m with engine := some engine }, w, []⟩
  | undoing cause .finished => ⟨answered (.error cause), m, w, []⟩
  | undoing cause stage =>
    let (stage, m) := stage.step m
    ⟨undoing cause stage, m, w, []⟩
  | answered answer => ⟨answered answer, m, w, []⟩
  | brokenDown => ⟨brokenDown, m, w, []⟩

/-- Goes at most `fuel` steps on, without interruption. -/
def drive {ω : Type} (system : System ω) (config : TcpConfig) : Nat → Startup → Manager → ω →
    Progress ω
  | 0, stage, m, w => ⟨stage, m, w, []⟩
  | fuel + 1, stage, m, w =>
    match stage with
    | answered answer => ⟨answered answer, m, w, []⟩
    | stage =>
      let now := stage.step system config m w
      let later := drive system config fuel now.stage now.manager now.world
      { later with notes := now.notes ++ later.notes }

/-- How many steps a start takes at most: three for each port and ten around them. -/
def steps (config : TcpConfig) : Nat := 3 * config.ports.length + 10

end Startup

/-- Why a start does not succeed. -/
inductive Setback where
  /-- It has taken everything back and tells why. -/
  | refused (cause : NetworkError)
  /-- It has broken down where it was. -/
  | breakdown
  deriving DecidableEq, Repr

namespace Manager

variable {ω : Type}

/-- Starts loops, loads certificates and opens the ports; what was started is stopped again if the
start fails, but not if it breaks down. -/
def init (m : Manager) (system : System ω) (config : TcpConfig) (w : ω) :
    Except Setback Unit × Manager × ω × List Note :=
  let last := Startup.drive system config (Startup.steps config) .entering m w
  match last.stage with
  | .answered answer => (answer.mapError .refused, last.manager, last.world, last.notes)
  | _ => (.error .breakdown, last.manager, last.world, last.notes)

/-- Stops every loop, and with them every listener and connection. -/
def exit (m : Manager) : Manager :=
  let (stage, m) := Teardown.engine.step m
  let (stage, m) := stage.step m
  (stage.step m).2

/-- What comes of a request for an outbound connection: the caller's answer, how far it got, and
what was noted on the loop. -/
structure Outcome where
  /-- The caller's answer. -/
  answer : Except NetworkError Unit
  /-- How far the request got. -/
  passage : Passage := {}
  /-- What was noted on the loop. -/
  notes : List Note := []
  deriving Repr

/-- Asks for an outbound connection. What is left to a loop is lost if that loop has been
stopped. -/
def createConnection (m : Manager) (journey : Journey) (id : ConnectionId)
    (request : Connect.Request) : Outcome × Manager :=
  match m.engine with
  | none => ({ answer := .error .notInitialized }, m)
  | some engine =>
    match bindEndpoint request.bindIp request.bindPort with
    | .error e => ({ answer := .error e }, m)
    | .ok bind =>
      match m.pool.next engine.loops with
      | (none, pool) => ({ answer := .error .notInitialized }, { m with pool })
      | (some eventLoop, pool) =>
        let m := { m with pool }
        if request.sync then
          let (answer, passage, notes) := engine.attend journey id request bind
          match pool.runOn eventLoop (passage, notes) with
          | some (passage, notes) => ({ answer, passage, notes }, m)
          | none => ({ answer, passage := { passage with driver := none } }, m)
        else
          match pool.runOn eventLoop (engine.connect journey id request bind) with
          | some (passage, notes) => ({ answer := .ok (), passage, notes }, m)
          | none => ({ answer := .ok () }, m)

end Manager

/-! ### Calls from different threads -/

/-- A start or a stop under way. -/
inductive Call where
  /-- A start with some settings. -/
  | starting (config : TcpConfig) (stage : Startup)
  /-- A stop. -/
  | stopping (stage : Teardown)

namespace Call

/-- A start that has just begun. -/
def start (config : TcpConfig) : Call := starting config .entering

/-- A stop that has just begun. -/
def stop : Call := stopping .engine

/-- Whether the call has answered. -/
def isOver : Call → Bool
  | starting _ (.answered _) => true
  | stopping .finished => true
  | _ => false

/-- Takes a call a step on; the manager and the system are shared by all calls. -/
def step {ω : Type} (system : System ω) (call : Call) (shared : Manager × ω) :
    Call × Noted (Manager × ω) :=
  match call with
  | starting config stage =>
    let now := stage.step system config shared.1 shared.2
    (starting config now.stage, (now.manager, now.world), now.notes)
  | stopping stage =>
    let (stage, manager) := stage.step shared.1
    (stopping stage, (manager, shared.2), [])

/-- What becomes of a manager and the system while calls are made and go on in some order. -/
def interleave {ω : Type} (system : System ω) (x : Interleaving (Manager × ω) Call)
    (events : List (Interleaving.Event Call)) : Noted (Interleaving (Manager × ω) Call) :=
  x.run (step system) events

end Call

/-! ### On a host

What a host with some files answers to a manager and to its outbound connections. -/

/-- What a starting manager gets from a host: certificates from files, ports from the host. -/
def System.onHost (files : Files) : System Host where
  serverMaterial c := (Tls.ServerMaterial.load files c).mapError (·.toNetworkError .server)
  clientMaterial c := (Tls.ClientMaterial.load files c).mapError (·.toNetworkError .client)
  listen h endpoint := h.bind .stream endpoint true

/-- What an outbound connection meets on a host. -/
def Journey.onHost (host : Host) (resolver : Resolver) : Journey where
  resolver := resolver
  attempt bind _ target := host.connectStream bind target
  ends := .error Host.unreachable

/-- The host once the sockets of a manager's stopped listeners are gone: `before` listed them. -/
def Manager.releasePorts (m : Manager) (before : List Serving) (host : Host) : Host :=
  (before.filter fun s => !m.listeners.contains s).foldl (fun h s => h.release .stream s.port) host

end Switchboard.Tcp
