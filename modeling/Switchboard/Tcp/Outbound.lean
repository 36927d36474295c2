import Switchboard.Connect.Candidates
import Switchboard.Loop.Pool
import Switchboard.Tcp.Driver
import Switchboard.Tls.Material
import Switchboard.Tls.ServerName

/-!
# Outbound stream connections

A request for an outbound connection is resolved, its candidates are tried, the connected socket is
encrypted if the manager has what it takes, and a driver takes over. A caller that does not wait has
all of this done on a loop, attempt by attempt (`Engine.connect`). A caller that waits resolves and
connects in its own time (`Engine.attend`), and only what comes after is left to the loop.

Whatever fails is told to the service: a resolution that fails as an error and as a connection that
could not be made, candidates that are used up as a connection that could not be made, and a
handshake as an error only. What the rest of the system answers on the way is a `Journey`.
-/

namespace Switchboard.Tcp

/-- What the listeners and connections of a running manager share. -/
structure Engine where
  /-- Deals out the loops. -/
  loops : LoopSelector
  /-- Encrypts accepted connections, if they are to be encrypted. -/
  acceptor : Option Tls.ServerMaterial := none
  /-- Encrypts outbound connections, if they are to be encrypted. -/
  connector : Option Tls.ClientMaterial := none
  /-- How many bytes each read asks for. -/
  chunkSize : Nat := 512
  /-- The time for an attempt to connect and for a handshake. -/
  connectTimeout : Option Nat := none
  /-- The closing time of connections. -/
  closeLinger : Option Nat := none
  deriving DecidableEq, Repr

/-- What the rest of the system answers to one outbound connection. -/
structure Journey where
  /-- Turns the host and the service into endpoints. -/
  resolver : Resolver
  /-- What comes of trying an endpoint from a local end, when so many were tried before. -/
  attempt : Option Endpoint → Nat → Endpoint → Except SystemError Unit
  /-- Whether a loop takes over a socket that was connected elsewhere. -/
  register : Except SystemError Unit := .ok ()
  /-- The ends of the connected socket. -/
  ends : Except SystemError (Endpoint × Endpoint)
  /-- What comes of the handshake. -/
  handshake : Except SystemError Unit := .ok ()

/-- How far a request got: the endpoints that were tried, and the driver of the connection. -/
structure Passage where
  /-- The endpoints that were tried, in order. -/
  tried : List Endpoint := []
  /-- The driver, if there is a connection. -/
  driver : Option TcpDriver := none
  deriving Repr

/-! ### What the service is told of failures -/

/-- A handshake failed. -/
def handshakeFailed (code : Nat) (message : String) : List Note :=
  [.measured (.failure .tls .handshake), .callback (.error "connection" "handshake" code message)]

/-- A host could not be resolved. -/
def resolveFailed (identity : Identity) (source : SystemError) : List Note :=
  [.measured (.failure .tcp .resolve),
   .callback (.error "connection" "resolve" source.code source.message),
   .callback (.connect none identity)]

/-- Every candidate was tried in vain. -/
def connectFailed (identity : Identity) : List Note :=
  [.measured (.failure .tcp .connect), .callback (.connect none identity)]

namespace Engine

/-- Starts the driver of a connection whose socket is ready for it, unless the socket is lost by
then. -/
def runConnection (engine : Engine) (id : ConnectionId) (identity : Identity) (encrypted : Bool)
    (ends : Except SystemError (Endpoint × Endpoint)) (opening : Opening) :
    Noted (Option TcpDriver) :=
  match ends with
  | .error _ =>
    (none, match opening with
      | .connected => [.callback (.connect none identity)]
      | .accepted _ => [])
  | .ok (host, peer) =>
    let driver : TcpDriver :=
      { connection := { id, direction := opening.direction, identity, encrypted, host, peer }
        opening
        chunkSize := engine.chunkSize
        linger := engine.closeLinger }
    let (driver, notes) := driver.start
    (some driver, .tracked 1 :: notes)

/-- Goes on with a connected socket: encrypts it if it is to be encrypted, and starts its driver. -/
def establish (engine : Engine) (journey : Journey) (id : ConnectionId)
    (request : Connect.Request) : Noted (Option TcpDriver) :=
  let go (encrypted : Bool) :=
    engine.runConnection id request.identity encrypted journey.ends .connected
  match engine.connector with
  | none => go false
  | some _ =>
    match Tls.ServerName.ofHost request.host with
    | .error e => (none, handshakeFailed e.code e.message)
    | .ok _ =>
      match journey.handshake with
      | .error e => (none, handshakeFailed e.code e.message)
      | .ok () => go true

/-- Makes a connection on a loop from beginning to end. -/
def connect (engine : Engine) (journey : Journey) (id : ConnectionId)
    (request : Connect.Request) (bind : Option Endpoint) : Noted Passage :=
  match journey.resolver request.host request.service with
  | .error e => ({}, resolveFailed request.identity e)
  | .ok candidates =>
    match Connect.connectStepwise (journey.attempt bind) candidates with
    | (.connected () _, tried) =>
      let (driver, notes) := engine.establish journey id request
      ({ tried, driver }, notes)
    | (.exhausted _ _, tried) => ({ tried }, connectFailed request.identity)

/-- Resolves and connects in the caller's time: the caller's answer, and what is left to a loop. -/
def attend (engine : Engine) (journey : Journey) (id : ConnectionId)
    (request : Connect.Request) (bind : Option Endpoint) :
    Except NetworkError Unit × Noted Passage :=
  match journey.resolver request.host request.service with
  | .error e =>
    (.error (.resolve request.host request.service e), {}, resolveFailed request.identity e)
  | .ok candidates =>
    match Connect.connectBlocking (journey.attempt bind) candidates with
    | (.connected () _, tried) =>
      match journey.register with
      | .error _ => (.ok (), { tried }, connectFailed request.identity)
      | .ok () =>
        let (driver, notes) := engine.establish journey id request
        (.ok (), { tried, driver }, notes)
    | (.exhausted attempts e, tried) =>
      (.error (.connect request.host request.service attempts e.summarized), { tried },
        connectFailed request.identity)

end Engine

end Switchboard.Tcp
