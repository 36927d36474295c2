import Switchboard.Connect.Candidates
import Switchboard.Loop.Pool
import Switchboard.Udp.Driver

/-!
# Outbound datagram connections

A request for an outbound datagram connection is resolved, and for each candidate a socket is
opened, on the local end that was asked for or on any, and bound to that peer. The first socket for
which this works gets a driver. As with streams, `Engine.connect` does all of it on a loop, while
`Engine.attend` resolves and connects in the caller's time. What the rest of the system answers on
the way is a `Journey`.
-/

namespace Switchboard.Udp

/-- What the acceptors and connections of a running manager share. -/
structure Engine where
  /-- Deals out the loops. -/
  loops : LoopSelector
  /-- How long a received datagram may be. -/
  maxDatagram : Nat := 1500
  deriving DecidableEq, Repr

/-- What the rest of the system answers to one outbound connection. -/
structure Journey where
  /-- Turns the host and the service into endpoints. -/
  resolver : Resolver
  /-- What comes of a socket on a local end for an endpoint, when so many were tried before. -/
  attempt : Endpoint → Nat → Endpoint → Except SystemError Unit
  /-- Whether a loop takes over a socket that was connected elsewhere. -/
  register : Except SystemError Unit := .ok ()
  /-- The local end of the socket. -/
  host : Except SystemError Endpoint
  /-- The remote end of the socket. -/
  peer : Except SystemError Endpoint

/-- How far a request got: the endpoints that were tried, and the driver of the connection. -/
structure Passage where
  /-- The endpoints that were tried, in order. -/
  tried : List Endpoint := []
  /-- The driver, if there is a connection. -/
  driver : Option UdpDriver := none
  deriving Repr

/-! ### What the service is told of failures -/

/-- A host could not be resolved. -/
def resolveFailed (identity : Identity) (source : SystemError) : List Note :=
  [.measured (.failure .udp .resolve),
   .callback (.error "connection" "resolve" source.code source.message),
   .callback (.connect none identity)]

/-- Every candidate was tried in vain. -/
def connectFailed (identity : Identity) : List Note :=
  [.measured (.failure .udp .connect), .callback (.connect none identity)]

/-- One attempt: the socket is opened on the local end asked for, or on any of the peer's family. -/
def Journey.tryCandidate (journey : Journey) (bind : Option Endpoint) (made : Nat)
    (peer : Endpoint) : Except SystemError Unit :=
  journey.attempt (bind.getD peer.unspecifiedFor) made peer

namespace Engine

/-- Starts the driver of a connection, unless its socket is lost by then. -/
def runConnection (engine : Engine) (journey : Journey) (id : ConnectionId) (identity : Identity) :
    Noted (Option UdpDriver) :=
  match journey.host, journey.peer with
  | .ok host, .ok peer =>
    let driver : UdpDriver :=
      { connection := { id, direction := .active, identity, host, peer }
        maxDatagram := engine.maxDatagram }
    let (driver, notes) := driver.start
    (some driver, .tracked 1 :: notes)
  | _, _ => (none, [.callback (.connect none identity)])

/-- Makes a connection on a loop from beginning to end. -/
def connect (engine : Engine) (journey : Journey) (id : ConnectionId)
    (request : Connect.Request) (bind : Option Endpoint) : Noted Passage :=
  match journey.resolver request.host request.service with
  | .error e => ({}, resolveFailed request.identity e)
  | .ok candidates =>
    match Connect.connectStepwise (journey.tryCandidate bind) candidates with
    | (.connected () _, tried) =>
      let (driver, notes) := engine.runConnection journey id request.identity
      ({ tried, driver }, notes)
    | (.exhausted _ _, tried) => ({ tried }, connectFailed request.identity)

/-- Resolves and connects in the caller's time: the caller's answer, and what is left to a loop. -/
def attend (engine : Engine) (journey : Journey) (id : ConnectionId)
    (request : Connect.Request) (bind : Option Endpoint) :
    Except NetworkError Unit × Noted Passage :=
  match journey.resolver request.host request.service with
  | .error e =>
    (.error (.resolve request.host request.service e), {}, resolveFailed request.identity e)
  | .ok candidates =>
    match Connect.connectBlocking (journey.tryCandidate bind) candidates with
    | (.connected () _, tried) =>
      match journey.register with
      | .error _ => (.ok (), { tried }, connectFailed request.identity)
      | .ok () =>
        let (driver, notes) := engine.runConnection journey id request.identity
        (.ok (), { tried, driver }, notes)
    | (.exhausted attempts e, tried) =>
      (.error (.connect request.host request.service attempts e.summarized), { tried },
        connectFailed request.identity)

end Engine

end Switchboard.Udp
