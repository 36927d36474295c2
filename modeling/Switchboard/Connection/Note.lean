import Switchboard.Address.Endpoint
import Switchboard.Bytes
import Switchboard.Connection.State
import Switchboard.Metrics

/-!
# What can be observed of a connection

A step of a connection leaves notes, in the order of what happened: the service was called, a
measurement was taken, the count of live connections moved, data went from one hand to the next.
The notes of a run are its history; every law about whole runs is said about them.
-/

namespace Switchboard

/-- A call of a service. -/
inductive Callback where
  /-- A connection was accepted on a port. -/
  | accept (connection : ConnectionId) (port : Port)
  /-- An outbound connection is there, or could not be made. -/
  | connect (connection : Option ConnectionId) (identity : Identity)
  /-- There is data to be received. -/
  | receive (connection : ConnectionId)
  /-- All that was to be sent is sent. -/
  | sent (connection : ConnectionId)
  /-- The connection is over. -/
  | close (connection : ConnectionId) (state : ConnectionState)
  /-- Something failed that belongs to no established connection. -/
  | error (operation action : String) (code : Nat) (message : String)
  deriving DecidableEq, Repr

/-- Something that happened. -/
inductive Note where
  /-- The service was called. -/
  | callback (call : Callback)
  /-- A measurement was taken. -/
  | measured (measurement : Measurement)
  /-- The count of live connections moved. -/
  | tracked (change : Int)
  /-- A chunk was accepted for sending. -/
  | posted (connection : ConnectionId) (data : Bytes)
  /-- Data came in from the network. -/
  | arrived (connection : ConnectionId) (data : Bytes)
  /-- The service removed received data. -/
  | removed (connection : ConnectionId) (data : Bytes)
  /-- A chunk joined the queue of those to be sent. -/
  | queued (connection : ConnectionId) (data : Bytes)
  /-- The network took data over. -/
  | left (connection : ConnectionId) (data : Bytes)
  /-- A chunk could not be sent and is gone. -/
  | lost (connection : ConnectionId) (data : Bytes)
  /-- A socket was released. -/
  | released
  deriving DecidableEq, Repr

/-- A state with what was noted on the way to it. -/
abbrev Noted (σ : Type) := σ × List Note

/-- Goes on from a state; the notes add up. -/
def Noted.andThen {σ τ : Type} (s : Noted σ) (f : σ → Noted τ) : Noted τ :=
  let t := f s.1
  (t.1, s.2 ++ t.2)

namespace Note

/-- The calls in a history. -/
def callbacks (history : List Note) : List Callback :=
  history.filterMap fun
    | callback c => some c
    | _ => none

/-- The measurements in a history. -/
def measurements (history : List Note) : List Measurement :=
  history.filterMap fun
    | measured m => some m
    | _ => none

end Note

end Switchboard
