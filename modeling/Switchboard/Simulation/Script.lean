import Switchboard.Connection.Note

/-!
# Scripted services

A scripted service answers each call with a fixed list of actions and an answer, chosen by how often
it has been called that way before. It lets a connection be driven without a program behind it.
-/

namespace Switchboard.Simulation

/-- What a service, or anybody with a handle, can do. -/
inductive Action where
  /-- Send all of some bytes. -/
  | send (data : Bytes)
  /-- Send the first bytes of what there is. -/
  | sendPart (data : Option Bytes) (length : Nat)
  /-- Send a chunk. -/
  | sendChunk (data : Bytes)
  /-- Close the connection. -/
  | close
  /-- Ask for the state. -/
  | state
  /-- Ask whether the connection runs. -/
  | running
  /-- Ask whether the other side started it. -/
  | passive
  /-- Ask who started it. -/
  | direction
  /-- Ask for the identity. -/
  | identity
  /-- Ask how a log shows the connection. -/
  | describe
  /-- Ask whether the connection is encrypted. -/
  | encrypted
  /-- Set the watermark through the handle. -/
  | handleMark (mark : Nat)
  /-- Put the connection into a state. -/
  | setState (state : ConnectionState)
  /-- Ask for both ends. -/
  | ends
  /-- Ask whether a datagram is there. -/
  | has
  /-- Ask how many bytes, or how long the oldest datagram is. -/
  | size
  /-- Ask for the received bytes, or for the oldest datagram. -/
  | data
  /-- Ask how many datagrams there are. -/
  | count
  /-- Copy received bytes. -/
  | copy (length : Nat)
  /-- Copy received bytes and remove them. -/
  | move (length : Nat)
  /-- Remove received bytes, or the oldest datagram if it has that length. -/
  | drop (length : Nat)
  /-- Take received bytes out. -/
  | take (length : Nat)
  /-- Take all received bytes out. -/
  | takeAll
  /-- Take all received bytes out and send them back. -/
  | echoAll
  /-- Set the watermark. -/
  | mark (mark : Nat)
  /-- Take the oldest datagram out. -/
  | pop
  /-- Take all datagrams out. -/
  | popAll
  /-- Take the oldest datagram out and send it back. -/
  | echo
  deriving Repr

namespace Action

/-- The words for actions that need nothing more. -/
def plain : List (String × Action) :=
  [("close", close), ("state", state), ("running", running), ("passive", passive),
   ("direction", direction), ("identity", identity), ("debug", describe), ("tls", encrypted),
   ("addrs", ends), ("has", has), ("size", size), ("data", data), ("count", count),
   ("take_all", takeAll), ("echo_all", echoAll), ("pop", pop), ("pop_all", popAll), ("echo", echo)]

/-- The words for actions that need a number. -/
def counted : List (String × (Nat → Action)) :=
  [("handle_mark", handleMark), ("set_state", fun n => setState (.ofNumber n)), ("copy", copy),
   ("move", move), ("drop", drop), ("take", take), ("mark", mark)]

end Action

/-- What comes of an action. -/
inductive Answer where
  | nothing
  | flag (value : Bool)
  | number (value : Nat)
  | text (value : String)
  | bytes (value : Bytes)
  | list (values : List Bytes)
  | endpoints (host peer : Endpoint)
  deriving DecidableEq, Repr

/-- What a scripted service does in one call. -/
structure Entry where
  /-- What it does. -/
  actions : List Action := []
  /-- What it answers. -/
  keep : Bool := true
  deriving Repr

/-- The calls of a service that a script tells apart. -/
inductive Occasion where
  /-- A connection was opened. -/
  | opening
  /-- There is data to be received. -/
  | receiving
  /-- All that was to be sent is sent. -/
  | sent
  /-- Any other call; the script says nothing about it. -/
  | other
  deriving DecidableEq, Repr

/-- The occasion of a call. -/
def Occasion.of : Callback → Occasion
  | .accept _ _ | .connect _ _ => opening
  | .receive _ => receiving
  | .sent _ => sent
  | .close _ _ | .error _ _ _ _ => other

/-- A script with the number of calls so far. -/
structure Service where
  /-- The entries for openings. -/
  onOpen : List Entry := []
  /-- The entries for received data. -/
  onReceive : List Entry := []
  /-- The entries for finished sending. -/
  onSent : List Entry := []
  /-- What is done with received data behind the last entry. -/
  receiveDefault : List Action := []
  /-- How many calls of each kind there were. -/
  calls : Table Occasion Nat := []
  deriving Repr

namespace Service

/-- What the service does on an occasion. -/
def next (s : Service) (o : Occasion) : Entry × Service :=
  let n := (s.calls.get? o).getD 0
  let counted := { s with calls := s.calls.put o (n + 1) }
  match o with
  | .opening => (s.onOpen[n]?.getD {}, counted)
  | .receiving => (s.onReceive[n]?.getD { actions := s.receiveDefault }, counted)
  | .sent => (s.onSent[n]?.getD {}, counted)
  | .other => ({}, s)

end Service

/-- A call of the service with what its actions brought. -/
structure Record where
  /-- The call. -/
  call : Callback
  /-- What came of the actions. -/
  answers : List Answer := []
  deriving DecidableEq, Repr

/-- What was seen while a connection was driven. -/
structure Log where
  /-- The call of the service under way. -/
  current : Option Callback := none
  /-- The calls since the log was last read, latest first. -/
  records : List Record := []
  /-- All measurements. -/
  metrics : Metrics := {}
  /-- How many connections are live. -/
  active : Int := 0
  deriving Repr

namespace Log

/-- Takes a note in. -/
def add (log : Log) : Note → Log
  | .callback c => { log with current := some c }
  | .measured m => { log with metrics := log.metrics.record m }
  | .tracked d => { log with active := log.active + d }
  | _ => log

/-- Takes notes in. -/
def addAll (log : Log) (notes : List Note) : Log := notes.foldl add log

/-- Writes the call under way down with its answers. -/
def write (log : Log) (answers : List Answer) : Log :=
  match log.current with
  | none => log
  | some call => { log with current := none, records := ⟨call, answers⟩ :: log.records }

/-- Reads the calls since the last time. -/
def read (log : Log) : List Record × Log := (log.records.reverse, { log with records := [] })

end Log

/-- Does actions one after the other. -/
def actAll {σ : Type} (act : σ → Action → Answer × Noted σ) (s : σ) :
    List Action → List Answer × Noted σ
  | [] => ([], s, [])
  | a :: rest =>
    let (answer, s, notes) := act s a
    let (answers, s, more) := actAll act s rest
    (answer :: answers, s, notes ++ more)

/-- A machine that calls a service. -/
structure Machine (σ : Type) where
  /-- Whether a call of the service is under way. -/
  inCall : σ → Bool
  /-- What a service does on a connection. -/
  act : ConnectionId → σ → Action → Answer × Noted σ
  /-- Goes on after the service has answered. -/
  returned : σ → Bool → Noted σ

/-- The connection that a call is about. -/
def connectionOf : Callback → Option ConnectionId
  | .accept c _ | .receive c | .sent c | .close c _ => some c
  | .connect c _ => c
  | .error _ _ _ _ => none

/-- Answers calls of the service, at most `fuel` of them, until none is under way. -/
def settle {σ : Type} (m : Machine σ) : Nat → Service × Log × σ → Service × Log × σ
  | 0, run => run
  | fuel + 1, (service, log, s) =>
    if !m.inCall s then (service, log, s)
    else
      let occasion := (log.current.map Occasion.of).getD .other
      let (entry, service) := service.next occasion
      let (answers, s, notes) := match log.current.bind connectionOf with
        | some c => actAll (m.act c) s entry.actions
        | none => ([], s, [])
      let log := (log.addAll notes).write answers
      let (s, more) := m.returned s entry.keep
      settle m fuel (service, log.addAll more, s)

end Switchboard.Simulation
