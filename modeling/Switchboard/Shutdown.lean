import Switchboard.Table

/-!
# Asking everything to stop

A stop request is broadcast over a channel that keeps only the newest request. Every receiver has a
position in the sequence of requests. One that finds the request at its position still in the
channel takes it and moves on; one that was too slow is told how many it missed and goes on with the
newest. Receivers are told that the channel is closed when nobody is left who could send.

`Shutdown` is the channel with everybody attached to it: the handles that can send, the receivers,
and the waits. A wait owns a handle of its own, starts to listen when it is polled for the first
time, and is over at the first poll that finds a request, missed ones included.
-/

namespace Switchboard

/-- What a receiver finds in the channel. -/
inductive StopSignal where
  /-- A request. -/
  | stop
  /-- Nothing new. -/
  | empty
  /-- Nothing new, and nobody is left to send. -/
  | closed
  /-- That many requests were missed. -/
  | lagged (missed : Nat)
  deriving DecidableEq, Repr

/-- The broadcast channel with its handles, receivers and waits. -/
structure Shutdown where
  /-- How many requests have been sent. -/
  sent : Nat := 0
  /-- How many handles are held, waits not counted. -/
  handles : Nat := 1
  /-- The receivers by name, with the position each has reached. -/
  receivers : Table Nat Nat := []
  /-- The unfinished waits by name; a wait that listens has a position. -/
  waits : Table Nat (Option Nat) := []
  deriving DecidableEq, Repr

namespace Shutdown

/-- How many listen, waits included. -/
def listening (s : Shutdown) : Nat :=
  s.receivers.length + (s.waits.filter (·.2.isSome)).length

/-- How many could send, waits included. -/
def senders (s : Shutdown) : Nat := s.handles + s.waits.length

/-- What a listener at a position finds when `sent` requests have been made, and its next
position. -/
def look (sent senders position : Nat) : StopSignal × Nat :=
  if position ≥ sent then (if senders = 0 then .closed else .empty, position)
  else if position + 1 = sent then (.stop, sent)
  else (.lagged (sent - 1 - position), sent - 1)

/-- One more handle. -/
def clone (s : Shutdown) : Shutdown := { s with handles := s.handles + 1 }

/-- Keeps only the first `n` handles. -/
def keep (s : Shutdown) (n : Nat) : Shutdown := { s with handles := min s.handles n }

/-- Requests a stop. -/
def trigger (s : Shutdown) : Shutdown := { s with sent := s.sent + 1 }

/-- A new receiver, which hears of later requests only. -/
def subscribe (s : Shutdown) (receiver : Nat) : Shutdown :=
  { s with receivers := s.receivers.put receiver s.sent }

/-- Looks into the channel without waiting; `none` if there is no such receiver. -/
def receive (s : Shutdown) (receiver : Nat) : Option StopSignal × Shutdown :=
  match s.receivers.get? receiver with
  | none => (none, s)
  | some position =>
    let (signal, next) := look s.sent s.senders position
    (some signal, { s with receivers := s.receivers.put receiver next })

/-- Gives a receiver up; tells whether there was one. -/
def unsubscribe (s : Shutdown) (receiver : Nat) : Bool × Shutdown :=
  ((s.receivers.get? receiver).isSome, { s with receivers := s.receivers.erase receiver })

/-- A new wait, which does not listen yet. -/
def wait (s : Shutdown) (name : Nat) : Shutdown := { s with waits := s.waits.put name none }

/-- Polls a wait: whether it is over now; `none` if there is no such wait. -/
def poll (s : Shutdown) (name : Nat) : Option Bool × Shutdown :=
  match s.waits.get? name with
  | none => (none, s)
  | some position =>
    match look s.sent s.senders (position.getD s.sent) with
    | (.empty, next) => (some false, { s with waits := s.waits.put name (some next) })
    | _ => (some true, { s with waits := s.waits.erase name })

/-- Gives a wait up. -/
def abandon (s : Shutdown) (name : Nat) : Shutdown := { s with waits := s.waits.erase name }

/-! ### Whole runs -/

/-- What can be done about stopping. Handles are numbered in the order in which they came to be. -/
inductive Event where
  /-- One more handle is made of another one. -/
  | clone (handle : Nat)
  /-- All handles but the first `n` are given up. -/
  | keep (n : Nat)
  /-- A stop is requested with a handle. -/
  | trigger (handle : Nat)
  /-- A receiver is made with a handle. -/
  | subscribe (handle receiver : Nat)
  /-- A receiver looks into the channel. -/
  | receive (receiver : Nat)
  /-- A receiver is given up. -/
  | unsubscribe (receiver : Nat)
  /-- A wait is made with a handle. -/
  | wait (handle name : Nat)
  /-- A wait is polled. -/
  | poll (name : Nat)
  /-- A wait is given up. -/
  | abandon (name : Nat)
  deriving DecidableEq, Repr

/-- What an event does; one with a handle that is not there does nothing. -/
def step (s : Shutdown) : Event → Shutdown
  | .clone handle => if handle < s.handles then s.clone else s
  | .keep n => s.keep n
  | .trigger handle => if handle < s.handles then s.trigger else s
  | .subscribe handle receiver => if handle < s.handles then s.subscribe receiver else s
  | .receive receiver => (s.receive receiver).2
  | .unsubscribe receiver => (s.unsubscribe receiver).2
  | .wait handle name => if handle < s.handles then s.wait name else s
  | .poll name => (s.poll name).2
  | .abandon name => s.abandon name

/-- What a sequence of events does. -/
def run (s : Shutdown) (es : List Event) : Shutdown := es.foldl step s

end Shutdown

end Switchboard
