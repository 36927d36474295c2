import Switchboard.Bytes
import Switchboard.Connection.Identity
import Switchboard.Table

/-!
# Pairs of connections

A forwarded connection is a pair: the source is the client's connection, the target is the one made
on its behalf. What the client sends before its target is there is held, up to a number of bytes;
once more is offered, all that is held is given up, and everything offered is counted until it is
taken.

The table of pairs knows them by number, and knows for each connection which pair it belongs to. Its
operations are the sections in which the forwarder has the table to itself.
-/

namespace Switchboard.Proxy

/-- The two sides of a forwarded connection and what is held for the second. -/
structure Pair where
  /-- The client's connection. -/
  source : Option ConnectionId := none
  /-- The connection made on its behalf. -/
  target : Option ConnectionId := none
  /-- What the client has sent so far, oldest first. -/
  held : List Bytes := []
  /-- How many bytes were offered since they were last taken. -/
  offered : Nat := 0
  deriving DecidableEq, Repr

namespace Pair

/-- Holds a chunk unless that makes more than `limit` bytes; else nothing is held any more. -/
def hold (p : Pair) (chunk : Bytes) (limit : Nat) : Bool × Pair :=
  let offered := p.offered + chunk.length
  if offered > limit then (false, { p with held := [], offered })
  else (true, { p with held := p.held ++ [chunk], offered })

/-- Takes out what is held. -/
def takeHeld (p : Pair) : List Bytes × Pair := (p.held, { p with held := [], offered := 0 })

/-- How many bytes are held. -/
def heldBytes (p : Pair) : Nat := p.held.foldr (fun chunk n => chunk.length + n) 0

/-- Either side that is there, the source first. -/
def either (p : Pair) : Option ConnectionId := p.source.orElse fun _ => p.target

/-- The other side of a connection: the target for the source, the source for every other one. -/
def across (p : Pair) (id : ConnectionId) : Option ConnectionId :=
  if p.source = some id then p.target else p.source

/-- The pair without a connection. -/
def without (p : Pair) (id : ConnectionId) : Pair :=
  if p.source = some id then { p with source := none }
  else if p.target = some id then { p with target := none }
  else p

@[simp] theorem fst_takeHeld (p : Pair) : p.takeHeld.1 = p.held := rfl

@[simp] theorem held_takeHeld (p : Pair) : p.takeHeld.2.held = [] := rfl

@[simp] theorem offered_takeHeld (p : Pair) : p.takeHeld.2.offered = 0 := rfl

@[simp] theorem offered_hold (p : Pair) (chunk : Bytes) (limit : Nat) :
    (p.hold chunk limit).2.offered = p.offered + chunk.length := by
  unfold hold
  dsimp only
  split <;> rfl

/-- A chunk is held exactly if everything offered stays within the limit. -/
theorem fst_hold (p : Pair) (chunk : Bytes) (limit : Nat) :
    (p.hold chunk limit).1 = decide (p.offered + chunk.length ≤ limit) := by
  unfold hold
  dsimp only
  split <;> simp_all

end Pair

/-- All pairs, and the pair of each connection. -/
structure PairTable where
  /-- The pairs by number. -/
  pairs : Table Nat Pair := []
  /-- The number of the pair that a connection belongs to. -/
  byConnection : Table ConnectionId Nat := []
  deriving DecidableEq, Repr

/-- What becomes of a chunk that one side sent. -/
inductive Relay where
  /-- It is held. -/
  | held
  /-- The sender is to be closed: nobody is there to take the chunk, or too much is held. -/
  | refused
  /-- It goes to the other side. -/
  | forward (other : ConnectionId)
  deriving DecidableEq, Repr

namespace PairTable

/-- Enters a client. -/
def enter (t : PairTable) (number : Nat) (source : ConnectionId) : PairTable :=
  { pairs := t.pairs.put number { source := some source }
    byConnection := t.byConnection.put source number }

/-- Enters the target of a pair and takes out what is held for it; nothing is there for a pair whose
client has gone. -/
def join (t : PairTable) (number : Nat) (target : ConnectionId) : Option (List Bytes × PairTable) :=
  match t.pairs.get? number with
  | none => none
  | some pair =>
    let (held, pair) := { pair with target := some target }.takeHeld
    some (held,
      { pairs := t.pairs.put number pair, byConnection := t.byConnection.put target number })

/-- Decides about a chunk that a connection sent. -/
def relay (t : PairTable) (id : ConnectionId) (chunk : Bytes) (limit : Nat) : Relay × PairTable :=
  match t.byConnection.get? id with
  | none => (.refused, t)
  | some number =>
    match t.pairs.get? number with
    | none => (.refused, t)
    | some pair =>
      match pair.across id with
      | some other => (.forward other, t)
      | none =>
        if pair.source = some id then
          let (held, pair) := pair.hold chunk limit
          (if held then .held else .refused, { t with pairs := t.pairs.put number pair })
        else (.refused, t)

/-- Takes a connection out and tells which other one is left in its pair; a pair without any is
removed. -/
def leave (t : PairTable) (id : ConnectionId) : Option ConnectionId × PairTable :=
  match t.byConnection.get? id with
  | none => (none, t)
  | some number =>
    let t := { t with byConnection := t.byConnection.erase id }
    match t.pairs.get? number with
    | none => (none, t)
    | some pair =>
      let pair := pair.without id
      match pair.either with
      | none => (none, { t with pairs := t.pairs.erase number })
      | some other => (some other, { t with pairs := t.pairs.put number pair })

/-- The client of a pair. -/
def source? (t : PairTable) (number : Nat) : Option ConnectionId :=
  (t.pairs.get? number).bind Pair.source

/-- The client of a pair whose target is not there. -/
def stalledSource? (t : PairTable) (number : Nat) : Option ConnectionId :=
  ((t.pairs.get? number).filter fun p => p.target.isNone).bind Pair.source

/-- How many bytes are held for all pairs. -/
def heldBytes (t : PairTable) : Nat := t.pairs.foldr (fun p n => p.2.heldBytes + n) 0

end PairTable

end Switchboard.Proxy
