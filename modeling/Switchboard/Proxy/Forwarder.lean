import Switchboard.Config.Schema
import Switchboard.Connect.Candidates
import Switchboard.Proxy.Pair

/-!
# Forwarding connections

The forwarder is the service of a stream manager that asks for an outbound connection to a fixed
target for each accepted one and passes on what either side sends. The number of the pair is the
identity of the outbound connection.

Each call of the service first has the table of pairs to itself and then, with the table free again,
runs an `Errand`: it asks the manager for the target and sees to the deadline, posts chunks to a
connection one by one, or closes one. What a call does to the table is a function here; what an
errand does is up to the connections. A client whose target is not there after a while is closed;
the while is three times what one attempt may take.
-/

namespace Switchboard.Proxy

/-- What a call of the service has still to do once it is done with the table. -/
inductive Errand where
  /-- Ask the manager for the target of a pair; the call answers whether it was asked for. -/
  | connect (number : Nat) (request : Connect.Request)
  /-- Await the deadline of a pair if there is one; the call answers that the pair goes on. -/
  | watch (number : Nat)
  /-- Post chunks to a connection as long as it takes them; the call answers whether it took all. -/
  | send (other : ConnectionId) (chunks : List Bytes)
  /-- Close a connection, then answer. -/
  | close (other : ConnectionId) (answer : Bool)
  /-- Answer. -/
  | done (answer : Bool)
  deriving DecidableEq, Repr

/-- The forwarder. -/
structure Forwarder where
  /-- Whether there is a manager to ask for connections. -/
  attached : Bool := false
  /-- The host that connections are forwarded to. -/
  targetHost : String
  /-- The port that connections are forwarded to. -/
  targetPort : Port
  /-- How many bytes of a client are held while its target is not there yet. -/
  maxHeld : Nat
  /-- After how many seconds a client without its target is closed, if ever. -/
  deadline : Option Nat
  /-- The number of the next pair. -/
  nextPair : Nat := 1
  /-- The pairs. -/
  table : PairTable := {}
  deriving DecidableEq, Repr

namespace Forwarder

/-- The longest time that can be told, in seconds. -/
def maxSeconds : Nat := UInt64.size - 1

/-- The forwarder of a configuration; there is none if its deadline is too long to be told. -/
def ofConfig? (c : Config) : Option Forwarder :=
  let make (deadline : Option Nat) : Forwarder :=
    { targetHost := c.proxy.targetHost
      targetPort := c.proxy.targetPort
      maxHeld := c.proxy.maxPendingBytes
      deadline }
  match c.tcp.connectTimeout with
  | none => some (make none)
  | some secs => if secs * 3 ≤ maxSeconds then some (make (some (secs * 3))) else none

/-- The request for the target of a pair. -/
def targetRequest (f : Forwarder) (number : Nat) : Connect.Request :=
  { Connect.Request.toPort f.targetHost f.targetPort with identity := ⟨number⟩ }

/-- A client was accepted. -/
def accepted (f : Forwarder) (client : ConnectionId) : Errand × Forwarder :=
  if f.attached then
    (.connect f.nextPair (f.targetRequest f.nextPair),
      { f with nextPair := f.nextPair + 1, table := f.table.enter f.nextPair client })
  else (.done false, f)

/-- The target of a pair is there, or could not be reached. -/
def connected (f : Forwarder) (target : Option ConnectionId) (identity : Identity) :
    Errand × Forwarder :=
  match target with
  | none =>
    match f.table.source? identity.token with
    | some client => (.close client false, f)
    | none => (.done false, f)
  | some target =>
    match f.table.join identity.token target with
    | none => (.done false, f)
    | some (held, table) => (.send target held, { f with table })

/-- A connection sent a chunk. -/
def received (f : Forwarder) (sender : ConnectionId) (chunk : Bytes) : Errand × Forwarder :=
  match f.table.relay sender chunk f.maxHeld with
  | (.held, table) => (.done true, { f with table })
  | (.refused, table) => (.done false, { f with table })
  | (.forward other, table) => (.send other [chunk], { f with table })

/-- A connection is over. -/
def closed (f : Forwarder) (id : ConnectionId) : Errand × Forwarder :=
  match f.table.leave id with
  | (some other, table) => (.close other true, { f with table })
  | (none, table) => (.done true, { f with table })

/-- The deadline of a pair is over. -/
def deadlineOver (f : Forwarder) (number : Nat) : Errand :=
  match f.table.stalledSource? number with
  | some client => .close client true
  | none => .done true

/-- The size of everything in the table: pairs, connections, held bytes, pairs with a client, pairs
with a target, and pairs that the next deadline would close. -/
def census (f : Forwarder) : List Nat :=
  let pairs := f.table.pairs
  [pairs.length, f.table.byConnection.length, f.table.heldBytes,
   (pairs.filter fun p => p.2.source.isSome).length,
   (pairs.filter fun p => p.2.target.isSome).length,
   (pairs.filter fun p => (f.table.stalledSource? p.1).isSome).length]

end Forwarder

end Switchboard.Proxy
