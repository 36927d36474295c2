import Switchboard.Text.Numeral

/-!
# Names of connections

Every connection has an id of its own, and ids are given out in increasing order. An outbound
connection also carries the identity its requester chose, which the library never looks into.
-/

namespace Switchboard

/-- The number that tells a connection from every other one. -/
structure ConnectionId where
  /-- The number. -/
  number : Nat
  deriving DecidableEq, Repr

namespace ConnectionId

/-- The text of an id. -/
def print (id : ConnectionId) : String := "conn-" ++ Numeral.decimal id.number

/-- The id given out after `id`. -/
def next (id : ConnectionId) : ConnectionId := ⟨id.number + 1⟩

/-- The first id. -/
def first : ConnectionId := ⟨1⟩

/-- The next `n` ids from `id` on. -/
def run (id : ConnectionId) : Nat → List ConnectionId
  | 0 => []
  | n + 1 => id :: run id.next n

end ConnectionId

/-- A requester's own token. -/
structure Identity where
  /-- The token. -/
  token : Nat
  deriving DecidableEq, Repr

namespace Identity

/-- The identity of requests that choose none. -/
def anonymous : Identity := ⟨0⟩

/-- The text of an identity. -/
def print (i : Identity) : String := Numeral.decimal i.token

end Identity

/-- Who started a connection. -/
inductive Direction where
  /-- The other side did. -/
  | passive
  /-- This side did. -/
  | active
  deriving DecidableEq, Repr

/-- The name of a direction. -/
def Direction.name : Direction → String
  | .passive => "passive"
  | .active => "active"

end Switchboard
