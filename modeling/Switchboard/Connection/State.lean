/-!
# The life of a connection

A connection moves through seven states, numbered in the order in which they can be passed. Its
handle and its driver share the number.
-/

namespace Switchboard

/-- The states of a connection, in the order in which they can be passed. -/
inductive ConnectionState where
  | idle
  | resolving
  | connecting
  | handshaking
  | running
  | closing
  | closed
  deriving DecidableEq, Repr

namespace ConnectionState

/-- The states by number. -/
def all : List ConnectionState :=
  [idle, resolving, connecting, handshaking, running, closing, closed]

/-- The number of a state. -/
def number : ConnectionState → Nat
  | idle => 0
  | resolving => 1
  | connecting => 2
  | handshaking => 3
  | running => 4
  | closing => 5
  | closed => 6

/-- The state a stored number stands for; numbers beyond the last state stand for it. -/
def ofNumber (n : Nat) : ConnectionState := all[n]?.getD closed

@[simp] theorem ofNumber_number (s : ConnectionState) : ofNumber s.number = s := by
  cases s <;> rfl

/-- The name of a state. -/
def name : ConnectionState → String
  | idle => "Idle"
  | resolving => "Resolving"
  | connecting => "Connecting"
  | handshaking => "Handshaking"
  | running => "Running"
  | closing => "Closing"
  | closed => "Closed"

/-- The state of a name. -/
def ofName? (s : String) : Option ConnectionState := all.find? (·.name = s)

end ConnectionState

end Switchboard
