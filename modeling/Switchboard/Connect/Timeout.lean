import Switchboard.Fault.System

/-!
# Deadlines

An operation either finishes some time after it is started, with a result, or never. Under a limit
the wait for it ends when the limit is over; an operation that is finished by then wins.

Settings give limits in whole seconds, and 0 there stands for no limit.
-/

namespace Switchboard

/-- A number of seconds as a time that may be absent. -/
def seconds? (n : Nat) : Option Nat := if n > 0 then some n else none

namespace Connect

/-- An operation as its waiter sees it, with times in milliseconds. -/
inductive Operation (α : Type) where
  /-- It finishes after a time. -/
  | finishes (after : Nat) (result : Except SystemError α)
  /-- It never finishes. -/
  | hangs

/-- What an expired wait reports. -/
def timedOut : SystemError := .described .timedOut "operation timed out"

/-- The result of waiting for an operation under an optional limit; `none` waits for ever. -/
def withTimeout {α : Type} (limit : Option Nat) (operation : Operation α) :
    Option (Except SystemError α) :=
  match operation, limit with
  | .finishes _ result, none => some result
  | .finishes after result, some limit =>
    if after ≤ limit then some result else some (.error timedOut)
  | .hangs, some _ => some (.error timedOut)
  | .hangs, none => none

end Connect

end Switchboard
