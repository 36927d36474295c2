import Switchboard.Connection.Note

/-!
# Calls side by side

Calls that are made from different threads share a state and go on one step at a time, in any order.
An interleaving keeps the calls that were made beside the shared state; an event begins a call or
takes one a step on.
-/

namespace Switchboard

/-- A shared state and the calls that were made, in the order in which they began. -/
structure Interleaving (σ κ : Type) where
  /-- The shared state. -/
  shared : σ
  /-- The calls. -/
  calls : List κ := []

namespace Interleaving

variable {σ κ : Type}

/-- What can happen. -/
inductive Event (κ : Type) where
  /-- A call begins. -/
  | start (call : κ)
  /-- A call goes a step on. -/
  | advance (i : Nat)

/-- What an event does, given a step of a call. -/
def step (go : κ → σ → κ × Noted σ) (x : Interleaving σ κ) : Event κ → Noted (Interleaving σ κ)
  | .start call => ({ x with calls := x.calls ++ [call] }, [])
  | .advance i =>
    match x.calls[i]? with
    | none => (x, [])
    | some call =>
      let (call, shared, notes) := go call x.shared
      ({ shared, calls := x.calls.set i call }, notes)

/-- What a sequence of events does. -/
def run (go : κ → σ → κ × Noted σ) (x : Interleaving σ κ) :
    List (Event κ) → Noted (Interleaving σ κ)
  | [] => (x, [])
  | e :: es => (x.step go e).andThen fun x => x.run go es

end Interleaving

end Switchboard
