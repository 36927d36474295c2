import Switchboard.Bytes

/-!
# The datagram queue

Datagrams keep their boundaries: a connection queues each one whole, and its service looks at,
removes or takes the oldest one. Removing without taking has to name the length of the datagram it
means, and is refused otherwise.
-/

namespace Switchboard

/-- Received datagrams, the oldest first. -/
structure DatagramQueue where
  /-- What was received and not yet removed, the oldest first. -/
  datagrams : List Bytes := []
  deriving DecidableEq, Repr

namespace DatagramQueue

/-- Appends a datagram. -/
def push (q : DatagramQueue) (d : Bytes) : DatagramQueue := ⟨q.datagrams ++ [d]⟩

/-- Whether a datagram waits, an empty one included. -/
def hasData (q : DatagramQueue) : Bool := !q.datagrams.isEmpty

/-- The payload of the oldest datagram; nothing if there is none. -/
def front (q : DatagramQueue) : Bytes := q.datagrams.head?.getD []

/-- How many datagrams wait. -/
def size (q : DatagramQueue) : Nat := q.datagrams.length

/-- Takes the oldest datagram out. -/
def pop? (q : DatagramQueue) : Option (Bytes × DatagramQueue) :=
  match q.datagrams with
  | [] => none
  | d :: rest => some (d, ⟨rest⟩)

/-- Removes the oldest datagram if it is `n` octets long. -/
def dropFront? (q : DatagramQueue) (n : Nat) : Option DatagramQueue :=
  match q.datagrams with
  | [] => none
  | d :: rest => if d.length = n then some ⟨rest⟩ else none

@[simp] theorem datagrams_push (q : DatagramQueue) (d : Bytes) :
    (q.push d).datagrams = q.datagrams ++ [d] := rfl

theorem pop?_eq_some_iff {q q' : DatagramQueue} {d : Bytes} :
    q.pop? = some (d, q') ↔ q.datagrams = d :: q'.datagrams := by
  rcases q with ⟨_ | ⟨x, rest⟩⟩ <;> rcases q' with ⟨l⟩ <;> simp [pop?]

theorem dropFront?_eq_some_iff {q q' : DatagramQueue} {n : Nat} :
    q.dropFront? n = some q' ↔ ∃ d, d.length = n ∧ q.datagrams = d :: q'.datagrams := by
  rcases q with ⟨_ | ⟨x, rest⟩⟩
  · simp [dropFront?]
  · rcases q' with ⟨l⟩
    by_cases h : x.length = n
    · constructor
      · intro hl
        exact ⟨x, h, by simpa [dropFront?, h] using hl⟩
      · rintro ⟨d, _, hd⟩
        cases hd
        simp [dropFront?, h]
    · constructor
      · intro hl
        simp [dropFront?, h] at hl
      · rintro ⟨d, rfl, hd⟩
        cases hd
        exact absurd rfl h

end DatagramQueue

end Switchboard
