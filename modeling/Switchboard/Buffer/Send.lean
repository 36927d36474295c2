import Switchboard.Bytes

/-!
# The send queue

A send queue keeps what waits for a socket in the order in which it was asked for. Its owner has at
most one write in flight, always of the front entry, which therefore stays in the queue until its
write is through.

A queue of byte chunks can have its front chunk accepted piece by piece: `advance` shortens it, and
removes it once nothing of it is left.
-/

namespace Switchboard

/-- Entries waiting to be written, the oldest first. -/
structure SendQueue (α : Type) where
  /-- What waits, the oldest first. -/
  entries : List α := []
  deriving DecidableEq, Repr

namespace SendQueue

variable {α : Type}

/-- A queue with nothing in it. -/
def empty : SendQueue α := {}

instance : Inhabited (SendQueue α) := ⟨empty⟩

/-- How many entries wait. -/
def size (q : SendQueue α) : Nat := q.entries.length

/-- Whether nothing waits. -/
def isEmpty (q : SendQueue α) : Bool := q.entries.isEmpty

/-- Appends an entry. -/
def push (q : SendQueue α) (x : α) : SendQueue α := ⟨q.entries ++ [x]⟩

/-- Appends an entry, and tells whether nothing waited before it: then its owner starts to write. -/
def append (q : SendQueue α) (x : α) : SendQueue α × Bool := (q.push x, q.isEmpty)

/-- The oldest entry. -/
def front? (q : SendQueue α) : Option α := q.entries.head?

/-- The queue without its oldest entry. -/
def pop (q : SendQueue α) : SendQueue α := ⟨q.entries.tail⟩

@[simp] theorem entries_push (q : SendQueue α) (x : α) : (q.push x).entries = q.entries ++ [x] :=
  rfl

@[simp] theorem entries_pop (q : SendQueue α) : q.pop.entries = q.entries.tail := rfl

@[simp] theorem entries_empty : (empty : SendQueue α).entries = [] := rfl

theorem isEmpty_iff (q : SendQueue α) : q.isEmpty = true ↔ q.entries = [] := by
  simp [isEmpty]

/-! ### Queues of byte chunks -/

/-- The part of the front chunk that the socket has not accepted yet. -/
def unwritten (q : SendQueue Bytes) : Bytes := q.front?.getD []

/-- All bytes that wait, in order. -/
def bytes (q : SendQueue Bytes) : Bytes := q.entries.flatten

/-- How many bytes wait. -/
def queuedBytes (q : SendQueue Bytes) : Nat :=
  q.entries.foldr (fun chunk n => chunk.length + n) 0

/-- Records that the socket accepted `n` bytes of the front chunk, and tells whether that was the
rest of it. More than the chunk holds counts as all of it. -/
def advance (q : SendQueue Bytes) (n : Nat) : SendQueue Bytes × Bool :=
  match q.entries with
  | [] => (q, false)
  | chunk :: rest =>
    if chunk.length ≤ n then (⟨rest⟩, true) else (⟨chunk.drop n :: rest⟩, false)

@[simp] theorem bytes_push (q : SendQueue Bytes) (x : Bytes) : (q.push x).bytes = q.bytes ++ x := by
  simp [bytes, push]

theorem queuedBytes_eq_length_bytes (q : SendQueue Bytes) : q.queuedBytes = q.bytes.length := by
  unfold queuedBytes bytes
  induction q.entries with
  | nil => rfl
  | cons chunk rest ih => simp [ih]

/-- What the socket accepted, followed by what still waits, is what waited before. -/
theorem take_append_bytes_advance (q : SendQueue Bytes) (n : Nat) :
    q.unwritten.take n ++ (q.advance n).1.bytes = q.bytes := by
  rcases q with ⟨_ | ⟨chunk, rest⟩⟩
  · simp [unwritten, front?, advance, bytes]
  · by_cases h : chunk.length ≤ n
    · simp [unwritten, front?, advance, bytes, h, List.take_of_length_le h]
    · simp [unwritten, front?, advance, bytes, h, ← List.append_assoc]

end SendQueue

end Switchboard
