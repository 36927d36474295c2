/-!
# Mailboxes

Requests reach the task that drives a connection through a mailbox: anyone may post, one task takes
the requests out in the order they were posted. Once the mailbox is closed nothing more can be
posted; what is in it can still be taken out.
-/

namespace Switchboard

/-- Posted requests, oldest first. -/
structure Mailbox (α : Type) where
  /-- What was posted and not yet taken out. -/
  posted : List α := []
  /-- Whether more can be posted. -/
  isOpen : Bool := true
  deriving DecidableEq, Repr

namespace Mailbox

variable {α : Type}

/-- Posts a request; tells whether it was accepted. -/
def post (m : Mailbox α) (a : α) : Bool × Mailbox α :=
  if m.isOpen then (true, { m with posted := m.posted ++ [a] }) else (false, m)

/-- Takes the oldest request out. -/
def take? (m : Mailbox α) : Option (α × Mailbox α) :=
  match m.posted with
  | [] => none
  | a :: rest => some (a, { m with posted := rest })

/-- Lets nothing more in. -/
def close (m : Mailbox α) : Mailbox α := { m with isOpen := false }

/-- A mailbox whose owner is gone: nothing goes in, and what was in it is lost. -/
def abandoned : Mailbox α := { posted := [], isOpen := false }

@[simp] theorem posted_post (m : Mailbox α) (a : α) :
    (m.post a).2.posted = if m.isOpen then m.posted ++ [a] else m.posted := by
  unfold post
  split <;> rfl

@[simp] theorem fst_post (m : Mailbox α) (a : α) : (m.post a).1 = m.isOpen := by
  unfold post
  split <;> simp_all

@[simp] theorem isOpen_post (m : Mailbox α) (a : α) : (m.post a).2.isOpen = m.isOpen := by
  unfold post
  split <;> rfl

end Mailbox

end Switchboard
