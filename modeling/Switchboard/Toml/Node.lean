import Switchboard.Number.Binary64

/-!
# Documents as trees

A document is a tree of tables. A table remembers the form it was written in, because the form
decides what may still be added to it: one that only came into being on the way to another may be
written out later, one made by dotted keys may grow by dotted keys, and one in braces is complete.
-/

namespace Switchboard.Toml

/-- The forms in which a table comes into being. -/
inductive TableForm where
  /-- Under a header of its own. -/
  | headed
  /-- On the way to a header further down. -/
  | implied
  /-- On the way along a dotted key. -/
  | dotted
  /-- In braces. -/
  | inline
  deriving DecidableEq, Repr

/-- A value of a document. -/
inductive Node where
  /-- A text. -/
  | string (text : String)
  /-- A whole number of 64 bits. -/
  | integer (value : Int)
  /-- A floating-point number. -/
  | float (value : Binary64)
  /-- A truth value. -/
  | boolean (value : Bool)
  /-- A date, a time of day, or both, as written. -/
  | datetime (text : String)
  /-- Values in brackets. -/
  | array (items : List Node)
  /-- Keys with values. -/
  | table (form : TableForm) (entries : List (String × Node))
  /-- Tables under headers in double brackets, each with its keys and values. -/
  | tables (items : List (List (String × Node)))
  deriving Repr, Inhabited

/-- Keys with values, in the order of the document. -/
abbrev Entries := List (String × Node)

namespace Entries

/-- The value of a key. -/
def get? (t : Entries) (k : String) : Option Node := (t.find? (·.1 = k)).map Prod.snd

/-- Gives a key a value, in place if it has one and at the end otherwise. -/
def put (k : String) (n : Node) : Entries → Entries
  | [] => [(k, n)]
  | (k', n') :: rest => if k' = k then (k, n) :: rest else (k', n') :: put k n rest

/-- Removes a key. -/
def erase (t : Entries) (k : String) : Entries := t.filter (·.1 ≠ k)

end Entries

end Switchboard.Toml
