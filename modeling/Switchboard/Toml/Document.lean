import Switchboard.Toml.Statement

/-!
# Documents

The statements of a document are put together to one tree. Keys and values go into the table whose
header came last, which joins the tree when the next header comes. A header may name a table that so
far only came into being on the way to another; it may not name one a second time.
-/

namespace Switchboard.Toml

/-- The table that keys and values currently go into. -/
structure Section where
  /-- Where it belongs; empty for the start of the document. -/
  path : List String := []
  /-- Whether it is one more table of a list. -/
  listed : Bool := false
  /-- What it holds. -/
  entries : Entries := []

/-- A document under construction. -/
structure Draft where
  /-- The finished part of the tree. -/
  tree : Entries := []
  /-- The table being filled. -/
  current : Section := {}

namespace Draft

/-- Whether the way of a header may pass through a table. -/
def passes (form : TableForm) : Bool := form ≠ .inline

/-- Changes the tree at the table that holds the last key of a path. -/
def atParent (tree : Entries) (path : List String)
    (change : String → Entries → Option Entries) : Option Entries :=
  match path.getLast? with
  | none => none
  | some k => Statement.descend .implied passes (fun _ => change k) path.dropLast .headed tree

/-- The tables listed under a key, if it is free or holds such a list. -/
def listed? (k : String) (entries : Entries) : Option (List Entries) :=
  match entries.get? k with
  | none => some []
  | some (.tables items) => some items
  | some _ => none

/-- Lets the current table join the tree. -/
def close (d : Draft) : Option Entries :=
  if d.current.path.isEmpty then some d.current.entries
  else if d.current.listed then
    atParent d.tree d.current.path fun k entries => do
      let items ← listed? k entries
      return entries.put k (.tables (items ++ [d.current.entries]))
  else
    atParent d.tree d.current.path fun k entries =>
      some (entries.put k (.table .headed d.current.entries))

/-- What a header finds under its last key: nothing, or a table that was only implied. -/
def implied? (k : String) (entries : Entries) : Option Entries :=
  match entries.get? k with
  | none => some []
  | some (.table .implied child) => some child
  | some _ => none

/-- What stands in a tree at a path, passing only through tables. -/
def lookup (path : List String) (tree : Entries) : Option Node :=
  match path with
  | [] => none
  | [k] => tree.get? k
  | k :: ks =>
    match tree.get? k with
    | some (.table _ child) => lookup ks child
    | some (.tables items) =>
      match items.getLast? with
      | some last => lookup ks last
      | none => none
    | _ => none

/-- Takes a statement in. -/
def step (d : Draft) : Statement → Option Draft
  | .header path => do
    let tree ← d.close
    let found := match lookup path tree with
      | some (.table .implied child) => child
      | _ => []
    let tree ← atParent tree path fun k entries => do
      let _ ← implied? k entries
      return entries.erase k
    return { tree, current := { path, entries := found } }
  | .listHeader path => do
    let tree ← d.close
    let tree ← atParent tree path fun k entries => do
      let items ← listed? k entries
      return entries.put k (.tables items)
    return { tree, current := { path, listed := true } }
  | .assign path value => do
    let entries ← Statement.assignTo .headed d.current.entries path value
    return { d with current := { d.current with entries } }

/-- Puts statements together. -/
def run (statements : List Statement) : Option Entries := do
  let d ← statements.foldlM step {}
  d.close

end Draft

/-- The tree of a text, if the text is a document. -/
def read? (text : String) : Option Entries := do Draft.run (← Statement.all? text.toList)

end Switchboard.Toml
