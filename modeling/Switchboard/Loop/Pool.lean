import Switchboard.Fault.Network

/-!
# The pool of event loops

A pool runs a fixed number of event loops and deals them out in rotation. Starting the pool makes a
new *generation* of loops; stopping it stops them all and leaves the pool empty, ready to be started
again. A selector deals out the loops of one generation and shares its place in the rotation with
the pool and with every other selector of that generation, also after the pool has been stopped.
-/

namespace Switchboard

/-- An event loop: the generation it belongs to and its place in it. -/
structure EventLoop where
  /-- The generation. -/
  generation : Nat
  /-- The place within the generation, from 0 on. -/
  index : Nat
  deriving DecidableEq, Repr

/-- A selector deals out the loops of one generation. -/
structure LoopSelector where
  /-- The generation. -/
  generation : Nat
  deriving DecidableEq, Repr

/-- The loops of one successful start. -/
structure LoopGeneration where
  /-- For each loop, whether it has been stopped. -/
  stopped : List Bool
  /-- How many loops have been dealt out, as a machine word. -/
  cursor : UInt64 := 0
  deriving DecidableEq, Repr

/-- How many loops a generation has. -/
def LoopGeneration.size (g : LoopGeneration) : Nat := g.stopped.length

/-- Every generation so far and the one in use. -/
structure LoopPool where
  /-- The generations in the order of their starts. -/
  generations : List LoopGeneration := []
  /-- The generation in use, if the pool is started. -/
  current : Option Nat := none
  deriving DecidableEq, Repr

namespace LoopPool

/-- The generation a selector deals out. -/
def generation? (p : LoopPool) (s : LoopSelector) : Option LoopGeneration :=
  p.generations[s.generation]?

/-- How many loops a selector has. -/
def lengthOf (p : LoopPool) (s : LoopSelector) : Nat :=
  ((p.generation? s).map LoopGeneration.size).getD 0

/-- Starts `count` loops; `start` tells for each whether the system could start it. If one cannot be
started, those before it are stopped and nothing changes. -/
def init (p : LoopPool) (count : Nat) (start : Nat → Except SystemError Unit) :
    Except NetworkError Unit × LoopPool :=
  if count = 0 then (.error (.config "thread count must be greater than zero"), p)
  else if p.current.isSome then (.error .alreadyInitialized, p)
  else
    match (List.range count).findSome? fun i => match start i with
      | .ok () => none
      | .error e => some e with
    | some e => (.error (.io e), p)
    | none =>
      (.ok (), { generations := p.generations ++ [⟨List.replicate count false, 0⟩],
                 current := some p.generations.length })

/-- The selector of the generation in use. -/
def selector? (p : LoopPool) : Option LoopSelector := p.current.map LoopSelector.mk

/-- How many loops are in use. -/
def size (p : LoopPool) : Nat := (p.selector?.map p.lengthOf).getD 0

/-- The next loop in a selector's rotation. -/
def next (p : LoopPool) (s : LoopSelector) : Option EventLoop × LoopPool :=
  match p.generation? s with
  | none => (none, p)
  | some g =>
    if g.size = 0 then (none, p)
    else
      (some ⟨s.generation, g.cursor.toNat % g.size⟩,
        { p with generations := p.generations.set s.generation { g with cursor := g.cursor + 1 } })

/-- The next loop of the generation in use. -/
def get (p : LoopPool) : Option EventLoop × LoopPool :=
  match p.selector? with
  | none => (none, p)
  | some s => p.next s

/-- Stops one loop. -/
def stop (p : LoopPool) (l : EventLoop) : LoopPool :=
  { p with generations := p.generations.modify l.generation fun g =>
      { g with stopped := g.stopped.set l.index true } }

/-- Stops every loop in use and leaves the pool empty. -/
def exit (p : LoopPool) : LoopPool :=
  match p.current with
  | none => p
  | some k =>
    { generations := p.generations.modify k fun g =>
        { g with stopped := g.stopped.map fun _ => true }
      current := none }

/-- Whether a loop has been stopped; a stopped loop drops the work it is given. -/
def isStopped (p : LoopPool) (l : EventLoop) : Bool :=
  match p.generations[l.generation]? with
  | some g => g.stopped[l.index]?.getD true
  | none => true

/-- What becomes of work given to a loop: its result, or nothing if the loop has been stopped. -/
def runOn {α : Type} (p : LoopPool) (l : EventLoop) (work : α) : Option α :=
  if p.isStopped l then none else some work

/-- A loop as a log shows it. -/
def describe (p : LoopPool) (l : EventLoop) : String :=
  "EventLoop \x7b index: " ++ Numeral.decimal l.index ++ ", stopped: " ++
    (if p.isStopped l then "true" else "false") ++ " \x7d"

end LoopPool

end Switchboard
