/-!
# Counting live connections

A tracker keeps a count of live connections; its clones share the count. Tracking a connection hands
out a guard, and the count goes down again when the guard is given up. `LiveCounts` holds the counts
of any number of trackers.
-/

namespace Switchboard

/-- The counts of the trackers that share none with each other. -/
structure LiveCounts where
  /-- One count for each family of clones. -/
  counts : List Int := []
  deriving DecidableEq, Repr

/-- A tracker is known by the count it shares with its clones. -/
structure Tracker where
  /-- The position of the count. -/
  account : Nat
  deriving DecidableEq, Repr

/-- The promise to count a connection out again. -/
structure TrackerGuard where
  /-- The position of the count. -/
  account : Nat
  deriving DecidableEq, Repr

namespace LiveCounts

/-- A fresh tracker with a count of its own. -/
def newTracker (c : LiveCounts) : Tracker × LiveCounts :=
  (⟨c.counts.length⟩, ⟨c.counts ++ [0]⟩)

/-- How many connections a tracker counts. -/
def active (c : LiveCounts) (t : Tracker) : Int := c.counts[t.account]?.getD 0

/-- Counts a connection in. -/
def track (c : LiveCounts) (t : Tracker) : TrackerGuard × LiveCounts :=
  (⟨t.account⟩, ⟨c.counts.modify t.account (· + 1)⟩)

/-- Counts a connection out. -/
def release (c : LiveCounts) (g : TrackerGuard) : LiveCounts :=
  ⟨c.counts.modify g.account (· - 1)⟩

end LiveCounts

end Switchboard
