import Switchboard.Proofs.Toml.Trees

/-!
# The whole numbers of a document

All whole numbers of a document are `Narrow`, at whatever depth and in whatever form of table they
stand (`Toml.narrow_of_read?`).  This is the part of what makes a tree that of a document which
speaks of numbers.
-/

namespace Switchboard.Toml

/-- Every whole number in a value fits into 64 bits with a sign. -/
inductive Node.Narrow : Node → Prop where
  | string (text : String) : Narrow (.string text)
  | integer {n : Int} (low : Int64.minValue.toInt ≤ n) (high : n ≤ Int64.maxValue.toInt) :
      Narrow (.integer n)
  | float (x : Binary64) : Narrow (.float x)
  | boolean (b : Bool) : Narrow (.boolean b)
  | datetime (text : String) : Narrow (.datetime text)
  | array {items : List Node} (all : ∀ item ∈ items, Narrow item) : Narrow (.array items)
  | table {form : TableForm} {entries : List (String × Node)} (all : ∀ p ∈ entries, Narrow p.2) :
      Narrow (.table form entries)
  | tables {items : List (List (String × Node))}
      (all : ∀ entries ∈ items, ∀ p ∈ entries, Narrow p.2) : Narrow (.tables items)

/-- The same of keys with values. -/
def Entries.Narrow (t : Entries) : Prop := ∀ p ∈ t, p.2.Narrow

/-- The whole numbers of a sound value fit. -/
lemma Node.Sound.narrow {n : Node} (h : n.Sound) : n.Narrow := by
  induction h with
  | string text => exact .string text
  | integer low high => exact .integer low high
  | float x => exact .float x
  | boolean b => exact .boolean b
  | datetime text => exact .datetime text
  | array _ ih => exact .array ih
  | table _ _ ih => exact .table ih
  | tables _ _ ih => exact .tables ih

/-- **Every whole number of a document fits into 64 bits with a sign.** -/
theorem narrow_of_read? {text : String} {entries : Entries} (h : read? text = some entries) :
    entries.Narrow :=
  fun p hp => ((sound_of_read? h).all p hp).narrow

end Switchboard.Toml
