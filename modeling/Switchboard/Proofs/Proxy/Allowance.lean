import Switchboard.Proofs.Dialogue
import Switchboard.Proxy.Pair

/-!
# What a pair holds of its client

The bytes of a client are offered to its pair chunk by chunk, and taken out again all at once.  A
chunk that is refused counts as well, and takes what is held with it.  So from then on every chunk
is refused until the next take, which finds nothing: what follows a chunk that was dropped is never
held.

`Pair.perform` answers requests and keeps a journal of what it did.  `Pair.offeredSince` reads off
the journal which chunks were offered since the last take, and `Pair.Accounts` says what has become
of them.  Behind it is `Pair.Tallies`, which no request breaks (`Pair.Tallies.perform`), so that it
holds over every sequence of requests (`Pair.Tallies.run`).
-/

namespace Switchboard.Proxy

namespace Pair

/-- What a pair can be asked to do with the bytes of its client. -/
inductive Request where
  /-- Hold a chunk. -/
  | hold (chunk : Bytes)
  /-- Give out what is held. -/
  | take
  deriving DecidableEq, Repr

/-- What a pair did on a request. -/
inductive Entry where
  /-- A chunk was offered, and kept or not. -/
  | offered (chunk : Bytes) (kept : Bool)
  /-- Chunks were given out. -/
  | given (chunks : List Bytes)
  deriving DecidableEq, Repr

/-- A pair that may hold `limit` bytes does what it is asked for. -/
def perform (limit : Nat) (p : Pair) : Request → Pair × Entry
  | .hold chunk => ((p.hold chunk limit).2, .offered chunk (p.hold chunk limit).1)
  | .take => (p.takeHeld.2, .given p.takeHeld.1)

/-- The chunks that were offered since the last take, and whether they were kept; some were already
`before` the journal. -/
def offeredSince (before : List (Bytes × Bool)) : List Entry → List (Bytes × Bool)
  | [] => before
  | .offered chunk kept :: journal => offeredSince (before ++ [(chunk, kept)]) journal
  | .given _ :: journal => offeredSince [] journal

/-- What has become of the chunks that were offered to a pair since the last take. -/
structure Accounts (limit : Nat) (offered : List (Bytes × Bool)) (p : Pair) : Prop where
  /-- No more than the limit is held. -/
  bounded : p.heldBytes ≤ limit
  /-- The next chunk is kept exactly if all that was offered, kept or not, is within the limit
  together with it. -/
  keeps : ∀ chunk, (p.hold chunk limit).1 = true ↔
    (offered.map Prod.fst ++ [chunk]).flatten.length ≤ limit
  /-- The next take gives all of them out in order, or nothing if one was refused. -/
  gives : p.takeHeld.1 = if offered.all Prod.snd then offered.map Prod.fst else []

/-- A pair has counted what was offered, and holds it if all was kept. -/
structure Tallies (limit : Nat) (offered : List (Bytes × Bool)) (p : Pair) : Prop where
  /-- Every chunk counts. -/
  counted : p.offered = (offered.map Prod.fst).flatten.length
  /-- All is held, or nothing. -/
  held : p.held = if offered.all Prod.snd then offered.map Prod.fst else []
  /-- All was kept exactly if it is within the limit. -/
  kept : offered.all Prod.snd = decide (p.offered ≤ limit)

variable {limit : Nat} {offered : List (Bytes × Bool)} {p : Pair}

/-- The bytes that are held are those of the chunks. -/
lemma heldBytes_eq (p : Pair) : p.heldBytes = p.held.flatten.length := by
  rw [heldBytes]
  induction p.held with
  | nil => rfl
  | cons chunk held ih => rw [List.foldr_cons, List.flatten_cons, List.length_append, ih]

/-- Nothing was offered yet to a pair that holds nothing. -/
lemma tallies_empty (limit : Nat) (source target : Option ConnectionId) :
    ({ source, target } : Pair).Tallies limit [] where
  counted := rfl
  held := rfl
  kept := by simp

namespace Tallies

/-- A tally gives an account of what was offered. -/
lemma accounts (h : p.Tallies limit offered) : p.Accounts limit offered where
  bounded := by
    rw [heldBytes_eq, h.held, h.kept]
    split
    · rename_i hle
      rw [← h.counted]
      exact of_decide_eq_true hle
    · exact Nat.zero_le limit
  keeps chunk := by
    rw [fst_hold, decide_eq_true_iff, h.counted, List.flatten_append, List.length_append]
    simp
  gives := h.held

/-- No request breaks the tally. -/
lemma perform (h : p.Tallies limit offered) (request : Request) :
    (p.perform limit request).1.Tallies limit
      (offeredSince offered [(p.perform limit request).2]) := by
  cases request with
  | take => exact tallies_empty limit p.source p.target
  | hold chunk =>
    have hcounted : (p.hold chunk limit).2.offered =
        ((offered ++ [(chunk, (p.hold chunk limit).1)]).map Prod.fst).flatten.length := by
      simp [h.counted]
    -- a chunk that is kept finds all others kept, as it only adds to them
    have hall : (offered ++ [(chunk, (p.hold chunk limit).1)]).all Prod.snd =
        decide (p.offered + chunk.length ≤ limit) := by
      rw [List.all_append, h.kept, fst_hold]
      simp only [List.all_cons, List.all_nil, Bool.and_true, ← Bool.decide_and, decide_eq_decide]
      omega
    constructor
    case counted => exact hcounted
    case kept =>
      rw [Pair.perform, offered_hold]
      exact hall
    case held =>
      rw [Pair.perform, offeredSince, offeredSince, hall]
      by_cases hle : p.offered + chunk.length ≤ limit
      · have hbefore : offered.all Prod.snd = true := by
          rw [h.kept, decide_eq_true_iff]
          omega
        simp [hold, Nat.not_lt.mpr hle, hle, h.held, hbefore]
      · simp [hold, Nat.lt_of_not_le hle, hle]

/-- The tally is kept over every sequence of requests. -/
theorem run (h : p.Tallies limit offered) (requests : List Request) :
    (Dialogue.run (Pair.perform limit) p requests).1.Tallies limit
      (offeredSince offered (Dialogue.run (Pair.perform limit) p requests).2) := by
  induction requests generalizing p offered with
  | nil => exact h
  | cons request requests ih =>
    rw [Dialogue.run_cons]
    have hrest := ih (h.perform request)
    cases request <;> exact hrest

end Tallies

end Pair

end Switchboard.Proxy
