import Mathlib.Algebra.BigOperators.Group.List.Basic
import Mathlib.Algebra.Order.Ring.Int
import Mathlib.Tactic.Common
import Switchboard.Connection.Tracker
import Switchboard.Proofs.History

/-!
# Books of live connections

Three mechanisms keep count of live connections: each manager has a tracker, each carrier has a
gauge beside its counters of opened and closed connections, and there is a gauge of datagram peers.
What moves them is noted, so a history says by how much each `Account` moved (`Note.balance`).

A machine that keeps its accounts has a census of its own, and a step of it is `Booked`: every
account moved by as much as the census.  The count of live connections is moved by the first note of
a step or not at all, so no moment within a step is worse than both of its ends.  The census of
several machines is the sum of theirs (`Account.total`), and stays right when one of them takes a
step.

`Books` are the trackers and the exposition themselves, as they are after a history of both
managers.  They show what the balances say (`Books.shows_after`).
-/

namespace Switchboard

/-- What is kept account of. -/
inductive Account where
  /-- The connections that a tracker counts. -/
  | live
  /-- The connections over a carrier that were opened and not closed. -/
  | running (carrier : Carrier)
  /-- The datagram peers. -/
  | peers

namespace Note

/-- By how much a note moves an account. -/
def change : Account → Note → Int
  | .live, tracked d => d
  | .running c, measured (.opened c' _) => if c' = c then 1 else 0
  | .running c, measured (.closed c') => if c' = c then -1 else 0
  | .peers, measured (.peers d) => d
  | _, _ => 0

/-- By how much a history moves an account. -/
def balance (k : Account) (history : List Note) : Int := (history.map (change k)).sum

@[simp] lemma balance_nil (k : Account) : balance k [] = 0 := rfl

@[simp] lemma balance_cons (k : Account) (n : Note) (history : List Note) :
    balance k (n :: history) = n.change k + balance k history := List.sum_cons

@[simp] lemma balance_append (k : Account) (h h' : List Note) :
    balance k (h ++ h') = balance k h + balance k h' := by
  rw [balance, List.map_append, List.sum_append]
  rfl

/-- A history of which no note moves an account leaves it where it was. -/
lemma balance_eq_zero {k : Account} {history : List Note} (h : ∀ n ∈ history, n.change k = 0) :
    balance k history = 0 := by
  induction history with
  | nil => rfl
  | cons n rest ih =>
    rw [balance_cons, h n List.mem_cons_self, ih fun n hn => h n (List.mem_cons_of_mem _ hn)]
    rfl

/-- Whether a note moves no account. -/
def isNeutral : Note → Bool
  | tracked _ | measured (.opened ..) | measured (.closed _) | measured (.peers _) => false
  | _ => true

lemma change_of_isNeutral {n : Note} (h : n.isNeutral = true) (k : Account) : n.change k = 0 := by
  cases n with
  | tracked d => cases h
  | measured m => cases m <;> cases k <;> first | rfl | cases h
  | _ => cases k <;> rfl

end Note

/-! ### Steps that keep their accounts -/

/-- What a step of a machine is that keeps its accounts, given its census before and after. -/
structure Booked (before after : Account → Int) (notes : List Note) : Prop where
  /-- Every account moved by as much as the census. -/
  balanced : ∀ k, after k = before k + Note.balance k notes
  /-- Only the first note moves the count of live connections. -/
  first : ∀ n ∈ notes.tail, n.change .live = 0

namespace Booked

variable {before after : Account → Int} {notes : List Note}

/-- A step that moves nothing. -/
lemma ofNeutral (hsame : ∀ k, after k = before k) (hnotes : notes.all Note.isNeutral = true) :
    Booked before after notes := by
  have hzero : ∀ n ∈ notes, ∀ k, n.change k = 0 := fun n hn k =>
    Note.change_of_isNeutral (List.all_eq_true.mp hnotes n hn) k
  refine ⟨fun k => ?_, fun n hn => hzero n (List.mem_of_mem_tail hn) .live⟩
  rw [Note.balance_eq_zero fun n hn => hzero n hn k, hsame, Int.add_zero]

/-- Another machine that counts for the same may be left behind. -/
lemma congr_after (h : Booked before after notes) {after' : Account → Int}
    (hafter : ∀ k, after' k = after k) : Booked before after' notes :=
  ⟨fun k => (hafter k).trans (h.balanced k), h.first⟩

/-- Another machine that counts for the same may have been there. -/
lemma congr_before (h : Booked before after notes) {before' : Account → Int}
    (hbefore : ∀ k, before k = before' k) : Booked before' after notes :=
  ⟨fun k => hbefore k ▸ h.balanced k, h.first⟩

/-- A note that moves nothing may come first if the count of live connections is not moved. -/
lemma consNeutral (h : Booked before after notes) {n : Note} (hn : n.isNeutral = true)
    (hnotes : ∀ n ∈ notes, n.change .live = 0) : Booked before after (n :: notes) := by
  refine ⟨fun k => ?_, hnotes⟩
  rw [Note.balance_cons, Note.change_of_isNeutral hn, Int.zero_add]
  exact h.balanced k

/-- Within a step the count of live connections is always where it was or where it will be. -/
lemma balance_take (h : Booked before after notes) (i : Nat) :
    before .live + Note.balance .live (notes.take i) = before .live ∨
      before .live + Note.balance .live (notes.take i) = after .live := by
  cases i with
  | zero => exact .inl (Int.add_zero _)
  | succ i =>
    cases notes with
    | nil => exact .inl (Int.add_zero _)
    | cons n rest =>
      have hrest : ∀ j, Note.balance .live (rest.take j) = 0 := fun j =>
        Note.balance_eq_zero fun n hn => h.first n (List.mem_of_mem_take hn)
      have hall : Note.balance .live rest = 0 := Note.balance_eq_zero h.first
      refine .inr ?_
      rw [h.balanced, List.take_succ_cons, Note.balance_cons, Note.balance_cons, hrest, hall]

end Booked

/-! ### Several machines -/

namespace Account

variable {σ τ : Type} {census : σ → Account → Int}

/-- The census of several machines. -/
def total (census : σ → Account → Int) (l : List σ) (k : Account) : Int :=
  (l.map fun s => census s k).sum

@[simp] lemma total_nil (k : Account) : total census [] k = 0 := rfl

@[simp] lemma total_cons (s : σ) (l : List σ) (k : Account) :
    total census (s :: l) k = census s k + total census l k := List.sum_cons

@[simp] lemma total_append (l l' : List σ) (k : Account) :
    total census (l ++ l') k = total census l k + total census l' k := by
  rw [total, List.map_append, List.sum_append]
  rfl

/-- Where one machine is replaced by another one, so is its census. -/
lemma total_set {l : List σ} {i : Nat} {s : σ} (hs : l[i]? = some s) (s' : σ) (k : Account) :
    total census (l.set i s') k = total census l k + (census s' k - census s k) := by
  induction l generalizing i with
  | nil => cases hs
  | cons first rest ih =>
    cases i with
    | zero =>
      obtain rfl : first = s := Option.some.inj hs
      rw [List.set_cons_zero, total_cons, total_cons]
      omega
    | succ i =>
      rw [List.set_cons_succ, total_cons, total_cons, ih hs]
      omega

section Table

variable {κ : Type} [DecidableEq κ]

/-- The census of the machines in a table. -/
def totalOf (census : σ → Account → Int) (t : Table κ σ) (k : Account) : Int :=
  total census (t.map Prod.snd) k

/-- A machine that is put in the place of another one. -/
lemma totalOf_put (census : σ → Account → Int) {t : Table κ σ} {i : κ} {s : σ}
    (hs : t.get? i = some s) (s' : σ) (k : Account) :
    totalOf census (t.put i s') k = totalOf census t k + (census s' k - census s k) := by
  induction t with
  | nil => cases hs
  | cons p rest ih =>
    rw [Table.get?_cons] at hs
    unfold Table.put
    by_cases hp : p.1 = i
    · rw [if_pos hp] at hs
      obtain rfl : p.2 = s := Option.some.inj hs
      rw [if_pos hp]
      simp only [totalOf, List.map_cons, total_cons]
      omega
    · rw [if_neg hp] at hs
      have hrest := ih hs
      rw [if_neg hp]
      simp only [totalOf, List.map_cons, total_cons] at hrest ⊢
      omega

/-- A machine that comes in. -/
lemma totalOf_put_new (census : σ → Account → Int) {t : Table κ σ} {i : κ}
    (hnew : t.get? i = none) (s : σ) (k : Account) :
    totalOf census (t.put i s) k = totalOf census t k + census s k := by
  induction t with
  | nil => simp [totalOf, Table.put]
  | cons p rest ih =>
    rw [Table.get?_cons] at hnew
    unfold Table.put
    by_cases hp : p.1 = i
    · rw [if_pos hp] at hnew
      cases hnew
    · rw [if_neg hp] at hnew
      have hrest := ih hnew
      rw [if_neg hp]
      simp only [totalOf, List.map_cons, total_cons] at hrest ⊢
      omega

/-- A machine that is let go of. -/
lemma totalOf_erase (census : σ → Account → Int) {t : Table κ σ} (hdistinct : t.keys.Nodup)
    {i : κ} {s : σ} (hs : t.get? i = some s) (k : Account) :
    totalOf census (t.erase i) k = totalOf census t k - census s k := by
  induction t with
  | nil => cases hs
  | cons p rest ih =>
    rw [Table.get?_cons] at hs
    by_cases hp : p.1 = i
    · rw [if_pos hp] at hs
      obtain rfl : p.2 = s := Option.some.inj hs
      rw [← hp, Table.erase_cons_self hdistinct, totalOf, totalOf, List.map_cons, total_cons]
      omega
    · rw [if_neg hp] at hs
      have hrest := ih (List.nodup_cons.mp hdistinct).2 hs
      have herase : Table.erase (p :: rest) i = p :: Table.erase rest i :=
        List.filter_cons_of_pos (by simpa using hp)
      rw [herase]
      simp only [totalOf, List.map_cons, total_cons] at hrest ⊢
      omega

end Table

/-- Machines that are counted one by one where they have a property. -/
lemma total_eq_countP (p : σ → Bool) {k : Account} (l : List σ)
    (h : ∀ s ∈ l, census s k = if p s then 1 else 0) : total census l k = l.countP p := by
  induction l with
  | nil => rfl
  | cons s rest ih =>
    rw [total_cons, h s List.mem_cons_self, ih fun s hs => h s (List.mem_cons_of_mem _ hs),
      List.countP_cons]
    split <;> omega

/-- Machines that count for nothing. -/
lemma total_eq_zero {k : Account} {l : List σ} (h : ∀ s ∈ l, census s k = 0) :
    total census l k = 0 := by
  refine List.sum_eq_zero fun n hn => ?_
  obtain ⟨s, hs, rfl⟩ := List.mem_map.mp hn
  exact h s hs

/-- The census is not negative if that of no machine is. -/
lemma total_nonneg {k : Account} {l : List σ} (h : ∀ s, 0 ≤ census s k) :
    0 ≤ total census l k := by
  induction l with
  | nil => exact Int.le_refl 0
  | cons s rest ih =>
    rw [total_cons]
    exact Int.add_nonneg (h s) ih

end Account

/-- The census of a machine that may not be there. -/
def Account.optional {σ : Type} (census : σ → Account → Int) : Option σ → Account → Int
  | none => fun _ => 0
  | some s => census s

/-- What is noted where a machine may come in, of which something holds then. -/
structure Enters {σ : Type} (census : σ → Account → Int) (P : σ → Prop) (made : Option σ)
    (notes : List Note) : Prop where
  /-- It is counted as it comes in. -/
  booked : Booked (fun _ => 0) (Account.optional census made) notes
  /-- It is as it should be. -/
  proper : ∀ s, made = some s → P s

/-- Where nobody comes in nothing is booked. -/
lemma Enters.nobody {σ : Type} {census : σ → Account → Int} {P : σ → Prop} {notes : List Note}
    (hnotes : notes.all Note.isNeutral = true) : Enters census P none notes where
  booked := .ofNeutral (fun _ => rfl) hnotes
  proper _ hs := by cases hs

/-! ### Books -/

/-- The managers of a process. -/
inductive Side where
  /-- That of streams. -/
  | stream
  /-- That of datagrams. -/
  | datagram
  deriving DecidableEq

/-- The tracker of a manager. -/
def Side.tracker : Side → Tracker
  | stream => ({} : LiveCounts).newTracker.1
  | datagram => ({} : LiveCounts).newTracker.2.newTracker.1

namespace LiveCounts

/-- Counts connections in, or out if there are less than none. -/
def move (c : LiveCounts) (t : Tracker) : Int → LiveCounts
  | .ofNat n => (fun c => (c.track t).2)^[n] c
  | .negSucc n => (fun c => c.release ⟨t.account⟩)^[n + 1] c

/-- A change of the counts that moves that of one tracker. -/
def Moves (t : Tracker) (d : Int) (c c' : LiveCounts) : Prop :=
  c'.counts.length = c.counts.length ∧
    ∀ t', c'.active t' = c.active t' + if t' = t then d else 0

variable {c : LiveCounts} {t : Tracker}

/-- Whatever is added to the count of a tracker, the others are where they were. -/
lemma moves_modify (ht : t.account < c.counts.length) (d : Int) :
    Moves t d c ⟨c.counts.modify t.account (· + d)⟩ := by
  refine ⟨List.length_modify _ _ _, fun t' => ?_⟩
  obtain ⟨i⟩ := t
  obtain ⟨j⟩ := t'
  simp only [active, List.getElem?_modify, Tracker.mk.injEq]
  by_cases hij : j = i
  · subst hij
    simp [List.getElem?_eq_getElem ht]
  · simp [hij, Ne.symm hij]

/-- Changes made several times over add up. -/
lemma moves_iterate {f : LiveCounts → LiveCounts} {d : Int}
    (hf : ∀ c, t.account < c.counts.length → Moves t d c (f c)) (ht : t.account < c.counts.length)
    (n : Nat) : Moves t (n * d) c (f^[n] c) := by
  induction n with
  | zero => exact ⟨rfl, fun t' => by simp⟩
  | succ n ih =>
    obtain ⟨hlength, hactive⟩ := ih
    obtain ⟨hlength', hactive'⟩ := hf (f^[n] c) (by rwa [hlength])
    rw [Function.iterate_succ_apply']
    refine ⟨hlength'.trans hlength, fun t' => ?_⟩
    rw [hactive', hactive, Int.add_assoc]
    split
    · rw [Int.natCast_succ, Int.add_mul, Int.one_mul]
    · rfl

/-- The count of a tracker moves as it is asked to. -/
lemma moves_move (ht : t.account < c.counts.length) (d : Int) : Moves t d c (c.move t d) := by
  cases d with
  | ofNat n =>
    have h := moves_iterate (t := t) (f := fun c => (c.track t).2) (d := 1)
      (fun c hc => moves_modify hc 1) ht n
    rwa [Int.mul_one] at h
  | negSucc n =>
    have h := moves_iterate (t := t) (f := fun c => c.release ⟨t.account⟩) (d := -1)
      (fun c hc => moves_modify hc (-1)) ht (n + 1)
    rwa [Int.mul_neg_one] at h

end LiveCounts

/-- A note of one of the managers. -/
abbrev Entry := Side × Note

/-- The trackers of both managers, and the exposition that they share. -/
structure Books where
  /-- The counts of the trackers. -/
  counts : LiveCounts
  /-- The exposition. -/
  metrics : Metrics

namespace Books

/-- Books with nothing in them. -/
def start : Books where
  counts := ({} : LiveCounts).newTracker.2.newTracker.2
  metrics := {}

/-- What the tracker of a manager counts. -/
def active (b : Books) (side : Side) : Int := b.counts.active side.tracker

/-- Takes a note in. -/
def enter (b : Books) : Entry → Books
  | (side, .tracked d) => { b with counts := b.counts.move side.tracker d }
  | (_, .measured m) => { b with metrics := b.metrics.record m }
  | _ => b

/-- The books after a history. -/
def after (history : List Entry) : Books := history.foldl enter start

end Books

/-- The notes of a manager in a history of both. -/
def Entry.notesOf (side : Side) (history : List Entry) : List Note :=
  (history.filter fun e => e.1 = side).map Prod.snd

lemma Entry.notesOf_append (side : Side) (h h' : List Entry) :
    notesOf side (h ++ h') = notesOf side h ++ notesOf side h' := by
  rw [notesOf, List.filter_append, List.map_append]
  rfl

/-- The notes of one manager are all its own. -/
lemma Entry.notesOf_map (side side' : Side) (notes : List Note) :
    notesOf side (notes.map fun n => (side', n)) = if side' = side then notes else [] := by
  by_cases h : side' = side <;> simp [notesOf, List.filter_map, Function.comp_def, h]

/-- By how much a measurement moves a series. -/
def Measurement.move (m : Measurement) (s : Series) : Int :=
  ((m.changes.filter fun c => c.1 = s).map Prod.snd).sum

/-- A series holds what it held, moved by the measurement. -/
lemma Metrics.value_record (x : Metrics) (m : Measurement) (s : Series) :
    (x.record m).value s = x.value s + m.move s := by
  rw [record, Measurement.move]
  induction m.changes generalizing x with
  | nil => exact (Int.add_zero _).symm
  | cons c rest ih =>
    rw [List.foldl_cons, ih, value_add, List.filter_cons]
    by_cases h : c.1 = s
    · simp [h, Int.add_assoc]
    · simp [h, Ne.symm h]

/-- The gauge of a carrier goes up with its counters of opened connections and down with that of
closed ones. -/
lemma Measurement.move_active (m : Measurement) (c : Carrier) :
    m.move (.active c) =
      m.move (.opened c .active) + m.move (.opened c .passive) - m.move (.closed c) := by
  cases m with
  | opened c' direction => cases direction <;> by_cases h : c' = c <;> simp [move, changes, h]
  | closed c' => by_cases h : c' = c <;> simp [move, changes, h]
  | _ => simp [move, changes]

/-- The series that shows an account, if it is shown. -/
def Account.series? : Account → Option Series
  | live => none
  | running c => some (.active c)
  | peers => some .udpPeers

/-- A measurement moves an account by as much as the series that shows it. -/
lemma Measurement.move_eq_change {k : Account} {s : Series} (hs : k.series? = some s)
    (m : Measurement) : m.move s = (Note.measured m).change k := by
  cases k with
  | live => cases hs
  | running c =>
    cases hs
    cases m with
    | opened c' direction => by_cases h : c' = c <;> simp [move, changes, Note.change, h]
    | closed c' => by_cases h : c' = c <;> simp [move, changes, Note.change, h]
    | _ => simp [move, changes, Note.change]
  | peers =>
    cases hs
    cases m <;> simp [move, changes, Note.change]

namespace Books

/-- What books show after a history of both managers. -/
structure Shows (b : Books) (history : List Entry) : Prop where
  /-- There are two trackers. -/
  trackers : b.counts.counts.length = 2
  /-- A tracker counts the connections of its manager. -/
  active : ∀ side, b.active side = Note.balance .live (Entry.notesOf side history)
  /-- A series shows its account, to which both managers add. -/
  value : ∀ k s, k.series? = some s →
    b.metrics.value s = Note.balance k (Entry.notesOf .stream history) +
      Note.balance k (Entry.notesOf .datagram history)
  /-- A gauge of live connections goes with the counters. -/
  gauge : ∀ c, b.metrics.value (.active c) = b.metrics.value (.opened c .active) +
    b.metrics.value (.opened c .passive) - b.metrics.value (.closed c)

/-- A note that is taken in is shown. -/
lemma Shows.enter {b : Books} {history : List Entry} (h : b.Shows history) (e : Entry) :
    (b.enter e).Shows (history ++ [e]) := by
  obtain ⟨side, n⟩ := e
  have hnotes (side' : Side) (k : Account) :
      Note.balance k (Entry.notesOf side' (history ++ [(side, n)])) =
        Note.balance k (Entry.notesOf side' history) + if side = side' then n.change k else 0 := by
    have hone : Entry.notesOf side' [(side, n)] = if side = side' then [n] else [] :=
      Entry.notesOf_map side' side [n]
    rw [Entry.notesOf_append, Note.balance_append, hone]
    split <;> simp
  have hboth (k : Account) :
      Note.balance k (Entry.notesOf .stream (history ++ [(side, n)])) +
          Note.balance k (Entry.notesOf .datagram (history ++ [(side, n)])) =
        Note.balance k (Entry.notesOf .stream history) +
          Note.balance k (Entry.notesOf .datagram history) + n.change k := by
    rw [hnotes, hnotes]
    cases side <;> simp <;> omega
  -- the trackers and the exposition are moved by different notes
  have hcalm (hlive : n.change .live = 0) (hseries : ∀ k s, k.series? = some s → n.change k = 0) :
      b.Shows (history ++ [(side, n)]) := by
    refine ⟨h.trackers, fun side' => ?_, fun k s hs => ?_, h.gauge⟩
    · rw [hnotes, hlive, ite_self, Int.add_zero]
      exact h.active side'
    · rw [hboth, hseries k s hs, Int.add_zero]
      exact h.value k s hs
  cases n with
  | tracked d =>
    have hlt : side.tracker.account < b.counts.counts.length := by
      rw [h.trackers]
      cases side <;> decide
    obtain ⟨hlength, hactive⟩ := LiveCounts.moves_move hlt d
    constructor
    case trackers => exact hlength.trans h.trackers
    case active =>
      intro side'
      have hsame : side'.tracker = side.tracker ↔ side = side' := by
        cases side <;> cases side' <;> decide
      rw [hnotes, ← h.active]
      simp only [Books.enter, Books.active, hactive, hsame]
      rfl
    case value =>
      intro k s hs
      have hzero : (Note.tracked d).change k = 0 := by cases k <;> first | rfl | cases hs
      rw [hboth, hzero, Int.add_zero]
      exact h.value k s hs
    case gauge => exact h.gauge
  | measured m =>
    constructor
    case trackers => exact h.trackers
    case active =>
      intro side'
      have hzero : (Note.measured m).change .live = 0 := rfl
      rw [hnotes, hzero, ite_self, Int.add_zero]
      exact h.active side'
    case value =>
      intro k s hs
      rw [hboth, ← h.value k s hs, ← Measurement.move_eq_change hs]
      exact b.metrics.value_record m s
    case gauge =>
      intro c
      have hmove := m.move_active c
      have hgauge := h.gauge c
      simp only [Books.enter, Metrics.value_record]
      omega
  | _ => exact hcalm rfl fun k s _ => Note.change_of_isNeutral rfl k

/-- Books show their history. -/
lemma shows_after (history : List Entry) : (after history).Shows history := by
  induction history using List.reverseRecOn with
  | nil =>
    refine ⟨rfl, fun side => ?_, fun k s _ => rfl, fun c => rfl⟩
    cases side <;> rfl
  | append_singleton history e ih =>
    rw [after, List.foldl_concat]
    exact ih.enter e

end Books

end Switchboard
