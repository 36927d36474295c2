import Mathlib.Data.Int.CardIntervalMod
import Switchboard.Proofs.Manager.Standing

/-!
# Rotations of a pool

Whoever asks a pool or one of its selectors for loops, and however often the pool is started and
stopped in between, every generation deals its loops in turn (`rotation`).  A call of a pool makes a
generation, stops the one in use, or deals one loop of a generation (`LoopPool.Goes`), so it changes
one generation at a time.  Hence what all calls together have dealt of a generation is read off its
place in the rotation, and its loops run exactly as long as it is in use (`LoopPool.Rotates`).
-/

namespace Switchboard

/-! ### Turns -/

/-- What a generation of so many loops deals in so many turns: its loops one after the other,
counted in machine words. -/
def rotation (generation loops turns : Nat) : List EventLoop :=
  (List.range turns).map fun k => ⟨generation, k % 2 ^ 64 % loops⟩

lemma rotation_succ (generation loops turns : Nat) : rotation generation loops (turns + 1) =
    rotation generation loops turns ++ [⟨generation, turns % 2 ^ 64 % loops⟩] := by
  simp [rotation, List.range_succ]

@[simp] lemma length_rotation (generation loops turns : Nat) :
    (rotation generation loops turns).length = turns := by
  simp [rotation]

/-- The loops of a generation among some loops. -/
def turnsOf (generation : Nat) (dealt : List EventLoop) : List EventLoop :=
  dealt.filter fun l => l.generation = generation

@[simp] lemma turnsOf_nil (generation : Nat) : turnsOf generation [] = [] := rfl

@[simp] lemma turnsOf_append (generation : Nat) (early late : List EventLoop) :
    turnsOf generation (early ++ late) = turnsOf generation early ++ turnsOf generation late := by
  simp [turnsOf]

/-- Loops of a generation that are dealt fairly, as long as their number is a machine word. -/
structure Fair (generation loops : Nat) (turns : List EventLoop) : Prop where
  /-- Every loop is dealt in its turn. -/
  inTurn : ∀ k < turns.length, k < 2 ^ 64 → turns[k]? = some ⟨generation, k % loops⟩
  /-- No loop is dealt again before all others were. -/
  distinct : ∀ i, i + loops ≤ turns.length → i + loops ≤ 2 ^ 64 →
    ((turns.drop i).take loops).length = loops ∧ ((turns.drop i).take loops).Nodup
  /-- No loop is dealt more than once more than another one. -/
  level : turns.length ≤ 2 ^ 64 → ∀ i < loops, ∀ j < loops,
    turns.count ⟨generation, i⟩ ≤ turns.count ⟨generation, j⟩ + 1

lemma getElem?_rotation {generation loops turns k : Nat} (hk : k < turns) (hword : k < 2 ^ 64) :
    (rotation generation loops turns)[k]? = some ⟨generation, k % loops⟩ := by
  rw [rotation, List.getElem?_map, List.getElem?_range hk, Option.map_some, Nat.mod_eq_of_lt hword]

/-- How often a loop is dealt in a rotation. -/
lemma count_rotation {generation loops turns i : Nat} (hturns : turns ≤ 2 ^ 64) (hi : i < loops) :
    (rotation generation loops turns).count ⟨generation, i⟩ =
      turns.count (· ≡ i [MOD loops]) := by
  induction turns with
  | zero => rfl
  | succ k ih =>
    rw [rotation_succ, List.count_append, ih (Nat.le_of_succ_le hturns), Nat.count_succ,
      Nat.mod_eq_of_lt hturns, List.count_singleton]
    simp [Nat.ModEq, Nat.mod_eq_of_lt hi]

/-- Two turns less than a round apart deal different loops. -/
lemma getElem?_rotation_ne {generation loops turns i j : Nat} (hij : i < j) (hround : j < i + loops)
    (hj : j < turns) (hword : j < 2 ^ 64) :
    (rotation generation loops turns)[i]? ≠ (rotation generation loops turns)[j]? := by
  rw [getElem?_rotation (hij.trans hj) (hij.trans hword), getElem?_rotation hj hword]
  intro hsame
  have hmod : i ≡ j [MOD loops] := (EventLoop.mk.inj (Option.some.inj hsame)).2
  -- a multiple of the number of loops lies between the two turns
  have hdvd : loops ∣ j - i := (Nat.modEq_iff_dvd' hij.le).mp hmod
  exact Nat.not_lt.mpr (Nat.le_of_dvd (Nat.sub_pos_of_lt hij) hdvd)
    (Nat.sub_lt_left_of_lt_add hij.le hround)

/-- A rotation is fair. -/
lemma fair_rotation {loops : Nat} (hloops : 0 < loops) (generation turns : Nat) :
    Fair generation loops (rotation generation loops turns) := by
  constructor
  case inTurn =>
    intro k hk hword
    rw [length_rotation] at hk
    exact getElem?_rotation hk hword
  case distinct =>
    intro i hi hword
    rw [length_rotation] at hi
    have hlength : (((rotation generation loops turns).drop i).take loops).length = loops := by
      rw [List.length_take, List.length_drop, length_rotation]
      exact Nat.min_eq_left (Nat.le_sub_of_add_le' hi)
    refine ⟨hlength, List.nodup_iff_getElem?_ne_getElem?.mpr fun j k hjk hk => ?_⟩
    rw [hlength] at hk
    rw [List.getElem?_take_of_lt (hjk.trans hk), List.getElem?_take_of_lt hk, List.getElem?_drop,
      List.getElem?_drop]
    exact getElem?_rotation_ne (by omega) (by omega) (by omega) (by omega)
  case level =>
    intro hword i hi j hj
    rw [length_rotation] at hword
    rw [count_rotation hword hi, count_rotation hword hj, Nat.count_modEq_card turns hloops,
      Nat.count_modEq_card turns hloops]
    split <;> split <;> omega

/-! ### Calls of a pool -/

namespace LoopPool

variable {p p' : LoopPool}

/-- What can be asked of a pool, and of the selectors that were taken from it. -/
inductive Call where
  /-- To start so many loops. -/
  | init (count : Nat) (start : Nat → Except SystemError Unit)
  /-- For the next loop. -/
  | get
  /-- For a selector. -/
  | selector
  /-- A selector is asked for the next loop. -/
  | next (s : LoopSelector)
  /-- To stop. -/
  | exit
  /-- For the number of loops in use. -/
  | size

/-- The loop that a call deals. -/
def deal? (p : LoopPool) : Call → Option EventLoop
  | .get => p.get.1
  | .next s => (p.next s).1
  | .init .. | .selector | .exit | .size => none

/-- What a call makes of a pool. -/
def after (p : LoopPool) : Call → LoopPool
  | .init count start => (p.init count start).2
  | .get => p.get.2
  | .next s => (p.next s).2
  | .exit => p.exit
  | .selector | .size => p

/-- What calls make of a pool, one after the other. -/
def serve (p : LoopPool) (calls : List Call) : LoopPool := calls.foldl after p

/-- The loops that calls deal, in order. -/
def dealt (p : LoopPool) : List Call → List EventLoop
  | [] => []
  | call :: calls => (p.deal? call).toList ++ dealt (p.after call) calls

lemma serve_concat (p : LoopPool) (calls : List Call) (call : Call) :
    p.serve (calls ++ [call]) = (p.serve calls).after call := by
  simp [serve]

lemma dealt_concat (p : LoopPool) (calls : List Call) (call : Call) :
    p.dealt (calls ++ [call]) = p.dealt calls ++ ((p.serve calls).deal? call).toList := by
  induction calls generalizing p with
  | nil => simp [dealt, serve]
  | cons first calls ih => simp [dealt, serve, ih]

/-- What a call can do: what becomes of the pool, and the loop that is dealt. -/
inductive Goes (p : LoopPool) : LoopPool → Option EventLoop → Prop where
  /-- Nothing happens. -/
  | stay : Goes p p none
  /-- A generation is made. -/
  | make (count : Nat) (populated : 0 < count) (free : p.current = none) :
      Goes p { generations := p.generations ++ [⟨List.replicate count false, 0⟩],
               current := some p.generations.length } none
  /-- A generation deals a loop. -/
  | deal (k : Nat) (g : LoopGeneration) (known : p.generations[k]? = some g) :
      Goes p { p with generations := p.generations.set k { g with cursor := g.cursor + 1 } }
        (some ⟨k, g.cursor.toNat % g.size⟩)
  /-- The loops in use are stopped. -/
  | stop (k : Nat) (inUse : p.current = some k) :
      Goes p { generations := p.generations.modify k fun g =>
                 { g with stopped := g.stopped.map fun _ => true }
               current := none } none

/-- A selector deals a loop of its generation, if that has some. -/
lemma goes_next (p : LoopPool) (s : LoopSelector) : p.Goes (p.next s).2 (p.next s).1 := by
  unfold next
  split
  · exact .stay
  · rename_i g known
    split
    · exact .stay
    · exact .deal s.generation g known

/-- Every call does one of these. -/
lemma goes_after (p : LoopPool) (call : Call) : p.Goes (p.after call) (p.deal? call) := by
  cases call with
  | selector | size => exact .stay
  | next s => exact p.goes_next s
  | get =>
    simp only [after, deal?, get]
    split
    · exact .stay
    · exact p.goes_next _
  | exit =>
    simp only [after, deal?, exit]
    split
    · exact .stay
    · exact .stop _ ‹_›
  | init count start =>
    simp only [after, deal?]
    rcases hinit : p.init count start with ⟨_ | ⟨⟩, p'⟩
    · rw [eq_of_init_error hinit]
      exact .stay
    · obtain ⟨hfree, rfl⟩ := eq_of_init_ok hinit
      refine .make count (Nat.pos_of_ne_zero fun hzero => ?_) hfree
      subst hzero
      cases hinit

/-! ### Rotations -/

/-- What a pool remembers of the loops that were dealt, and of those that were stopped. -/
structure Rotates (p : LoopPool) (dealt : List EventLoop) : Prop where
  /-- The generation in use is one of the pool. -/
  known : ∀ {k}, p.current = some k → k < p.generations.length
  /-- No loop of a generation to come was dealt. -/
  unborn : ∀ {k}, p.generations.length ≤ k → turnsOf k dealt = []
  /-- A generation has loops, and has dealt them in turn up to its place in the rotation. -/
  turns : ∀ {k g}, p.generations[k]? = some g → 0 < g.size ∧
    ∃ n, turnsOf k dealt = rotation k g.size n ∧ g.cursor = UInt64.ofNat n
  /-- The loops in use run, and all others are stopped. -/
  stops : ∀ {k g}, p.generations[k]? = some g →
    g.stopped = List.replicate g.size (decide (p.current ≠ some k))

variable {dealt : List EventLoop}

lemma rotates_empty : ({} : LoopPool).Rotates [] where
  known hk := by cases hk
  unborn _ := rfl
  turns hk := by cases hk
  stops hk := by cases hk

lemma turnsOf_singleton_self (k i : Nat) : turnsOf k [⟨k, i⟩] = [⟨k, i⟩] := by simp [turnsOf]

lemma turnsOf_singleton_of_ne {k k' : Nat} (hne : k' ≠ k) (i : Nat) : turnsOf k [⟨k', i⟩] = [] := by
  simp [turnsOf, hne]

lemma Rotates.make (h : p.Rotates dealt) {count : Nat} (hsome : 0 < count)
    (hfree : p.current = none) :
    Rotates { generations := p.generations ++ [⟨List.replicate count false, 0⟩],
              current := some p.generations.length } dealt := by
  have hcases {k : Nat} {g : LoopGeneration}
      (hg : (p.generations ++ [⟨List.replicate count false, 0⟩])[k]? = some g) :
      (k < p.generations.length ∧ p.generations[k]? = some g) ∨
        k = p.generations.length ∧ g = ⟨List.replicate count false, 0⟩ := by
    rcases Nat.lt_or_ge k p.generations.length with hold | hlater
    · exact .inl ⟨hold, by rwa [List.getElem?_append_left hold] at hg⟩
    · rw [List.getElem?_append_right hlater, List.getElem?_singleton] at hg
      split at hg
      · exact .inr ⟨by omega, (Option.some.inj hg).symm⟩
      · cases hg
  constructor
  case known =>
    intro k hk
    rw [← Option.some.inj hk]
    simp
  case unborn =>
    intro k hk
    rw [List.length_append] at hk
    exact h.unborn (Nat.le_of_succ_le hk)
  case turns =>
    intro k g hg
    obtain ⟨-, hold⟩ | ⟨rfl, rfl⟩ := hcases hg
    · exact h.turns hold
    · exact ⟨by simpa [LoopGeneration.size] using hsome, 0, h.unborn (Nat.le_refl _), rfl⟩
  case stops =>
    intro k g hg
    obtain ⟨hlt, hold⟩ | ⟨rfl, rfl⟩ := hcases hg
    · simpa [hfree, Nat.ne_of_gt hlt] using h.stops hold
    · simp [LoopGeneration.size]

lemma Rotates.deal (h : p.Rotates dealt) {k : Nat} {g : LoopGeneration}
    (hg : p.generations[k]? = some g) :
    Rotates { p with generations := p.generations.set k { g with cursor := g.cursor + 1 } }
      (dealt ++ [⟨k, g.cursor.toNat % g.size⟩]) := by
  have hbound : k < p.generations.length := (List.getElem?_eq_some_iff.mp hg).1
  constructor
  case known => exact fun hk => by simpa using h.known hk
  case unborn =>
    intro k' hk'
    rw [List.length_set] at hk'
    rw [turnsOf_append, h.unborn hk', turnsOf_singleton_of_ne (Nat.ne_of_lt (hbound.trans_le hk'))]
    rfl
  case turns =>
    intro k' g' hg'
    by_cases hk : k = k'
    · subst hk
      obtain rfl : { g with cursor := g.cursor + 1 } = g' := by simpa [hbound] using hg'
      obtain ⟨hsome, n, hturns, hcursor⟩ := h.turns hg
      refine ⟨hsome, n + 1, ?_, ?_⟩
      · rw [turnsOf_append, hturns, turnsOf_singleton_self, hcursor, UInt64.toNat_ofNat',
          rotation_succ]
        rfl
      · rw [UInt64.ofNat_add, ← hcursor]
        rfl
    · rw [turnsOf_append, turnsOf_singleton_of_ne hk, List.append_nil]
      exact h.turns (by simpa [List.getElem?_set_ne hk] using hg')
  case stops =>
    intro k' g' hg'
    by_cases hk : k = k'
    · subst hk
      obtain rfl : { g with cursor := g.cursor + 1 } = g' := by simpa [hbound] using hg'
      have hstops := h.stops hg
      exact hstops
    · exact h.stops (by simpa [List.getElem?_set_ne hk] using hg')

lemma Rotates.stop (h : p.Rotates dealt) {k : Nat} (hk : p.current = some k) :
    Rotates { generations := p.generations.modify k fun g =>
                { g with stopped := g.stopped.map fun _ => true }
              current := none } dealt := by
  -- a generation is one from before, and stopped if it was in use
  have hbefore {k' : Nat} {g' : LoopGeneration}
      (hg' : (p.generations.modify k fun g =>
        { g with stopped := g.stopped.map fun _ => true })[k']? = some g') :
      ∃ g, p.generations[k']? = some g ∧ g'.size = g.size ∧ g'.cursor = g.cursor ∧
        g'.stopped = if k = k' then List.replicate g.size true else g.stopped := by
    rw [List.getElem?_modify] at hg'
    obtain ⟨g, hg, rfl⟩ := Option.map_eq_some_iff.mp hg'
    refine ⟨g, hg, ?_⟩
    split <;> simp [LoopGeneration.size]
  constructor
  case known => exact fun hnone => by cases hnone
  case unborn => exact fun hlater => h.unborn (by simpa using hlater)
  case turns =>
    intro k' g' hg'
    obtain ⟨g, hg, hsize, hcursor, -⟩ := hbefore hg'
    rw [hsize, hcursor]
    exact h.turns hg
  case stops =>
    intro k' g' hg'
    obtain ⟨g, hg, hsize, -, hstopped⟩ := hbefore hg'
    rw [hstopped, hsize]
    split
    · simp
    · rename_i hne
      simpa [hk, hne] using h.stops hg

/-- A call keeps the rotations going. -/
lemma Rotates.step (h : p.Rotates dealt) {l : Option EventLoop} (hgoes : p.Goes p' l) :
    p'.Rotates (dealt ++ l.toList) := by
  cases hgoes with
  | stay => simpa using h
  | make count hsome hfree => simpa using h.make hsome hfree
  | deal k g hg => exact h.deal hg
  | stop k hk => simpa using h.stop hk

/-- All calls together do so. -/
theorem rotates_serve (calls : List Call) :
    (serve {} calls).Rotates (LoopPool.dealt {} calls) := by
  induction calls using List.reverseRecOn with
  | nil => exact rotates_empty
  | append_singleton calls call ih =>
    rw [serve_concat, dealt_concat]
    exact ih.step (goes_after _ call)

/-! ### What follows from that -/

/-- The loops that were dealt of a generation were dealt fairly. -/
lemma Rotates.fair (h : p.Rotates dealt) {k : Nat} {g : LoopGeneration}
    (hg : p.generations[k]? = some g) : Fair k g.size (turnsOf k dealt) := by
  obtain ⟨hsome, n, hturns, -⟩ := h.turns hg
  rw [hturns]
  exact fair_rotation hsome k n

/-- A selector deals the loop whose turn it is, whether its loops are in use or not. -/
lemma Rotates.next (h : p.Rotates dealt) {s : LoopSelector} {g : LoopGeneration}
    (hg : p.generations[s.generation]? = some g) :
    (p.next s).1 =
      some ⟨s.generation, (turnsOf s.generation dealt).length % 2 ^ 64 % g.size⟩ := by
  obtain ⟨hsome, n, hturns, hcursor⟩ := h.turns hg
  have hknown : p.generation? s = some g := hg
  simp [LoopPool.next, hknown, Nat.ne_of_gt hsome, hturns, hcursor]

/-- A loop of a generation is stopped exactly if the generation is not in use. -/
lemma Rotates.isStopped_iff (h : p.Rotates dealt) {l : EventLoop} {g : LoopGeneration}
    (hg : p.generations[l.generation]? = some g) (hl : l.index < g.size) :
    p.isStopped l = true ↔ p.current ≠ some l.generation := by
  have hlookup : g.stopped[l.index]? = some (decide (p.current ≠ some l.generation)) := by
    rw [h.stops hg, List.getElem?_replicate, if_pos hl]
  simp [isStopped, hg, hlookup]

/-- A loop that runs is one of the generation in use. -/
lemma Rotates.tidy (h : p.Rotates dealt) : p.Tidy := by
  intro l hl
  by_contra hother
  have hrunning := hl
  unfold isStopped at hl
  split at hl
  · rename_i g hg
    have hindex : l.index < g.stopped.length := by
      by_contra hbeyond
      rw [List.getElem?_eq_none (Nat.not_lt.mp hbeyond)] at hl
      cases hl
    rw [(h.isStopped_iff hg hindex).mpr hother] at hrunning
    cases hrunning
  · cases hl

/-- Only a stop of the pool stops a loop. -/
lemma Rotates.isStopped_after (h : p.Rotates dealt) {call : Call} (hcall : call ≠ .exit)
    {l : EventLoop} (hl : p.isStopped l = false) : (p.after call).isStopped l = false := by
  have hnext (s : LoopSelector) : (p.next s).2.isStopped l = false :=
    (isStopped_next p s l).trans hl
  cases call with
  | exit => exact absurd rfl hcall
  | selector | size => exact hl
  | next s => exact hnext s
  | get =>
    simp only [after, get]
    split
    · exact hl
    · exact hnext _
  | init count start =>
    simp only [after]
    rcases hinit : p.init count start with ⟨_ | ⟨⟩, p'⟩
    · rw [eq_of_init_error hinit]
      exact hl
    · -- a pool whose loops run is not started
      have hfree := (eq_of_init_ok hinit).1
      rw [h.tidy l hl] at hfree
      cases hfree

/-- The first so many generations of a pool are not in use any more. -/
structure Retired (k : Nat) (p : LoopPool) : Prop where
  /-- The pool has as many. -/
  reached : k ≤ p.generations.length
  /-- The generation in use is a later one. -/
  later : ∀ {k'}, p.current = some k' → k ≤ k'

/-- What was in use when a pool was stopped is not in use again. -/
lemma Retired.serve {k : Nat} (h : p.Retired k) (calls : List Call) :
    (p.serve calls).Retired k := by
  induction calls using List.reverseRecOn with
  | nil => exact h
  | append_singleton calls call ih =>
    rw [serve_concat]
    have hgoes := goes_after (p.serve calls) call
    generalize (p.serve calls).after call = p' at hgoes
    generalize (p.serve calls).deal? call = l at hgoes
    cases hgoes with
    | stay => exact ih
    | make count hsome hfree =>
      refine ⟨by simpa using Nat.le_succ_of_le ih.reached, fun hk => ?_⟩
      exact Option.some.inj hk ▸ ih.reached
    | deal k' g hg => exact ⟨by simpa using ih.reached, ih.later⟩
    | stop k' hk => exact ⟨by simpa using ih.reached, fun hnone => by cases hnone⟩

lemma retired_exit (p : LoopPool) : p.exit.Retired p.generations.length :=
  ⟨by simp, fun hcurrent => by simp at hcurrent⟩

/-- Nothing keeps the system from starting some loops exactly if it starts each of them. -/
lemma fault?_eq_none_iff {count : Nat} {start : Nat → Except SystemError Unit} :
    fault? count start = none ↔ ∀ i < count, start i = .ok () := by
  rw [fault?, List.findSome?_eq_none_iff]
  refine forall_congr' fun i => imp_congr List.mem_range ?_
  cases start i <;> simp

/-- A start succeeds exactly if it is asked for loops, none are in use, and the system starts each
of them. -/
lemma init_eq_ok_iff {count : Nat} {start : Nat → Except SystemError Unit} :
    (p.init count start).1 = .ok () ↔
      0 < count ∧ p.selector? = none ∧ ∀ i < count, start i = .ok () := by
  rcases Nat.eq_zero_or_pos count with rfl | hsome
  · simp [init]
  · have hcount : count ≠ 0 := Nat.ne_of_gt hsome
    cases hcurrent : p.current with
    | some k => simp [init_of_live hcount (by rw [hcurrent]; rfl), selector?, hcurrent]
    | none =>
      rw [init_of_free hcount hcurrent, ← fault?_eq_none_iff]
      cases fault? count start <;> simp [hsome, selector?, hcurrent]

/-- How a pool deals loops, given those that were dealt. -/
structure Deals (p : LoopPool) (dealt : List EventLoop) : Prop where
  /-- The loops of each generation are dealt fairly, whoever asks for them. -/
  fair : ∀ {k g}, p.generations[k]? = some g → Fair k g.size (turnsOf k dealt)
  /-- A selector deals the loop of its generation whose turn it is. -/
  next : ∀ {s g}, p.generations[s.generation]? = some g → (p.next s).1 =
    some ⟨s.generation, (turnsOf s.generation dealt).length % 2 ^ 64 % g.size⟩
  /-- The pool itself does what its selector does, as long as it has one. -/
  inUse : ∀ {s}, p.selector? = some s →
    p.get = p.next s ∧ ∃ g, p.generations[s.generation]? = some g ∧ p.size = g.size
  /-- A start succeeds exactly if it is asked for loops, none are in use, and the system starts each
  of them. -/
  succeeds : ∀ {count start}, (p.init count start).1 = .ok () ↔
    0 < count ∧ p.selector? = none ∧ ∀ i < count, start i = .ok ()
  /-- A start that succeeds makes a generation, of which nothing was dealt. -/
  started : ∀ {count start p'}, p.init count start = (.ok (), p') →
    0 < count ∧ p'.selector? = some ⟨p.generations.length⟩ ∧ p'.size = count ∧
      turnsOf p.generations.length dealt = []
  /-- A start of no loops, or with loops in use, is refused. -/
  refused : ∀ {count start}, count = 0 ∨ p.selector?.isSome = true →
    ∃ e, (p.init count start).1 = .error e
  /-- A start that is refused changes nothing. -/
  unchanged : ∀ {count start e}, (p.init count start).1 = .error e → (p.init count start).2 = p
  /-- A pool that was stopped has no loops to deal, and no loop runs. -/
  finished : p.exit.get.1 = none ∧ p.exit.size = 0 ∧ ∀ l, p.exit.isStopped l = true
  /-- A selector that was saved goes on dealing the stopped loops of its generation, whatever
  becomes of the pool afterwards. -/
  saved : ∀ more s, s.generation < p.generations.length → ∃ l,
    ((p.exit.serve more).next s).1 = some l ∧ l.generation = s.generation ∧
      (p.exit.serve more).isStopped l = true
  /-- A loop that runs is in use, and nothing but a stop of the pool stops it. -/
  own : ∀ {l}, p.isStopped l = false → p.selector? = some ⟨l.generation⟩ ∧
    ∀ call, (p.after call).isStopped l = true → call = .exit

/-- **A pool deals its loops in rotation.**  In every sequence of calls, the loops of a generation
are dealt one after the other, be it by the pool or by any selector that was saved.  A start that is
refused changes nothing, a stop stops the loops in use and no others, and what a selector deals is
of its own generation ever after. -/
theorem deals_in_rotation (calls : List Call) :
    (serve {} calls).Deals (LoopPool.dealt {} calls) := by
  have hrotates := rotates_serve calls
  set p := LoopPool.serve {} calls with hp
  constructor
  case fair => exact hrotates.fair
  case next => exact hrotates.next
  case inUse =>
    intro s hs
    obtain ⟨k, hk, rfl⟩ := Option.map_eq_some_iff.mp hs
    have hg := List.getElem?_eq_getElem (hrotates.known hk)
    refine ⟨by simp [get, hs], _, hg, ?_⟩
    simp [size, hs, lengthOf, generation?, hg]
  case succeeds => exact init_eq_ok_iff
  case started =>
    intro count start p' hinit
    have hsize := size_of_init_ok hinit
    have hcount : 0 < count := Nat.pos_of_ne_zero fun hzero => by
      subst hzero
      cases hinit
    obtain ⟨-, rfl⟩ := eq_of_init_ok hinit
    exact ⟨hcount, rfl, hsize, hrotates.unborn (Nat.le_refl _)⟩
  case refused =>
    intro count start hbad
    by_cases hzero : count = 0
    · exact ⟨_, by rw [init, if_pos hzero]⟩
    · have hlive : p.current.isSome = true := by simpa [selector?, hzero] using hbad
      exact ⟨_, by rw [init_of_live hzero hlive]⟩
  case unchanged => exact fun herror => eq_of_init_error (Prod.ext herror rfl)
  case finished => exact ⟨by simp [get], size_exit p, hrotates.tidy.isStopped_exit⟩
  case saved =>
    intro more s hs
    have hretired := p.retired_exit.serve more
    -- the calls go on behind the stop
    have hmore : p.exit.serve more = LoopPool.serve {} (calls ++ .exit :: more) := by
      rw [hp, serve, serve, serve, List.foldl_append]
      rfl
    have hlater := rotates_serve (calls ++ .exit :: more)
    rw [← hmore] at hlater
    have hg := List.getElem?_eq_getElem (hs.trans_le hretired.reached)
    refine ⟨_, hlater.next hg, rfl, (hlater.isStopped_iff hg ?_).mpr fun hcurrent => ?_⟩
    · exact Nat.mod_lt _ (hlater.turns hg).1
    · exact Nat.not_lt.mpr (hretired.later hcurrent) hs
  case own =>
    intro l hl
    refine ⟨by rw [selector?, hrotates.tidy l hl]; rfl, fun call hstopped => ?_⟩
    by_contra hcall
    rw [hrotates.isStopped_after hcall hl] at hstopped
    cases hstopped

/-- A selector that was saved before a stop goes on where its pool stopped, beside a later pool. -/
example :
    LoopPool.dealt {} [.init 2 fun _ => .ok (), .get, .exit, .get, .init 3 fun _ => .ok (), .get,
      .next ⟨0⟩, .get, .next ⟨0⟩] = [⟨0, 0⟩, ⟨1, 0⟩, ⟨0, 1⟩, ⟨1, 1⟩, ⟨0, 0⟩] := by
  decide +kernel

end LoopPool

end Switchboard
