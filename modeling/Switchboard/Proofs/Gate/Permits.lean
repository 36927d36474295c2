import Mathlib.Data.List.Nodup
import Switchboard.Proofs.Gate.Moves

/-!
# The permits of a gate

A permit is free, or a listener has it that waits for a connection, or an accepted connection has
it. It never disappears and is never doubled: listeners hand theirs to the connections they accept,
and who lets go of a permit leaves it free (`Gate.Sound.step`, `Gate.sound_run`).

Part of this is that the queue of a gate lists exactly the listeners that wait, each once, so that a
permit that is given out reaches a listener.  Another part is that accepted connections are numbered
apart, so that a permit that is given back was held by one of them.
-/

namespace Switchboard.Tcp

namespace Gate

variable {g : Gate} {limit i n m : Nat}

/-! ### Whole runs -/

/-- A run is an iteration of steps. -/
lemma run_eq_iterate (g : Gate) (es : List Event) : g.run es = Noted.iterate step g es := by
  induction es generalizing g with
  | nil => rfl
  | cons e es ih => simp [run, Noted.iterate, Noted.andThen, ih]

/-- A run goes on where another one stopped. -/
lemma run_append (g : Gate) (es fs : List Event) :
    g.run (es ++ fs) = (g.run es).andThen fun g => g.run fs := by
  simp only [run_eq_iterate]
  exact Noted.iterate_append step g es fs

/-- A run with one more event. -/
lemma run_concat (g : Gate) (es : List Event) (e : Event) :
    g.run (es ++ [e]) = (((g.run es).1.step e).1, (g.run es).2 ++ ((g.run es).1.step e).2) := by
  simp only [run_eq_iterate]
  exact Noted.iterate_concat step g es e

/-! ### The parts of a gate -/

/-- How the parts of a gate go together. -/
structure Sound (limit : Nat) (g : Gate) : Prop where
  /-- Every permit is free or held, by one listener or by one connection. -/
  balance : g.free + g.heldByListeners + g.heldByArrivals = limit
  /-- No listener is queued twice. -/
  queue : g.queue.Nodup
  /-- The queued listeners are those that wait for a permit. -/
  waiting : ∀ i, i ∈ g.queue ↔ ∃ l, g.listeners[i]? = some l ∧ l.stage = .queued
  /-- Connections are numbered apart. -/
  arrivals : g.arrivals.keys.Nodup
  /-- Their numbers have been given out. -/
  numbered : ∀ n ∈ g.arrivals.keys, n < g.nextArrival

lemma sound_start (engine : Engine) (limit : Nat) : (start engine limit).Sound limit where
  balance := by simp [start, heldByListeners, heldByArrivals]
  queue := List.nodup_nil
  waiting i := by simp [start]
  arrivals := List.nodup_nil
  numbered n hn := by cases hn

/-- A connection that is there is counted. -/
lemma mem_keys_of_get? {a : Arrival} (ha : g.arrivals.get? n = some a) : n ∈ g.arrivals.keys :=
  Table.mem_keys_iff.mpr (by simp [ha])

/-- The table has as many connections as numbers. -/
lemma heldByArrivals_eq (g : Gate) : g.heldByArrivals = g.arrivals.keys.length := by
  simp [heldByArrivals, Table.keys]

namespace Sound

/-- A new connection is numbered apart from those that are there. -/
lemma keys_enter (h : g.Sound limit) (a : Arrival) :
    (g.enter a).arrivals.keys = g.arrivals.keys ++ [g.nextArrival] := by
  have hnew : g.nextArrival ∉ g.arrivals.keys := fun hmem => (h.numbered _ hmem).false
  rw [Gate.enter, Table.keys_put, if_neg hnew]

section Listener

variable (h : g.Sound limit) {l : Listener} (hl : g.listeners[i]? = some l)
include h hl

/-- A listener that does not wait for a permit is not queued. -/
lemma not_mem_queue (hstage : l.stage ≠ .queued) : i ∉ g.queue := by
  rw [h.waiting]
  rintro ⟨l', hl', hqueued⟩
  exact hstage (Option.some.inj (hl.symm.trans hl') ▸ hqueued)

/-- Moved on to a stage at which it does not wait either, it leaves the queue right. -/
lemma waiting_setStage {stage : ListenerStage} (hstage : stage ≠ .queued) (j : Nat) :
    j ∈ g.queue ∧ j ≠ i ↔
      ∃ l, (g.setStage i stage).listeners[j]? = some l ∧ l.stage = .queued := by
  rw [getElem?_setStage, h.waiting]
  by_cases hj : i = j
  · subst hj
    simp [hl, hstage]
  · simp [hj, Ne.symm hj]

/-- A listener that gives its permit up leaves it free. -/
lemma giveUp (hholds : l.stage = .accepting) {stage : ListenerStage} (hqueued : stage ≠ .queued)
    (hstage : stage ≠ .accepting) : ((g.setStage i stage).release).Sound limit := by
  have hnew : i ∉ g.queue := h.not_mem_queue hl (by simp [hholds])
  refine ⟨?_, h.queue, fun j => ?_, h.arrivals, h.numbered⟩
  · have hheld := heldByListeners_setStage hl stage
    simp only [hholds, hstage, if_true, if_false] at hheld
    have hbalance := h.balance
    change g.free + 1 + (g.setStage i stage).heldByListeners + g.heldByArrivals = limit
    omega
  · refine Iff.trans ?_ (h.waiting_setStage hl hqueued j)
    exact (and_iff_left_of_imp fun (hj : j ∈ g.queue) (hji : j = i) => hnew (hji ▸ hj)).symm

/-- A listener without a permit may be dropped, also while it waits for one. -/
lemma drop (hstage : l.stage ≠ .accepting) :
    ({ g.setStage i .ended with queue := g.queue.filter (· ≠ i) } : Gate).Sound limit := by
  refine ⟨?_, h.queue.filter _, fun j => ?_, h.arrivals, h.numbered⟩
  · have hheld := heldByListeners_setStage hl .ended
    have hbalance := h.balance
    simp only [hstage, reduceCtorEq, if_false] at hheld
    change g.free + (g.setStage i .ended).heldByListeners + g.heldByArrivals = limit
    omega
  · refine Iff.trans ?_ (h.waiting_setStage hl (by simp) j)
    simp

/-- A listener that does not wait for a permit may come to ask for one; that of a listener which
had one is then to be found elsewhere. -/
lemma ask (hstage : l.stage ≠ .queued) :
    (g.ask i).free + (g.ask i).heldByListeners + (g.ask i).heldByArrivals +
        (if l.stage = .accepting then 1 else 0) = limit ∧
      (g.ask i).queue.Nodup ∧
      ∀ j, j ∈ (g.ask i).queue ↔ ∃ l, (g.ask i).listeners[j]? = some l ∧ l.stage = .queued := by
  have hqueue : (g.ask i).queue = g.queue ++ [i] := rfl
  have hlisteners : (g.ask i).listeners = (g.setStage i .queued).listeners := rfl
  have hnew : i ∉ g.queue := h.not_mem_queue hl hstage
  refine ⟨?_, ?_, fun j => ?_⟩
  · have hheld := heldByListeners_setStage hl .queued
    have hbalance := h.balance
    change g.free + (g.setStage i .queued).heldByListeners + g.heldByArrivals + _ = limit
    simp only [reduceCtorEq, if_false] at hheld
    omega
  · rw [hqueue, ← List.concat_eq_append]
    exact h.queue.concat hnew
  · rw [hqueue, hlisteners, List.mem_append, List.mem_singleton, h.waiting, getElem?_setStage]
    by_cases hj : i = j
    · subst hj
      simp [hl]
    · simp [hj, Ne.symm hj]

/-- A listener hands its permit to the connection that it accepted. -/
lemma letIn (hholds : l.stage = .accepting) (a : Arrival) : ((g.ask i).enter a).Sound limit := by
  obtain ⟨hbalance, hqueue, hwaiting⟩ := h.ask hl (by simp [hholds])
  have hkeys : ((g.ask i).enter a).arrivals.keys = g.arrivals.keys ++ [g.nextArrival] :=
    h.keys_enter a
  refine ⟨?_, hqueue, hwaiting, Table.nodup_keys_put h.arrivals _ _, fun n hn => ?_⟩
  · rw [hholds, if_pos rfl, heldByArrivals_eq] at hbalance
    rw [heldByArrivals_eq, hkeys, List.length_append, List.length_singleton]
    exact hbalance
  · rw [hkeys, List.mem_append, List.mem_singleton] at hn
    change n < g.nextArrival + 1
    rcases hn with hn | rfl
    · exact (h.numbered n hn).trans (Nat.lt_succ_self _)
    · exact Nat.lt_succ_self _

end Listener

variable (h : g.Sound limit)
include h

/-- A new listener waits for its first permit. -/
lemma join (port : Port) (loop : EventLoop) : (g.join port loop).Sound limit := by
  have hqueue : (g.join port loop).queue = g.queue ++ [g.listeners.length] := rfl
  have hlisteners : (g.join port loop).listeners = g.listeners ++ [⟨port, loop, .queued⟩] := rfl
  have hnew : g.listeners.length ∉ g.queue := by
    rw [h.waiting]
    simp
  refine ⟨?_, ?_, fun j => ?_, h.arrivals, h.numbered⟩
  · have hheld : (g.join port loop).heldByListeners = g.heldByListeners := by
      simp [heldByListeners, hlisteners]
    rw [hheld]
    exact h.balance
  · rw [hqueue, ← List.concat_eq_append]
    exact h.queue.concat hnew
  · rw [hqueue, hlisteners, List.mem_append, List.mem_singleton, h.waiting, List.getElem?_append]
    by_cases hj : j < g.listeners.length
    · simp [hj, hj.ne]
    · rw [if_neg hj]
      by_cases hlast : j = g.listeners.length
      · simp [hlast]
      · obtain ⟨k, hk⟩ : ∃ k, j - g.listeners.length = k + 1 := ⟨_, (Nat.succ_pred (by omega)).symm⟩
        simp [hlast, hk, List.getElem?_eq_none (not_lt.mp hj)]

/-- The longest waiting listener gets a permit that is free. -/
lemma grant {free : Nat} {rest : List Nat} (hfree : g.free = free + 1)
    (hqueue : g.queue = i :: rest) :
    (({ g with free, queue := rest } : Gate).setStage i .accepting).Sound limit := by
  obtain ⟨l, hl, hstage⟩ := (h.waiting i).mp (by simp [hqueue])
  have hnodup : i ∉ rest ∧ rest.Nodup := List.nodup_cons.mp (hqueue ▸ h.queue)
  refine ⟨?_, hnodup.2, fun j => ?_, h.arrivals, h.numbered⟩
  · have hheld := heldByListeners_setStage hl .accepting
    have hbalance := h.balance
    simp only [hstage, reduceCtorEq, if_false, if_true] at hheld
    change free + (g.setStage i .accepting).heldByListeners + g.heldByArrivals = limit
    omega
  · refine Iff.trans ?_ (h.waiting_setStage hl (by simp) j)
    rw [hqueue, List.mem_cons]
    constructor
    · exact fun hj => ⟨.inr hj, fun hji => hnodup.1 (hji ▸ hj)⟩
    · exact fun ⟨hj, hji⟩ => hj.resolve_left hji

/-- The permit of a connection that is let go of is free. -/
lemma settle {a : Arrival} (ha : g.arrivals.get? n = some a) (next : Option Arrival) :
    (g.settle n next).Sound limit := by
  have hmem := mem_keys_of_get? ha
  have hbalance := h.balance
  rw [heldByArrivals_eq] at hbalance
  cases next with
  | some a' =>
    have hkeys : (g.settle n (some a')).arrivals.keys = g.arrivals.keys := by
      rw [Gate.settle, Table.keys_put, if_pos hmem]
    refine ⟨?_, h.queue, h.waiting, hkeys ▸ h.arrivals, hkeys ▸ h.numbered⟩
    rw [heldByArrivals_eq, hkeys]
    exact hbalance
  | none =>
    have hkeys : (g.settle n none).arrivals.keys = g.arrivals.keys.erase n := by
      rw [Gate.settle, forget, release, Table.keys_erase, h.arrivals.erase_eq_filter]
      exact List.filter_congr fun k _ => decide_not
    have hpos := List.length_pos_of_mem hmem
    refine ⟨?_, h.queue, h.waiting, hkeys ▸ h.arrivals.erase n, fun k hk => ?_⟩
    · rw [heldByArrivals_eq, hkeys, List.length_erase_of_mem hmem]
      change g.free + 1 + g.heldByListeners + (g.arrivals.keys.length - 1) = limit
      omega
    · exact h.numbered k (List.mem_of_mem_erase (hkeys ▸ hk))

/-- No step makes or loses a permit. -/
theorem step (e : Event) : (g.step e).1.Sound limit := by
  have hmove := g.move_step e
  generalize g.step e = r at hmove
  cases hmove with
  | stay => exact h
  | join port loop => exact h.join port loop
  | grant free i rest some queue => exact h.grant some queue
  | quit i l listener stage => exact h.giveUp listener stage (by simp) (by simp)
  | letIn i l listener stage => exact h.letIn listener stage _
  | bounce i l listener stage =>
    obtain ⟨hbalance, hqueue, hwaiting⟩ := h.ask listener (by simp [stage])
    refine ⟨?_, hqueue, hwaiting, h.arrivals, h.numbered⟩
    rw [stage, if_pos rfl] at hbalance
    change (g.ask i).free + 1 + (g.ask i).heldByListeners + (g.ask i).heldByArrivals = limit
    omega
  | pause i l listener stage => exact h.giveUp listener stage (by simp) (by simp)
  | resume i l listener stage =>
    obtain ⟨hbalance, hqueue, hwaiting⟩ := h.ask listener (by simp [stage])
    refine ⟨?_, hqueue, hwaiting, h.arrivals, h.numbered⟩
    simpa [stage] using hbalance
  | dropHolder i l listener stage =>
    -- a listener with a permit is not queued, so taking it out of the queue changes nothing
    have hnew : i ∉ g.queue := h.not_mem_queue listener (by simp [stage])
    have hqueue : g.queue.filter (· ≠ i) = g.queue :=
      List.filter_eq_self.mpr fun j hj => decide_eq_true fun hji => hnew (hji ▸ hj)
    rw [hqueue]
    exact h.giveUp listener stage (by simp) (by simp)
  | dropOther i l listener stage => exact h.drop listener stage
  | visit _ n a next _ about arrival goes => exact h.settle arrival next

end Sound

/-- Along every run the permits add up. -/
theorem sound_run (engine : Engine) (limit : Nat) (es : List Event) :
    ((start engine limit).run es).1.Sound limit := by
  induction es using List.reverseRecOn with
  | nil => exact sound_start engine limit
  | append_singleton es e ih =>
    rw [run_concat]
    exact ih.step e

end Gate

end Switchboard.Tcp
