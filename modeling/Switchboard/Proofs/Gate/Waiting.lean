import Switchboard.Proofs.Gate.Permits

/-!
# Waiting for a permit

A listener takes its permit before it has a connection to give it to.  With one port this makes no
difference: its listener waits for a permit only while connections have them all.  With several
ports it does, as a listener that nobody connects to keeps a permit for the connection that does not
come.  What a listener waits for is then that all permits are with connections *or with other
listeners* (`Gate.waiting_listeners`), and `Gate.idle_listener_in_the_way` is a listener that waits
although there is no connection.

It may wait for as long as nobody connects to the others: with more ports than permits, the
listeners that came first have them all, and no client of the others is let in until one of the
first ports has a client (`Gate.idle_listeners_starve`).
-/

namespace Switchboard.Tcp

namespace Gate

variable {g : Gate} {limit k : Nat}

/-! ### What a waiting listener waits for -/

/-- A listener that does not accept leaves less permits to the listeners than there are of them. -/
lemma heldByListeners_lt {i : Nat} {l : Listener} (hl : g.listeners[i]? = some l)
    (hstage : l.stage ≠ .accepting) : g.heldByListeners < g.listeners.length := by
  refine lt_of_le_of_ne List.countP_le_length fun hall => ?_
  have haccepting := List.countP_eq_length.mp hall l (List.mem_of_getElem? hl)
  exact hstage (by simpa using haccepting)

/-- The listeners have no permit if none of them accepts. -/
lemma heldByListeners_eq_zero_iff :
    g.heldByListeners = 0 ↔ ∀ l ∈ g.listeners, l.stage ≠ .accepting := by
  simp [heldByListeners, List.countP_eq_zero]

/-- Whatever happens to the listeners of a manager and to the connections they let in: a listener
that waits for a permit is queued.  If a permit is free, the next thing is that the listener which
has waited longest gets it.  If none is, the permits are with the connections and with listeners
that have none yet, of which there are less than listeners; all of them are with connections exactly
if no listener idles, as is the case for a manager with one port. -/
theorem waiting_listeners (engine : Engine) (limit : Nat) (es : List Event) (i : Nat) (l : Listener)
    (listener : ((start engine limit).run es).1.listeners[i]? = some l)
    (waits : l.stage = .queued) :
    let g := ((start engine limit).run es).1
    i ∈ g.queue ∧
      (0 < g.free → ∃ j rest lj, g.queue = j :: rest ∧ g.listeners[j]? = some lj ∧
        (g.step .grant).1.listeners[j]? = some { lj with stage := .accepting }) ∧
      (g.free = 0 → g.heldByArrivals + g.heldByListeners = limit ∧
        g.heldByListeners < g.listeners.length ∧
        (g.heldByArrivals = limit ↔ ∀ l ∈ g.listeners, l.stage ≠ .accepting) ∧
        (g.listeners.length = 1 → g.heldByArrivals = limit)) := by
  intro g
  have hsound : g.Sound limit := sound_run engine limit es
  have hqueued : i ∈ g.queue := (hsound.waiting i).mpr ⟨l, listener, waits⟩
  have hbalance := hsound.balance
  refine ⟨hqueued, fun hfree => ?_, fun hnone => ?_⟩
  · obtain ⟨free, hfree⟩ : ∃ free, g.free = free + 1 := ⟨_, (Nat.succ_pred hfree.ne').symm⟩
    obtain ⟨j, rest, hqueue⟩ := List.exists_cons_of_ne_nil (List.ne_nil_of_mem hqueued)
    obtain ⟨lj, hlj, -⟩ := (hsound.waiting j).mp (by simp [hqueue])
    refine ⟨j, rest, lj, hqueue, hlj, ?_⟩
    have hgrant : (g.step .grant).1 =
        ({ g with free, queue := rest } : Gate).setStage j .accepting := by
      simp [step, grant, hfree, hqueue]
    rw [hgrant, getElem?_setStage, if_pos rfl]
    simp [hlj]
  · have hfewer : g.heldByListeners < g.listeners.length :=
      heldByListeners_lt listener (by simp [waits])
    have hidle : g.heldByArrivals = limit ↔ g.heldByListeners = 0 := by omega
    exact ⟨by omega, hfewer, hidle.trans heldByListeners_eq_zero_iff, fun hone => by omega⟩

/-- One permit and two ports: the second listener waits for the permit that the first one has, until
that one lets a client in, whose permit it waits for then. -/
theorem waiting_listeners_two_ports :
    let idle : List Event := [.join 80 ⟨0, 0⟩, .join 81 ⟨0, 0⟩, .grant]
    let busy : List Event := idle ++ [.accept 0 (some ⟨0, 0⟩) true]
    let g := ((start { loops := ⟨0⟩ } 1).run idle).1
    let g' := ((start { loops := ⟨0⟩ } 1).run busy).1
    (g.heldByArrivals + g.heldByListeners = 1 ∧ ¬ g.heldByArrivals = 1) ∧
      g'.heldByArrivals = 1 := by
  intro idle busy g g'
  have hidle : g.listeners[1]? = some ⟨81, ⟨0, 0⟩, .queued⟩ := by decide +kernel
  have hbusy : g'.listeners[1]? = some ⟨81, ⟨0, 0⟩, .queued⟩ := by decide +kernel
  obtain ⟨-, -, hnone⟩ := waiting_listeners { loops := ⟨0⟩ } 1 idle 1 _ hidle rfl
  obtain ⟨-, -, hnone'⟩ := waiting_listeners { loops := ⟨0⟩ } 1 busy 1 _ hbusy rfl
  obtain ⟨hsum, -, hiff, -⟩ := hnone (by decide +kernel)
  obtain ⟨-, -, hiff', -⟩ := hnone' (by decide +kernel)
  refine ⟨⟨hsum, fun hall => ?_⟩, hiff'.mpr (by decide +kernel)⟩
  exact hiff.mp hall ⟨80, ⟨0, 0⟩, .accepting⟩ (by decide +kernel) rfl

/-! ### Idle listeners in the way -/

/-- The listeners of some ports come to their loop, and permits are given out. -/
def opening (ports : List Port) (loop : EventLoop) (permits : Nat) : List Event :=
  ports.map (.join · loop) ++ List.replicate permits .grant

/-- A gate after that, if there are as many permits and ports. -/
def opened (engine : Engine) (limit : Nat) (ports : List Port) (loop : EventLoop) (permits : Nat) :
    Gate where
  engine := engine
  free := limit - permits
  listeners := ports.mapIdx fun i port =>
    ⟨port, loop, if i < permits then .accepting else .queued⟩
  queue := (List.range ports.length).drop permits

lemma run_joins (engine : Engine) (limit : Nat) (ports : List Port) (loop : EventLoop) :
    ((start engine limit).run (ports.map (.join · loop))).1 = opened engine limit ports loop 0 := by
  induction ports using List.reverseRecOn with
  | nil => rfl
  | append_singleton ports port ih =>
    rw [List.map_append, List.map_singleton, run_concat, ih]
    simp [step, join, opened, List.mapIdx_append, List.range_succ]

/-- The longest waiting listener is given a permit. -/
lemma grant_opened (engine : Engine) {limit : Nat} {ports : List Port} (loop : EventLoop)
    {k : Nat} (hports : k < ports.length) (hlimit : k < limit) :
    (opened engine limit ports loop k).grant = opened engine limit ports loop (k + 1) := by
  have hfree : (opened engine limit ports loop k).free = limit - (k + 1) + 1 := by
    simp only [opened]
    omega
  have hqueue : (opened engine limit ports loop k).queue =
      k :: (List.range ports.length).drop (k + 1) := by
    simp [opened, List.drop_eq_getElem_cons (l := List.range ports.length) (by simpa using hports)]
  have hlisteners : (opened engine limit ports loop k).listeners.modify k
      (fun l => { l with stage := .accepting }) =
        (opened engine limit ports loop (k + 1)).listeners := by
    refine List.ext_getElem? fun i => ?_
    simp only [opened, List.getElem?_modify, List.getElem?_mapIdx]
    by_cases hk : k = i
    · subst hk
      simp [Function.comp_def]
    · have hlt : i < k ↔ i < k + 1 := by omega
      simp [hk, hlt]
  unfold grant
  rw [hfree, hqueue]
  simp only [setStage, hlisteners]
  rfl

lemma run_opening (engine : Engine) {limit : Nat} {ports : List Port} (loop : EventLoop)
    (hports : k ≤ ports.length) (hlimit : k ≤ limit) :
    ((start engine limit).run (opening ports loop k)).1 = opened engine limit ports loop k := by
  induction k with
  | zero => simpa [opening] using run_joins engine limit ports loop
  | succ k ih =>
    have hlast : opening ports loop (k + 1) = opening ports loop k ++ [.grant] := by
      simp [opening, List.replicate_succ']
    rw [hlast, run_concat, ih (by omega) (by omega)]
    exact grant_opened engine loop hports hlimit

/-- An event that leaves the first listeners alone: nobody comes to them and they are not
dropped. -/
def Event.Spares (k : Nat) : Event → Prop
  | .accept i _ _ | .acceptFailed i _ | .dropListener i => k ≤ i
  | _ => True

/-- The first listeners have all permits, and there is no connection. -/
structure Starved (k : Nat) (g : Gate) : Prop where
  /-- No permit is free. -/
  free : g.free = 0
  /-- There is no connection. -/
  arrivals : g.arrivals = []
  /-- The first listeners accept. -/
  idle : ∀ i < k, ∃ l, g.listeners[i]? = some l ∧ l.stage = .accepting
  /-- The others do not. -/
  waiting : ∀ i l, k ≤ i → g.listeners[i]? = some l → l.stage ≠ .accepting

lemma starved_opened (engine : Engine) {ports : List Port} (loop : EventLoop)
    (hports : k ≤ ports.length) : (opened engine k ports loop k).Starved k where
  free := Nat.sub_self k
  arrivals := rfl
  idle i hi := by
    have hi' : i < ports.length := hi.trans_le hports
    exact ⟨⟨ports[i], loop, .accepting⟩, by simp [opened, hi, hi'], rfl⟩
  waiting i l hi hl := by
    obtain ⟨port, -, rfl⟩ : ∃ port, ports[i]? = some port ∧ ⟨port, loop, .queued⟩ = l := by
      simpa [opened, hi.not_gt] using hl
    simp

/-- A listener that moves on without a permit takes none from the first ones. -/
lemma Starved.setStage (h : g.Starved k) {i : Nat} (hi : k ≤ i) {stage : ListenerStage}
    (hstage : stage ≠ .accepting) {g' : Gate} (hfree : g'.free = g.free)
    (harrivals : g'.arrivals = g.arrivals)
    (hlisteners : g'.listeners = (g.setStage i stage).listeners) : g'.Starved k := by
  refine ⟨hfree ▸ h.free, harrivals ▸ h.arrivals, fun j hj => ?_, fun j l hj hl => ?_⟩
  · rw [hlisteners, getElem?_setStage, if_neg (by omega)]
    exact h.idle j hj
  · rw [hlisteners, getElem?_setStage] at hl
    split at hl
    · obtain ⟨l', -, rfl⟩ := Option.map_eq_some_iff.mp hl
      exact hstage
    · exact h.waiting j l hj hl

/-- As long as the first listeners are left alone they keep all permits. -/
lemma Starved.step (h : g.Starved k) {e : Event} (hspares : e.Spares k) :
    (g.step e).1.Starved k := by
  have habsurd {i : Nat} {l : Listener} (hi : k ≤ i) (hl : g.listeners[i]? = some l)
      (hstage : l.stage = .accepting) : False := h.waiting i l hi hl hstage
  have hbehind {i : Nat} {l : Listener} (hl : g.listeners[i]? = some l)
      (hstage : l.stage ≠ .accepting) : k ≤ i := by
    by_contra hi
    obtain ⟨l', hl', haccepting⟩ := h.idle i (not_le.mp hi)
    exact hstage (Option.some.inj (hl.symm.trans hl') ▸ haccepting)
  have hmove := g.move_step e
  generalize g.step e = r at hmove
  cases hmove with
  | stay => exact h
  | join port loop =>
    have hmany : k ≤ g.listeners.length := by
      by_contra hfew
      obtain ⟨l, hl, -⟩ := h.idle g.listeners.length (not_le.mp hfew)
      simp at hl
    refine ⟨h.free, h.arrivals, fun i hi => ?_, fun i l hi hl => ?_⟩
    · obtain ⟨l, hl, hstage⟩ := h.idle i hi
      exact ⟨l, (List.getElem?_append_left (hi.trans_le hmany)).trans hl, hstage⟩
    · change (g.listeners ++ [(⟨port, loop, .queued⟩ : Listener)])[i]? = some l at hl
      rcases lt_or_ge i g.listeners.length with hold | hnew
      · exact h.waiting i l hi ((List.getElem?_append_left hold).symm.trans hl)
      · rw [List.getElem?_append_right hnew, List.getElem?_singleton] at hl
        split at hl
        · obtain rfl := Option.some.inj hl
          simp
        · cases hl
  | grant free i rest some => simp [h.free] at some
  -- who accepts has a permit and is spared, as only the first listeners have permits
  | quit i l listener stage => exact (habsurd hspares listener stage).elim
  | letIn i l listener stage => exact (habsurd hspares listener stage).elim
  | bounce i l listener stage => exact (habsurd hspares listener stage).elim
  | pause i l listener stage => exact (habsurd hspares listener stage).elim
  | resume i l listener stage =>
    exact h.setStage (hbehind listener (by simp [stage])) (by simp) rfl rfl rfl
  | dropHolder i l listener stage => exact (habsurd hspares listener stage).elim
  | dropOther i l listener stage =>
    exact h.setStage (hbehind listener stage) (by simp) rfl rfl rfl
  | visit _ n a next _ about arrival => simp [h.arrivals] at arrival

/-- A manager with more ports than permits: once its listeners have come to their loop and the
permits are given out, and as long as nobody connects to the first ports, there is no connection,
and no client of another port is let in. -/
theorem idle_listeners_starve (engine : Engine) (limit : Nat) (ports : List Port) (loop : EventLoop)
    (hports : limit ≤ ports.length) (es : List Event) (hspares : ∀ e ∈ es, e.Spares limit) :
    let g := ((start engine limit).run (opening ports loop limit ++ es)).1
    g.Starved limit ∧
      ∀ i, limit ≤ i → ∀ target detached, g.step (.accept i target detached) = (g, []) := by
  intro g
  have hstarved : g.Starved limit := by
    induction es using List.reverseRecOn with
    | nil =>
      have hopened := run_opening engine loop hports le_rfl
      simpa [g, hopened] using starved_opened engine loop hports
    | append_singleton es e ih =>
      have hbefore := ih fun e' he' => hspares e' (by simp [he'])
      simp only [g, ← List.append_assoc, run_concat]
      exact hbefore.step (hspares e (by simp))
  refine ⟨hstarved, fun i hi target detached => ?_⟩
  cases hl : g.listeners[i]? with
  | none => simp [step, accept, hl]
  | some l => simp [step, accept, hl, hstarved.waiting i l hi hl]

/-- One permit and two ports: the first listener has the permit, the second one waits, and there is
no connection. -/
theorem idle_listener_in_the_way :
    let g := ((start { loops := ⟨0⟩ } 1).run (opening [80, 81] ⟨0, 0⟩ 1)).1
    g.listeners[1]? = some ⟨81, ⟨0, 0⟩, .queued⟩ ∧ g.queue = [1] ∧ g.free = 0 ∧
      g.heldByArrivals = 0 ∧ g.heldByArrivals ≠ 1 ∧
      ∀ target detached, g.step (.accept 1 target detached) = (g, []) := by
  intro g
  have hlistener : g.listeners[1]? = some ⟨81, ⟨0, 0⟩, .queued⟩ := by decide +kernel
  refine ⟨hlistener, by decide +kernel, by decide +kernel, by decide +kernel, by decide +kernel,
    fun target detached => ?_⟩
  simp [step, accept, hlistener]

end Gate

end Switchboard.Tcp
