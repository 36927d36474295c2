import Switchboard.Loop.Interleaving
import Switchboard.Proofs.History
import Switchboard.Proofs.Manager.Loops

/-!
# Cells under many hands

A manager of streams and one of datagrams keep the same three cells (`Cells`), and their starts and
stops go the same ways with them.  What a call has still to do to them is its `Duty`: a start that
has started the loops will make its engine known or clear the cells again, and a stop that has taken
the engine away will clear the other two.  `Turn` lists what one step of a call does to both.

`Interleaving.Settling` is what holds between the cells and the duties of all calls, whatever the
order in which they go on (`Interleaving.settling_run`).  Loops and ports without an engine have
somebody who will see to them.  An engine without loops comes about in one way only: it was
*belated*, that is, it was made known when the loops had been stopped already, or when a stop was
about to stop them that had found no engine to take away.
-/

namespace Switchboard

/-- The cells of a manager. -/
structure Cells where
  /-- Whether there is an engine. -/
  running : Bool
  /-- The loops. -/
  pool : LoopPool
  /-- The ports that are listed. -/
  ports : List Port

namespace Cells

/-- Whether there are loops in use. -/
def live (c : Cells) : Bool := c.pool.selector?.isSome

/-- Whether a port is listed. -/
def listed (c : Cells) : Bool := !c.ports.isEmpty

end Cells

/-- What a call has still to do to the cells. -/
inductive Duty where
  /-- It has started the loops, and will make an engine known or clear the cells. -/
  | launching
  /-- It has no engine to make known, and will stop the loops and clear the list of ports if so. -/
  | clearing (loops ports : Bool)
  deriving DecidableEq

namespace Duty

/-- A call that has nothing to do to the cells, be it that it has not begun to or that it is
over. -/
abbrev idle : Duty := clearing false false

/-- The call will see to the loops. -/
def mindsLoops : Duty → Bool
  | launching => true
  | clearing loops _ => loops

/-- The call will see to the list of ports. -/
def mindsPorts : Duty → Bool
  | launching => true
  | clearing _ ports => ports

/-- The call will stop the loops, without looking for an engine again. -/
def stopsLoops : Duty → Bool
  | launching => false
  | clearing loops _ => loops

end Duty

/-- What one step of a call does to its duty and to the cells; the flag tells whether it makes an
engine known. -/
inductive Turn : Bool → Duty → Cells → Duty → Cells → Prop where
  /-- Nothing that can be seen. -/
  | rest (d : Duty) (c : Cells) : Turn false d c d c
  /-- It starts the loops. -/
  | launch (c : Cells) (count : Nat) (start : Nat → Except SystemError Unit) (pool : LoopPool)
      (started : c.pool.init count start = (.ok (), pool)) :
      Turn false .idle c .launching { c with pool }
  /-- It deals out a loop. -/
  | deal (c : Cells) (s : LoopSelector) :
      Turn false .launching c .launching { c with pool := (c.pool.next s).2 }
  /-- It lists a port. -/
  | list (c : Cells) (port : Port) :
      Turn false .launching c .launching { c with ports := c.ports ++ [port] }
  /-- It makes its engine known. -/
  | publish (c : Cells) : Turn true .launching c .idle { c with running := true }
  /-- It takes the engine away. -/
  | clear (d : Duty) (c : Cells) (ready : d = .idle ∨ d = .launching) :
      Turn false d c (.clearing true true) { c with running := false }
  /-- It stops the loops. -/
  | stop (c : Cells) (ports : Bool) :
      Turn false (.clearing true ports) c (.clearing false ports) { c with pool := c.pool.exit }
  /-- It clears the list of ports. -/
  | unlist (c : Cells) (loops : Bool) :
      Turn false (.clearing loops true) c (.clearing loops false) { c with ports := [] }

/-- There is an engine only if one is made known or there was one. -/
lemma Turn.running {publishes : Bool} {d d' : Duty} {c c' : Cells}
    (hturn : Turn publishes d c d' c') (h : c'.running = true) :
    publishes = true ∨ c.running = true := by
  cases hturn with
  | publish => exact .inl rfl
  | clear => cases h
  | _ => exact .inr h

/-- The loops in use run, whatever a call does. -/
lemma Turn.sound {publishes : Bool} {d d' : Duty} {c c' : Cells} (hturn : Turn publishes d c d' c')
    (h : c.pool.Sound) : c'.pool.Sound := by
  cases hturn with
  | launch _ count start pool started =>
    have hinit := h.init count start
    rwa [started] at hinit
  | deal _ s => exact h.next s
  | stop => exact LoopPool.sound_exit _
  | _ => exact h

namespace Interleaving

variable {σ κ : Type}

/-! ### Whole runs -/

/-- A run is an iteration of steps. -/
lemma run_eq_iterate (go : κ → σ → κ × Noted σ) (x : Interleaving σ κ) (es : List (Event κ)) :
    x.run go es = Noted.iterate (step go) x es := by
  induction es generalizing x with
  | nil => rfl
  | cons e es ih => simp [run, Noted.iterate, Noted.andThen, ih]

/-- The state after one more event. -/
lemma run_concat (go : κ → σ → κ × Noted σ) (x : Interleaving σ κ) (es : List (Event κ))
    (e : Event κ) : (x.run go (es ++ [e])).1 = ((x.run go es).1.step go e).1 := by
  simp only [run_eq_iterate, Noted.iterate_concat]

/-- If every call keeps to something as long as the shared state is right, and leaves it right, then
all do so in whatever order they go on. -/
lemma keeps_run {go : κ → σ → κ × Noted σ} {good : κ → Prop} {right : σ → Prop}
    (hstep : ∀ call s, good call → right s → good (go call s).1 ∧ right (go call s).2.1)
    {x : Interleaving σ κ} (hcalls : ∀ call ∈ x.calls, good call) (hshared : right x.shared)
    (es : List (Event κ)) (hbegun : ∀ call, .start call ∈ es → good call) :
    (∀ call ∈ (x.run go es).1.calls, good call) ∧ right (x.run go es).1.shared := by
  induction es using List.reverseRecOn with
  | nil => exact ⟨hcalls, hshared⟩
  | append_singleton es e ih =>
    obtain ⟨hbefore, hright⟩ := ih fun call hcall => hbegun call (List.mem_append_left _ hcall)
    rw [run_concat]
    cases e with
    | start call =>
      refine ⟨fun call' hmem => ?_, hright⟩
      rcases List.mem_append.mp hmem with hold | hnew
      · exact hbefore call' hold
      · exact List.mem_singleton.mp hnew ▸ hbegun call (by simp)
    | advance i =>
      simp only [step]
      split
      · exact ⟨hbefore, hright⟩
      · rename_i call hcall
        obtain ⟨hgood, hright'⟩ := hstep call _ (hbefore call (List.mem_of_getElem? hcall)) hright
        refine ⟨fun call' hmem => ?_, hright'⟩
        rcases List.mem_or_eq_of_mem_set hmem with hold | rfl
        · exact hbefore call' hold
        · exact hgood

/-! ### How the calls of a manager are seen -/

/-- What is seen of a shared state and of the calls that work on it. -/
structure View (σ κ : Type) where
  /-- The cells. -/
  cells : σ → Cells
  /-- What a call has still to do. -/
  duty : κ → Duty
  /-- Whether the next step of a call makes an engine known. -/
  publishes : κ → Bool

/-- Every step of a call is one of the turns. -/
def View.Abides (v : View σ κ) (go : κ → σ → κ × Noted σ) : Prop :=
  ∀ call s, Turn (v.publishes call) (v.duty call) (v.cells s) (v.duty (go call s).1)
    (v.cells (go call s).2.1)

variable (v : View σ κ) (go : κ → σ → κ × Noted σ)

/-- An engine that is made known now is belated: there are no loops any more, or a stop is about to
stop them. -/
def tooLate (x : Interleaving σ κ) : Bool :=
  !(v.cells x.shared).live || x.calls.any fun call => (v.duty call).stopsLoops

/-- Whether the engine that was made known last is belated, given whether it was before an event. -/
def mark (x : Interleaving σ κ) (late : Bool) : Event κ → Bool
  | .start _ => late
  | .advance i =>
    match x.calls[i]? with
    | none => late
    | some call => if v.publishes call then x.tooLate v else late

/-- Whether the engine that was made known last over a sequence of events was belated. -/
def belated (x : Interleaving σ κ) (late : Bool) : List (Event κ) → Bool
  | [] => late
  | e :: es => belated (x.step go e).1 (x.mark v late e) es

lemma belated_concat (x : Interleaving σ κ) (late : Bool) (es : List (Event κ)) (e : Event κ) :
    x.belated v go late (es ++ [e]) = (x.run go es).1.mark v (x.belated v go late es) e := by
  induction es generalizing x late with
  | nil => rfl
  | cons e' es ih => exact ih (x.step go e').1 (x.mark v late e')

/-! ### What holds between the cells and the duties -/

/-- What holds between the cells and what the calls have still to do to them. -/
structure Settling (late : Bool) (c : Cells) (ds : List Duty) : Prop where
  /-- Loops without an engine will be seen to. -/
  loops : c.live = true → c.running = true ∨ ∃ d ∈ ds, d.mindsLoops = true
  /-- Listed ports without an engine will be seen to. -/
  ports : c.listed = true → c.running = true ∨ ∃ d ∈ ds, d.mindsPorts = true
  /-- An engine that was known in time has loops, which nobody is about to stop. -/
  timely : c.running = true → late = false → c.live = true ∧ ∀ d ∈ ds, d.stopsLoops = false
  /-- The loops beside a belated engine will be seen to. -/
  belated : c.running = true → late = true → c.live = true → ∃ d ∈ ds, d.mindsLoops = true

/-- A duty that someone has is still someone's when one call's duty changes, unless that call alone
had it. -/
lemma exists_mem_set {ds : List Duty} {i : Nat} {d d' : Duty} (hd : ds[i]? = some d)
    {P : Duty → Bool} (hP : P d = true → P d' = true) (h : ∃ x ∈ ds, P x = true) :
    ∃ x ∈ ds.set i d', P x = true := by
  obtain ⟨hi, rfl⟩ := List.getElem?_eq_some_iff.mp hd
  obtain ⟨x, hx, hPx⟩ := h
  obtain ⟨j, hj, rfl⟩ := List.getElem_of_mem hx
  by_cases hij : i = j
  · subst hij
    exact ⟨d', List.mem_set hi d', hP hPx⟩
  · refine ⟨ds[j], ?_, hPx⟩
    exact List.mem_of_getElem? ((List.getElem?_set_ne hij).trans (List.getElem?_eq_getElem hj))

/-- No turn of a call breaks what holds, if an engine it makes known is marked by whether it is
belated. -/
lemma Settling.turn {late : Bool} {c c' : Cells} {ds : List Duty} (h : Settling late c ds) {i : Nat}
    {d d' : Duty} (hd : ds[i]? = some d) {publishes : Bool} (hturn : Turn publishes d c d' c') :
    Settling (if publishes then !c.live || ds.any Duty.stopsLoops else late) c' (ds.set i d') := by
  obtain ⟨hi, hget⟩ := List.getElem?_eq_some_iff.mp hd
  have hmem : d ∈ ds := List.mem_of_getElem? hd
  have hmem' : d' ∈ ds.set i d' := List.mem_set hi d'
  have hnone (hall : ∀ x ∈ ds, x.stopsLoops = false) (hd' : d'.stopsLoops = false) :
      ∀ x ∈ ds.set i d', x.stopsLoops = false := fun x hx =>
    (List.mem_or_eq_of_mem_set hx).elim (hall x) (· ▸ hd')
  cases hturn with
  | rest =>
    rw [← hget, List.set_getElem_self]
    exact h
  | launch _ _ _ _ started =>
    refine ⟨fun _ => .inr ⟨_, hmem', rfl⟩, fun hlisted => ?_, fun hrunning hlate => ?_,
      fun _ _ _ => ⟨_, hmem', rfl⟩⟩
    · exact (h.ports hlisted).imp_right (exists_mem_set hd fun _ => rfl)
    · -- beside an engine that was known in time there are loops, and no others are started
      have hlive := (h.timely hrunning hlate).1
      simp [Cells.live, (LoopPool.selector?_of_init_ok started).1] at hlive
  | deal _ s =>
    have hlive : ({ c with pool := (c.pool.next s).2 } : Cells).live = c.live := by
      simp [Cells.live]
    refine ⟨fun hloops => ?_, fun hlisted => ?_, fun hrunning hlate => ?_,
      fun hrunning hlate hloops => ?_⟩
    · exact (h.loops (hlive ▸ hloops)).imp_right (exists_mem_set hd id)
    · exact (h.ports hlisted).imp_right (exists_mem_set hd id)
    · exact ⟨hlive ▸ (h.timely hrunning hlate).1, hnone (h.timely hrunning hlate).2 rfl⟩
    · exact exists_mem_set hd id (h.belated hrunning hlate (hlive ▸ hloops))
  | list =>
    refine ⟨fun hlive => ?_, fun _ => .inr ⟨_, hmem', rfl⟩, fun hrunning hlate => ?_,
      fun hrunning hlate hlive => ?_⟩
    · exact (h.loops hlive).imp_right (exists_mem_set hd id)
    · exact ⟨(h.timely hrunning hlate).1, hnone (h.timely hrunning hlate).2 rfl⟩
    · exact exists_mem_set hd id (h.belated hrunning hlate hlive)
  | publish =>
    refine ⟨fun _ => .inl rfl, fun _ => .inl rfl, fun _ hlate => ?_, fun _ hlate hlive => ?_⟩
    · simp only [if_true, Bool.or_eq_false_iff, Bool.not_eq_false', List.any_eq_false] at hlate
      exact ⟨hlate.1, hnone (fun x hx => by simpa using hlate.2 x hx) rfl⟩
    · -- a stop that is about to stop the loops will see to them
      have hstop : ∃ x ∈ ds, x.stopsLoops = true := by
        simpa [show c.live = true from hlive] using hlate
      obtain ⟨x, hx, hstops⟩ : ∃ x ∈ ds.set i .idle, x.stopsLoops = true :=
        exists_mem_set hd (by simp [Duty.stopsLoops]) hstop
      refine ⟨x, hx, ?_⟩
      cases x with
      | launching => rfl
      | clearing loops ports => exact hstops
  | clear =>
    exact ⟨fun _ => .inr ⟨_, hmem', rfl⟩, fun _ => .inr ⟨_, hmem', rfl⟩,
      fun hno => absurd hno Bool.false_ne_true, fun hno => absurd hno Bool.false_ne_true⟩
  | stop _ ports =>
    have hstopped : ({ c with pool := c.pool.exit } : Cells).live = false := by
      simp [Cells.live]
    refine ⟨fun hno => absurd hno (by simp [hstopped]), fun hlisted => ?_,
      fun hrunning hlate => ?_, fun _ _ hno => absurd hno (by simp [hstopped])⟩
    · exact (h.ports hlisted).imp_right (exists_mem_set hd id)
    · exact absurd ((h.timely hrunning hlate).2 _ hmem) (by simp [Duty.stopsLoops])
  | unlist _ loops =>
    refine ⟨fun hlive => ?_, fun hno => absurd hno Bool.false_ne_true,
      fun hrunning hlate => ?_, fun hrunning hlate hlive => ?_⟩
    · exact (h.loops hlive).imp_right (exists_mem_set hd id)
    · obtain ⟨hlive, hall⟩ := h.timely hrunning hlate
      have hloops : loops = false := hall _ hmem
      exact ⟨hlive, hnone hall hloops⟩
    · exact exists_mem_set hd id (h.belated hrunning hlate hlive)

/-- A call that has nothing to do yet changes nothing. -/
lemma Settling.begin {late : Bool} {c : Cells} {ds : List Duty} (h : Settling late c ds) :
    Settling late c (ds ++ [.idle]) := by
  have hmore {P : Duty → Bool} (hP : ∃ d ∈ ds, P d = true) : ∃ d ∈ ds ++ [.idle], P d = true := by
    obtain ⟨d, hd, hPd⟩ := hP
    exact ⟨d, List.mem_append_left _ hd, hPd⟩
  refine ⟨fun hlive => (h.loops hlive).imp_right hmore, fun hlisted =>
    (h.ports hlisted).imp_right hmore, fun hrunning hlate => ?_, fun hrunning hlate hlive =>
    hmore (h.belated hrunning hlate hlive)⟩
  obtain ⟨hlive, hall⟩ := h.timely hrunning hlate
  refine ⟨hlive, fun d hd => ?_⟩
  rcases List.mem_append.mp hd with hd | hd
  · exact hall d hd
  · rw [List.mem_singleton.mp hd]
    rfl

/-- Calls that begin with nothing to do and abide by the turns never break what holds, in whatever
order they go on. -/
theorem settling_run {v : View σ κ} {go : κ → σ → κ × Noted σ} (habides : v.Abides go)
    {x : Interleaving σ κ} {late : Bool}
    (h : Settling late (v.cells x.shared) (x.calls.map v.duty)) (es : List (Event κ))
    (begun : ∀ call, .start call ∈ es → v.duty call = .idle) :
    Settling (x.belated v go late es) (v.cells (x.run go es).1.shared)
      ((x.run go es).1.calls.map v.duty) := by
  induction es using List.reverseRecOn with
  | nil => exact h
  | append_singleton es e ih =>
    have hbefore := ih fun call hcall => begun call (List.mem_append_left _ hcall)
    rw [belated_concat, run_concat]
    cases e with
    | start call =>
      have hidle := begun call (by simp)
      simpa [step, mark, hidle] using hbefore.begin
    | advance i =>
      cases hcall : (x.run go es).1.calls[i]? with
      | none => simpa [step, mark, hcall] using hbefore
      | some call =>
        have hduty : ((x.run go es).1.calls.map v.duty)[i]? = some (v.duty call) := by
          simp [hcall]
        have hturned := hbefore.turn hduty (habides call (x.run go es).1.shared)
        simpa [step, mark, hcall, tooLate, List.map_set, Function.comp_def, List.any_map]
          using hturned

/-- Calls that abide by the turns leave the loops that are in use running. -/
lemma sound_run {v : View σ κ} {go : κ → σ → κ × Noted σ} (habides : v.Abides go)
    {x : Interleaving σ κ} (h : (v.cells x.shared).pool.Sound) (es : List (Event κ)) :
    (v.cells (x.run go es).1.shared).pool.Sound := by
  have hstep : ∀ call s, True → (v.cells s).pool.Sound →
      True ∧ (v.cells (go call s).2.1).pool.Sound := fun call s _ hsound =>
    ⟨trivial, (habides call s).sound hsound⟩
  exact (keeps_run hstep (fun _ _ => trivial) h es fun _ _ => trivial).2

/-- What holds once no call has anything left to do. -/
lemma Settling.quiet {late : Bool} {c : Cells} {ds : List Duty} (h : Settling late c ds)
    (hidle : ∀ d ∈ ds, d = .idle) :
    (c.live = true → c.running = true) ∧ (c.running = false → c.listed = false) ∧
      (c.running = true → (c.live = true ↔ late = false)) := by
  have hnobody {P : Duty → Bool} (hP : P .idle = false) : ¬ ∃ d ∈ ds, P d = true := by
    rintro ⟨d, hd, hPd⟩
    rw [hidle d hd, hP] at hPd
    cases hPd
  refine ⟨fun hlive => ?_, fun hrunning => ?_, fun hrunning => ⟨fun hlive => ?_, fun hlate => ?_⟩⟩
  · exact (h.loops hlive).resolve_right (hnobody rfl)
  · refine Bool.eq_false_iff.mpr fun hlisted => ?_
    rcases h.ports hlisted with hno | hno
    · rw [hno] at hrunning
      cases hrunning
    · exact hnobody rfl hno
  · refine Bool.eq_false_iff.mpr fun hlate => ?_
    exact hnobody rfl (h.belated hrunning hlate hlive)
  · exact (h.timely hrunning hlate).1

end Interleaving

end Switchboard
