import Switchboard.Proofs.Connect.Requests
import Switchboard.Proofs.Manager.Turns

/-!
# Managers at rest

Starts and stops of one manager are made from several threads at once, and each goes on cell by
cell.  What a manager is like when none of them is under way follows from what
`Interleaving.Settling` says of any moment.  `Manager.at_rest` is the result for both kinds of
managers.

A manager with loops runs, and one that does not run lists no port.  But one that runs has loops
only if its engine was not belated.  A stop that goes all the way between the last look of a start
at the loops and the moment the engine is made known finds no engine to take away, and the start
goes on and succeeds: `Manager.stopped_in_between` is such a run.
-/

namespace Switchboard

/-- A manager between starts and stops, seen by its cells, given whether its engine was belated. -/
structure Cells.Quiet (late : Bool) (c : Cells) : Prop where
  /-- A manager with loops runs. -/
  running : 0 < c.pool.size → c.running = true
  /-- One that does not run lists no port. -/
  ports : c.running = false → c.ports = []
  /-- One that runs has loops unless its engine was belated. -/
  live : c.running = true → (0 < c.pool.size ↔ late = false)
  /-- None of its loops has been stopped. -/
  loops : c.pool.Sound

/-- What is seen of such a manager from outside. -/
lemma Cells.Quiet.outside {late : Bool} {c : Cells} (h : c.Quiet late) :
    (0 < c.pool.size → c.running = true ∧ ∃ s, c.pool.selector? = some s ∧ c.pool.Runs s) ∧
      (c.running = false → c.pool.size = 0 ∧ c.ports = []) ∧
      (c.running = true → (0 < c.pool.size ↔ late = false)) := by
  refine ⟨fun hsize => ⟨h.running hsize, ?_⟩, fun hstopped => ⟨?_, h.ports hstopped⟩, h.live⟩
  · obtain ⟨s, hs⟩ := Option.isSome_iff_exists.mp (h.loops.size_pos_iff.mp hsize)
    exact ⟨s, hs, h.loops s hs⟩
  · by_contra hsize
    have hruns := h.running (Nat.pos_of_ne_zero hsize)
    rw [hstopped] at hruns
    cases hruns

/-- Once every call has answered, what holds throughout makes a manager quiet. -/
lemma Interleaving.quiet_run {σ κ : Type} {v : View σ κ} {go : κ → σ → κ × Noted σ}
    (habides : v.Abides go) {x : Interleaving σ κ} (hcells : v.cells x.shared = ⟨false, {}, []⟩)
    (hcalls : x.calls = []) (es : List (Event κ))
    (begun : ∀ call, .start call ∈ es → v.duty call = .idle)
    (ended : ∀ call ∈ (x.run go es).1.calls, v.duty call = .idle) :
    Cells.Quiet (x.belated v go false es) (v.cells (x.run go es).1.shared) := by
  have hfresh : Settling false (v.cells x.shared) (x.calls.map v.duty) := by
    rw [hcells, hcalls]
    exact ⟨fun hno => absurd hno Bool.false_ne_true, fun hno => absurd hno Bool.false_ne_true,
      fun hno => absurd hno Bool.false_ne_true, fun hno => absurd hno Bool.false_ne_true⟩
  have hsound : (v.cells (x.run go es).1.shared).pool.Sound :=
    sound_run habides (hcells ▸ LoopPool.sound_empty) es
  have hsettling := settling_run habides hfresh es begun
  obtain ⟨hrunning, hports, hlive⟩ := hsettling.quiet fun d hd => by
    obtain ⟨call, hcall, rfl⟩ := List.mem_map.mp hd
    exact ended call hcall
  refine ⟨fun hsize => hrunning (hsound.size_pos_iff.mp hsize), fun hstopped => ?_,
    fun hruns => hsound.size_pos_iff.trans (hlive hruns), hsound⟩
  simpa [Cells.listed] using hports hstopped

/-- Any number of starts and stops are made of one manager, of streams or of datagrams, and go on
cell by cell in any order.  Whenever none of them is under way, a manager with loops runs and none
of its loops has been stopped, and one that does not run has no loops and lists no port.  A manager
that runs has loops if and only if the engine it has was not belated: when it was made known there
were loops, and no stop that had already been to the engine was about to stop them. -/
theorem Manager.at_rest {ω υ : Type} (streams : Tcp.System ω) (w : ω) (datagrams : Udp.System υ)
    (v : υ) :
    (∀ es : List (Interleaving.Event Tcp.Call),
        (∀ call, .start call ∈ es → (∃ config, call = Tcp.Call.start config) ∨ call = .stop) →
        let fresh : Interleaving (Tcp.Manager × ω) Tcp.Call := { shared := ({}, w) }
        let late := fresh.belated (Tcp.Call.view ω) (Tcp.Call.step streams) false es
        let x := (Tcp.Call.interleave streams fresh es).1
        let m := x.shared.1
        (∀ call ∈ x.calls, call.isOver = true) →
          (0 < m.threadCount → m.isRunning = true ∧
            ∃ s, m.pool.selector? = some s ∧ m.pool.Runs s) ∧
          (m.isRunning = false → m.threadCount = 0 ∧ m.ports = []) ∧
          (m.isRunning = true → (0 < m.threadCount ↔ late = false))) ∧
      ∀ es : List (Interleaving.Event Udp.Call),
        (∀ call, .start call ∈ es → (∃ config, call = Udp.Call.start config) ∨ call = .stop) →
        let fresh : Interleaving (Udp.Manager × υ) Udp.Call := { shared := ({}, v) }
        let late := fresh.belated (Udp.Call.view υ) (Udp.Call.step datagrams) false es
        let x := (Udp.Call.interleave datagrams fresh es).1
        let m := x.shared.1
        (∀ call ∈ x.calls, call.isOver = true) →
          (0 < m.threadCount → m.isRunning = true ∧
            ∃ s, m.pool.selector? = some s ∧ m.pool.Runs s) ∧
          (m.isRunning = false → m.threadCount = 0 ∧ m.ports = []) ∧
          (m.isRunning = true → (0 < m.threadCount ↔ late = false)) := by
  constructor
  · intro es begun fresh late x m ended
    have hquiet : Cells.Quiet late m.cells :=
      Interleaving.quiet_run (Tcp.Call.abides streams) rfl rfl es
        (fun call hcall => Tcp.Call.duty_of_begun (begun call hcall))
        fun call hcall => Tcp.Call.duty_of_isOver (ended call hcall)
    exact hquiet.outside
  · intro es begun fresh late x m ended
    have hquiet : Cells.Quiet late m.cells :=
      Interleaving.quiet_run (Udp.Call.abides datagrams) rfl rfl es
        (fun call hcall => Udp.Call.duty_of_begun (begun call hcall))
        fun call hcall => Udp.Call.duty_of_isOver (ended call hcall)
    exact hquiet.outside

/-- A start and a stop, the stop once the start has taken so many steps. -/
def Interleaving.crossing {κ : Type} (start stop : κ) (before after : Nat) :
    List (Interleaving.Event κ) :=
  .start start :: List.replicate before (.advance 0) ++
    .start stop :: List.replicate 3 (.advance 1) ++ List.replicate after (.advance 0)

/-- A manager of streams is started, then stopped, then started again. -/
def Tcp.restarting : List (Interleaving.Event Tcp.Call) :=
  Interleaving.crossing (.start { ports := [80], threadCount := 1 }) .stop 8 0 ++
    .start (.start { ports := [80], threadCount := 1 }) :: List.replicate 8 (.advance 2)

/-- A manager of datagrams is stopped when its start has looked for its ports. -/
def Udp.intervening : List (Interleaving.Event Udp.Call) :=
  Interleaving.crossing (.start { ports := [80], threadCount := 1 }) .stop 7 1

/-- The manager of streams that is started again has loops; the manager of datagrams that is stopped
while it starts has none. -/
theorem Manager.at_rest_in_turn :
    0 < (Tcp.Call.interleave .bare { shared := ({}, ()) } Tcp.restarting).1.shared.1.threadCount ∧
      ¬ 0 < (Udp.Call.interleave .bare { shared := ({}, ()) }
        Udp.intervening).1.shared.1.threadCount := by
  obtain ⟨htcp, hudp⟩ := Manager.at_rest .bare () .bare ()
  constructor
  · have hbegun : ∀ call, .start call ∈ Tcp.restarting →
        (∃ config, call = Tcp.Call.start config) ∨ call = .stop := by
      intro call hcall
      simp only [Tcp.restarting, Interleaving.crossing, List.replicate, List.mem_append,
        List.mem_cons, Interleaving.Event.start.injEq, reduceCtorEq, List.not_mem_nil,
        or_false] at hcall
      rcases hcall with (rfl | rfl) | rfl
      · exact .inl ⟨_, rfl⟩
      · exact .inr rfl
      · exact .inl ⟨_, rfl⟩
    obtain ⟨-, -, hlive⟩ := htcp Tcp.restarting hbegun
      (List.all_eq_true.mp (by decide +kernel))
    exact (hlive (by decide +kernel)).mpr (by decide +kernel)
  · have hbegun : ∀ call, .start call ∈ Udp.intervening →
        (∃ config, call = Udp.Call.start config) ∨ call = .stop := by
      intro call hcall
      simp only [Udp.intervening, Interleaving.crossing, List.replicate, List.mem_append,
        List.mem_cons, Interleaving.Event.start.injEq, reduceCtorEq, List.not_mem_nil,
        or_false] at hcall
      rcases hcall with rfl | rfl
      · exact .inl ⟨_, rfl⟩
      · exact .inr rfl
    obtain ⟨-, -, hlive⟩ := hudp Udp.intervening hbegun
      (List.all_eq_true.mp (by decide +kernel))
    intro hloops
    have hlate := (hlive (by decide +kernel)).mp hloops
    exact absurd hlate (by decide +kernel)

/-- A start of a manager with one port looks for the last time whether the port is listed, a stop
goes all the way, and the start makes its engine known and succeeds.  The manager runs, without a
loop and without a port. -/
theorem Manager.stopped_in_between :
    let streams := (Tcp.Call.interleave .bare { shared := ({}, ()) }
      (Interleaving.crossing (.start { ports := [80], threadCount := 1 }) .stop 7 1)).1
    let datagrams := (Udp.Call.interleave .bare { shared := ({}, ()) }
      (Interleaving.crossing (.start { ports := [80], threadCount := 1 }) .stop 7 1)).1
    (streams.calls.all Tcp.Call.isOver = true ∧ streams.shared.1.isRunning = true ∧
        streams.shared.1.threadCount = 0 ∧ streams.shared.1.ports = []) ∧
      datagrams.calls.all Udp.Call.isOver = true ∧ datagrams.shared.1.isRunning = true ∧
        datagrams.shared.1.threadCount = 0 ∧ datagrams.shared.1.ports = [] := by
  decide +kernel

end Switchboard
