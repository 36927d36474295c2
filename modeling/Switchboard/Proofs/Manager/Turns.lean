import Switchboard.Proofs.Manager.Cells
import Switchboard.Tcp.Manager
import Switchboard.Udp.Manager

/-!
# The turns of starts and stops

A start or a stop of a manager touches one cell at a time, and every such step is one of the turns
that `Turn` lists (`Tcp.Call.abides`, `Udp.Call.abides`).  The two kinds of managers differ in the
order in which a stop goes through the cells, and in that a manager of datagrams lists its ports by
the handles of its acceptors.
-/

namespace Switchboard

/-! ### Stream managers -/

namespace Tcp

/-- What a stop has still to do. -/
def Teardown.duty : Teardown → Duty
  | engine => .idle
  | pool => .clearing true true
  | ports => .clearing false true
  | finished => .idle

/-- What a start has still to do; one that has broken down leaves it undone. -/
def Startup.duty : Startup → Duty
  | entering | starting _ | answered _ => .idle
  | undoing _ .engine => .launching
  | undoing _ stage => stage.duty
  | _ => .launching

/-- Whether a start makes its engine known next. -/
def Startup.publishes : Startup → Bool
  | publishing _ => true
  | _ => false

/-- The cells of a manager. -/
def Manager.cells (m : Manager) : Cells := ⟨m.isRunning, m.pool, m.ports⟩

/-- How calls from different threads are seen. -/
def Call.view (ω : Type) : Interleaving.View (Manager × ω) Call where
  cells shared := shared.1.cells
  duty
    | starting _ stage => stage.duty
    | stopping stage => stage.duty
  publishes
    | starting _ stage => stage.publishes
    | stopping _ => false

variable {ω : Type}

/-- A stop takes a turn at each cell, also one that a start makes for itself, which begins where the
start has been. -/
lemma Teardown.turn_step (stage : Teardown) (m : Manager) {d : Duty}
    (hd : d = stage.duty ∨ stage = engine ∧ d = .launching) :
    Turn false d m.cells (stage.step m).1.duty (stage.step m).2.cells := by
  cases stage with
  | engine => exact .clear d m.cells (hd.imp id And.right)
  | pool =>
    obtain rfl : d = .clearing true true := hd.resolve_right fun hno => by cases hno.1
    exact .stop m.cells true
  | ports =>
    obtain rfl : d = .clearing false true := hd.resolve_right fun hno => by cases hno.1
    exact .unlist m.cells false
  | finished =>
    obtain rfl : d = .idle := hd.resolve_right fun hno => by cases hno.1
    exact .rest _ _

namespace Startup

lemma duty_proceed (config : TcpConfig) (host : IpAddress) (engine : Engine) (ports : List Port) :
    (proceed config host engine ports).duty = .launching := by
  cases ports with
  | nil =>
    simp only [proceed]
    split <;> rfl
  | cons port rest => rfl

/-- A start takes a turn at each cell. -/
lemma turn_step (system : System ω) (config : TcpConfig) (stage : Startup) (m : Manager) (w : ω) :
    Turn stage.publishes stage.duty m.cells (stage.step system config m w).stage.duty
      (stage.step system config m w).manager.cells := by
  cases stage with
  | entering =>
    simp only [step]
    split
    · exact .rest _ _
    · split
      · exact .rest _ _
      · split <;> exact .rest _ _
  | starting host =>
    simp only [step]
    split
    · rename_i hinit
      rw [LoopPool.eq_of_init_error hinit]
      exact .rest _ _
    · rename_i hinit
      exact .launch m.cells _ _ _ hinit
  | loading host =>
    simp only [step]
    split
    · exact .rest _ _
    · split
      · exact .rest _ _
      · split
        · exact .rest _ _
        · rw [duty_proceed]
          exact .rest _ _
  | binding host engine ports =>
    cases ports with
    | nil => exact duty_proceed config host engine [] ▸ .rest .launching m.cells
    | cons port rest =>
      have hdeal : Turn false .launching m.cells .launching
          (Manager.cells { m with pool := (m.pool.next engine.loops).2 }) :=
        .deal m.cells engine.loops
      simp only [step]
      split
      · rename_i hnext
        rwa [hnext] at hdeal
      · rename_i hnext
        rw [hnext] at hdeal
        split
        · exact hdeal
        · split
          · exact hdeal
          · rwa [duty_proceed]
  | listing host engine opened rest => exact .list m.cells opened.port
  | spawning host engine opened rest =>
    rw [step_spawning, duty_proceed]
    exact .rest _ _
  | checking engine =>
    simp only [step]
    split <;> exact .rest _ _
  | publishing engine => exact .publish m.cells
  | undoing cause stage =>
    cases stage with
    | engine => exact Teardown.turn_step .engine m (.inr ⟨rfl, rfl⟩)
    | pool => exact Teardown.turn_step .pool m (.inl rfl)
    | ports => exact Teardown.turn_step .ports m (.inl rfl)
    | finished => exact .rest _ _
  | answered answer => exact .rest _ _
  | brokenDown => exact .rest _ _

end Startup

namespace Call

/-- Every step of a call is one of the turns. -/
lemma abides (system : System ω) : (view ω).Abides (step system) := by
  intro call shared
  cases call with
  | starting config stage => exact Startup.turn_step system config stage shared.1 shared.2
  | stopping stage => exact Teardown.turn_step stage shared.1 (.inl rfl)

/-- A call that has just begun has nothing to do to the cells yet. -/
lemma duty_of_begun {call : Call} (h : (∃ config, call = start config) ∨ call = stop) :
    (view ω).duty call = .idle := by
  rcases h with ⟨config, rfl⟩ | rfl <;> rfl

/-- A call that has answered has nothing to do to the cells any more. -/
lemma duty_of_isOver {call : Call} (h : call.isOver = true) : (view ω).duty call = .idle := by
  unfold isOver at h
  split at h
  · rfl
  · rfl
  · cases h

end Call

end Tcp

/-! ### Datagram managers -/

namespace Udp

/-- What a stop has still to do. -/
def Teardown.duty : Teardown → Duty
  | engine => .idle
  | handles => .clearing true true
  | pool => .clearing true false
  | finished => .idle

/-- What a start has still to do. -/
def Startup.duty : Startup → Duty
  | entering | starting _ | answered _ => .idle
  | undoing _ .engine => .launching
  | undoing _ stage => stage.duty
  | _ => .launching

/-- Whether a start makes its engine known next. -/
def Startup.publishes : Startup → Bool
  | publishing _ => true
  | _ => false

/-- The cells of a manager. -/
def Manager.cells (m : Manager) : Cells := ⟨m.isRunning, m.pool, m.ports⟩

/-- How calls from different threads are seen. -/
def Call.view (ω : Type) : Interleaving.View (Manager × ω) Call where
  cells shared := shared.1.cells
  duty
    | starting _ stage => stage.duty
    | stopping stage => stage.duty
  publishes
    | starting _ stage => stage.publishes
    | stopping _ => false

variable {ω : Type}

/-- A stop takes a turn at each cell, also one that a start makes for itself, which begins where the
start has been. -/
lemma Teardown.turn_step (stage : Teardown) (m : Manager) {d : Duty}
    (hd : d = stage.duty ∨ stage = engine ∧ d = .launching) :
    Turn false d m.cells (stage.step m).1.duty (stage.step m).2.cells := by
  cases stage with
  | engine => exact .clear d m.cells (hd.imp id And.right)
  | handles =>
    obtain rfl : d = .clearing true true := hd.resolve_right fun hno => by cases hno.1
    exact .unlist m.cells true
  | pool =>
    obtain rfl : d = .clearing true false := hd.resolve_right fun hno => by cases hno.1
    exact .stop m.cells false
  | finished =>
    obtain rfl : d = .idle := hd.resolve_right fun hno => by cases hno.1
    exact .rest _ _

namespace Startup

lemma duty_proceed (config : UdpConfig) (host : IpAddress) (engine : Engine) (ports : List Port) :
    (proceed config host engine ports).duty = .launching := by
  cases ports with
  | nil =>
    simp only [proceed]
    split <;> rfl
  | cons port rest => rfl

/-- A start takes a turn at each cell. -/
lemma turn_step (system : System ω) (config : UdpConfig) (stage : Startup) (m : Manager) (w : ω) :
    Turn stage.publishes stage.duty m.cells (stage.step system config m w).stage.duty
      (stage.step system config m w).manager.cells := by
  cases stage with
  | entering =>
    simp only [step]
    split
    · exact .rest _ _
    · split
      · exact .rest _ _
      · split <;> exact .rest _ _
  | starting host =>
    simp only [step]
    split
    · rename_i hinit
      rw [LoopPool.eq_of_init_error hinit]
      exact .rest _ _
    · rename_i hinit
      exact .launch m.cells _ _ _ hinit
  | selecting host =>
    simp only [step]
    split
    · exact .rest _ _
    · rw [duty_proceed]
      exact .rest _ _
  | binding host engine ports =>
    cases ports with
    | nil => exact duty_proceed config host engine [] ▸ .rest .launching m.cells
    | cons port rest =>
      have hdeal : Turn false .launching m.cells .launching
          (Manager.cells { m with pool := (m.pool.next engine.loops).2 }) :=
        .deal m.cells engine.loops
      simp only [step]
      split
      · rename_i hnext
        rwa [hnext] at hdeal
      · rename_i hnext
        rw [hnext] at hdeal
        split
        · exact hdeal
        · split
          · exact hdeal
          · rwa [duty_proceed]
  | keeping host engine opened rest =>
    have hports : Manager.ports { m with handles := m.handles ++ [opened] } =
        m.ports ++ [opened.port] := by
      simp [Manager.ports]
    have hlist := Turn.list m.cells opened.port
    simp only [Manager.cells, ← hports] at hlist
    exact hlist
  | spawning host engine opened rest =>
    simp only [step]
    rw [duty_proceed]
    exact .rest _ _
  | checking engine =>
    simp only [step]
    split <;> exact .rest _ _
  | publishing engine => exact .publish m.cells
  | undoing cause stage =>
    cases stage with
    | engine => exact Teardown.turn_step .engine m (.inr ⟨rfl, rfl⟩)
    | handles => exact Teardown.turn_step .handles m (.inl rfl)
    | pool => exact Teardown.turn_step .pool m (.inl rfl)
    | finished => exact .rest _ _
  | answered answer => exact .rest _ _

end Startup

namespace Call

/-- Every step of a call is one of the turns. -/
lemma abides (system : System ω) : (view ω).Abides (step system) := by
  intro call shared
  cases call with
  | starting config stage => exact Startup.turn_step system config stage shared.1 shared.2
  | stopping stage => exact Teardown.turn_step stage shared.1 (.inl rfl)

/-- A call that has just begun has nothing to do to the cells yet. -/
lemma duty_of_begun {call : Call} (h : (∃ config, call = start config) ∨ call = stop) :
    (view ω).duty call = .idle := by
  rcases h with ⟨config, rfl⟩ | rfl <;> rfl

/-- A call that has answered has nothing to do to the cells any more. -/
lemma duty_of_isOver {call : Call} (h : call.isOver = true) : (view ω).duty call = .idle := by
  unfold isOver at h
  split at h
  · rfl
  · rfl
  · cases h

end Call

end Udp

end Switchboard
