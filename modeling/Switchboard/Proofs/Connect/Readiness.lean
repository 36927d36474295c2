import Mathlib.Tactic.Common
import Switchboard.Tcp.Manager
import Switchboard.Udp.Manager

/-!
# Managers that are ready to connect

A manager hands what a request leaves to a loop over to the next loop of its rotation.  It can do so
if it has an engine and the loops of that engine run (`Tcp.Manager.Ready`, `Udp.Manager.Ready`).  A
start that succeeds leaves a manager so, and dealing out loops keeps it so.
-/

namespace Switchboard

/-- A request that cannot be made from its local end is refused for that. -/
lemma bindEndpoint_ne_notInitialized (ip : String) (port : Port) :
    bindEndpoint ip port ≠ .error .notInitialized := by
  unfold bindEndpoint
  dsimp only
  split
  · simp
  · split <;> simp

namespace LoopPool

variable {p : LoopPool} {s : LoopSelector}

/-- A selector has loops, and none of them has been stopped. -/
def Runs (p : LoopPool) (s : LoopSelector) : Prop :=
  ∃ g, p.generation? s = some g ∧ g.stopped ≠ [] ∧ ∀ stopped ∈ g.stopped, stopped = false

/-- The next loop of a selector whose loops run is one that runs. -/
lemma Runs.next (h : p.Runs s) :
    ∃ l, (p.next s).1 = some l ∧ (p.next s).2.isStopped l = false ∧ (p.next s).2.Runs s := by
  obtain ⟨g, hg, hsome, hrunning⟩ := h
  have hgeneration : p.generations[s.generation]? = some g := hg
  have hsize : g.size ≠ 0 := by simpa [LoopGeneration.size] using hsome
  have hnext : p.next s = (some ⟨s.generation, g.cursor.toNat % g.size⟩,
      { p with generations :=
          p.generations.set s.generation { g with cursor := g.cursor + 1 } }) := by
    simp [LoopPool.next, hg, hsize]
  have hbound : s.generation < p.generations.length := (List.getElem?_eq_some_iff.mp hgeneration).1
  have hset : (p.generations.set s.generation { g with cursor := g.cursor + 1 })[s.generation]? =
      some { g with cursor := g.cursor + 1 } := by
    simp [hbound]
  rw [hnext]
  refine ⟨_, rfl, ?_, _, hset, hsome, hrunning⟩
  have hindex : g.cursor.toNat % g.size < g.stopped.length :=
    Nat.mod_lt _ (Nat.pos_of_ne_zero hsize)
  simp only [isStopped, hset, List.getElem?_eq_getElem hindex, Option.getD_some]
  exact hrunning _ (List.getElem_mem hindex)

/-- The loops of a pool that was started run. -/
lemma runs_of_init {count : Nat} {start : Nat → Except SystemError Unit} {p' : LoopPool}
    (h : p.init count start = (.ok (), p')) : ∃ s, p'.selector? = some s ∧ p'.Runs s := by
  unfold init at h
  split at h
  · cases h
  · rename_i hcount
    split at h
    · cases h
    · split at h
      · cases h
      · cases h
        refine ⟨⟨p.generations.length⟩, rfl, ⟨List.replicate count false, 0⟩, ?_, ?_, ?_⟩
        · simp [generation?]
        · simpa using hcount
        · intro stopped hstopped
          exact List.eq_of_mem_replicate hstopped

end LoopPool

/-! ### Stream managers -/

namespace Tcp

/-- A manager that runs, on loops that run. -/
def Manager.Ready (m : Manager) : Prop :=
  ∃ engine, m.engine = some engine ∧ m.pool.Runs engine.loops

namespace Startup

variable {ω : Type} {system : System ω} {config : TcpConfig} {m : Manager} {w : ω}

/-! #### How a start goes on -/

/-- A port that opens is listed next. -/
lemma step_binding_of_open {host : IpAddress} {engine : Engine} {port opened : Port}
    {rest : List Port} {l : EventLoop} {w' : ω} (hnext : (m.pool.next engine.loops).1 = some l)
    (hlisten : system.listen w ⟨host, port⟩ = (.ok opened, w')) :
    (binding host engine (port :: rest)).step system config m w =
      ⟨listing host engine ⟨opened, l⟩ rest, { m with pool := (m.pool.next engine.loops).2 }, w',
        []⟩ := by
  have hpool : m.pool.next engine.loops = (some l, (m.pool.next engine.loops).2) :=
    Prod.ext hnext rfl
  simp only [step]
  rw [hpool, hlisten]

/-- A port that does not open is passed over if one is enough, and fails the start if not. -/
lemma step_binding_of_closed {host : IpAddress} {engine : Engine} {port : Port} {rest : List Port}
    {l : EventLoop} {w' : ω} {source : SystemError}
    (hnext : (m.pool.next engine.loops).1 = some l)
    (hlisten : system.listen w ⟨host, port⟩ = (.error source, w')) :
    (binding host engine (port :: rest)).step system config m w =
      ⟨if config.portPolicy = .all then undoing (.bind ⟨host, port⟩ source) .engine
        else proceed config host engine rest,
        { m with pool := (m.pool.next engine.loops).2 }, w',
        [bindFailed (.bind ⟨host, port⟩ source)]⟩ := by
  have hpool : m.pool.next engine.loops = (some l, (m.pool.next engine.loops).2) :=
    Prod.ext hnext rfl
  simp only [step]
  rw [hpool, hlisten]
  cases config.portPolicy <;> rfl

/-- Once a listener is on its loop the ports that are left are next, if any are wanted. -/
lemma step_spawning (host : IpAddress) (engine : Engine) (opened : Serving) (rest : List Port) :
    (spawning host engine opened rest).step system config m w =
      ⟨proceed config host engine (if config.portPolicy = .any then [] else rest),
        { m with serving := m.serving ++ [opened] }, w, []⟩ := by
  cases hpolicy : config.portPolicy <;> simp [step, hpolicy]

/-- A start that may go further goes a step first. -/
lemma drive_succ (system : System ω) (config : TcpConfig) (fuel : Nat) (stage : Startup)
    (m : Manager) (w : ω) :
    drive system config (fuel + 1) stage m w =
      let now := stage.step system config m w
      let later := drive system config fuel now.stage now.manager now.world
      { later with notes := now.notes ++ later.notes } := by
  cases stage with
  | answered answer => cases fuel <;> rfl
  | _ => rfl

/-! #### The loops of a start -/

/-- The loops run from the moment they are started until the start fails. -/
def Prepared (m : Manager) : Startup → Prop
  | loading _ => ∃ loops, m.pool.selector? = some loops ∧ m.pool.Runs loops
  | binding _ engine _ | listing _ engine _ _ | spawning _ engine _ _ | checking engine
  | publishing engine => m.pool.Runs engine.loops
  | answered (.ok ()) => m.Ready
  | entering | starting _ | undoing _ _ | answered (.error _) | brokenDown => True

lemma prepared_proceed {engine : Engine} (hruns : m.pool.Runs engine.loops) (config : TcpConfig)
    (host : IpAddress) (ports : List Port) : Prepared m (proceed config host engine ports) := by
  cases ports with
  | nil =>
    simp only [proceed]
    split <;> exact hruns
  | cons port rest => exact hruns

/-- No step of a start stops a loop and goes on. -/
lemma prepared_step (system : System ω) (config : TcpConfig) {stage : Startup}
    (h : Prepared m stage) (w : ω) :
    Prepared (stage.step system config m w).manager (stage.step system config m w).stage := by
  cases stage with
  | entering =>
    simp only [step]
    split
    · trivial
    · split
      · trivial
      · split <;> trivial
  | starting host =>
    simp only [step]
    split
    · trivial
    · rename_i hinit
      exact LoopPool.runs_of_init hinit
  | loading host =>
    obtain ⟨loops, hselector, hruns⟩ := h
    simp only [step, hselector]
    split
    · trivial
    · split
      · trivial
      · exact prepared_proceed hruns config host _
  | binding host engine ports =>
    cases ports with
    | nil => exact prepared_proceed h config host []
    | cons port rest =>
      obtain ⟨l, hnext, -, hruns⟩ := LoopPool.Runs.next h
      rcases hlisten : system.listen w ⟨host, port⟩ with ⟨source | opened, w'⟩
      · rw [step_binding_of_closed hnext hlisten]
        cases config.portPolicy with
        | all => trivial
        | any => exact prepared_proceed hruns config host rest
      · rw [step_binding_of_open hnext hlisten]
        exact hruns
  | listing host engine opened rest => exact h
  | spawning host engine opened rest =>
    rw [step_spawning]
    exact prepared_proceed h config host _
  | checking engine =>
    simp only [step]
    split
    · trivial
    · exact h
  | publishing engine => exact ⟨engine, rfl, h⟩
  | undoing cause stage => cases stage <;> trivial
  | answered answer => exact h
  | brokenDown => trivial

lemma prepared_drive (system : System ω) (config : TcpConfig) (fuel : Nat) {stage : Startup}
    (h : Prepared m stage) (w : ω) : Prepared (drive system config fuel stage m w).manager
      (drive system config fuel stage m w).stage := by
  induction fuel generalizing stage m w with
  | zero => exact h
  | succ fuel ih =>
    rw [drive_succ]
    exact ih (prepared_step system config h w) (stage.step system config m w).world

end Startup

/-- A start that succeeds leaves the manager ready. -/
theorem Manager.ready_of_init {ω : Type} (m : Manager) (system : System ω) (config : TcpConfig)
    (w : ω) (hok : (m.init system config w).1 = .ok ()) : (m.init system config w).2.1.Ready := by
  have hentering : Startup.Prepared m .entering := trivial
  have hprepared := Startup.prepared_drive system config (Startup.steps config) hentering w
  unfold init at hok ⊢
  generalize Startup.drive system config (Startup.steps config) .entering m w = last
    at hprepared hok ⊢
  obtain ⟨stage, manager, world, notes⟩ := last
  cases stage with
  | answered answer =>
    cases answer with
    | ok => exact hprepared
    | error e => cases hok
  | _ => cases hok

end Tcp

/-! ### Datagram managers -/

namespace Udp

/-- A manager that runs, on loops that run. -/
def Manager.Ready (m : Manager) : Prop :=
  ∃ engine, m.engine = some engine ∧ m.pool.Runs engine.loops

namespace Startup

variable {ω : Type} {system : System ω} {config : UdpConfig} {m : Manager} {w : ω}

/-! #### How a start goes on -/

/-- The handle of an acceptor whose port opens is kept next. -/
lemma step_binding_of_open {host : IpAddress} {engine : Engine} {port opened : Port}
    {rest : List Port} {l : EventLoop} {w' : ω} (hnext : (m.pool.next engine.loops).1 = some l)
    (hlisten : system.openSocket w ⟨host, port⟩ = (.ok opened, w')) :
    (binding host engine (port :: rest)).step system config m w =
      ⟨keeping host engine { port := opened, eventLoop := l } rest,
        { m with pool := (m.pool.next engine.loops).2 }, w', []⟩ := by
  have hpool : m.pool.next engine.loops = (some l, (m.pool.next engine.loops).2) :=
    Prod.ext hnext rfl
  simp only [step]
  rw [hpool, hlisten]

/-- A port that does not open is passed over if one is enough, and fails the start if not. -/
lemma step_binding_of_closed {host : IpAddress} {engine : Engine} {port : Port} {rest : List Port}
    {l : EventLoop} {w' : ω} {source : SystemError}
    (hnext : (m.pool.next engine.loops).1 = some l)
    (hlisten : system.openSocket w ⟨host, port⟩ = (.error source, w')) :
    (binding host engine (port :: rest)).step system config m w =
      ⟨if config.portPolicy = .all then undoing (.bind ⟨host, port⟩ source) .engine
        else proceed config host engine rest,
        { m with pool := (m.pool.next engine.loops).2 }, w',
        [bindFailed (.bind ⟨host, port⟩ source)]⟩ := by
  have hpool : m.pool.next engine.loops = (some l, (m.pool.next engine.loops).2) :=
    Prod.ext hnext rfl
  simp only [step]
  rw [hpool, hlisten]
  cases config.portPolicy <;> rfl

/-- A start that may go further goes a step first. -/
lemma drive_succ (system : System ω) (config : UdpConfig) (fuel : Nat) (stage : Startup)
    (m : Manager) (w : ω) :
    drive system config (fuel + 1) stage m w =
      let now := stage.step system config m w
      let later := drive system config fuel now.stage now.manager now.world
      { later with notes := now.notes ++ later.notes } := by
  cases stage with
  | answered answer => cases fuel <;> rfl
  | _ => rfl

/-! #### The loops of a start -/

/-- The loops run from the moment they are started until the start fails. -/
def Prepared (m : Manager) : Startup → Prop
  | selecting _ => ∃ loops, m.pool.selector? = some loops ∧ m.pool.Runs loops
  | binding _ engine _ | keeping _ engine _ _ | spawning _ engine _ _ | checking engine
  | publishing engine => m.pool.Runs engine.loops
  | answered (.ok ()) => m.Ready
  | entering | starting _ | undoing _ _ | answered (.error _) => True

lemma prepared_proceed {engine : Engine} (hruns : m.pool.Runs engine.loops) (config : UdpConfig)
    (host : IpAddress) (ports : List Port) : Prepared m (proceed config host engine ports) := by
  cases ports with
  | nil =>
    simp only [proceed]
    split <;> exact hruns
  | cons port rest => exact hruns

/-- No step of a start stops a loop and goes on. -/
lemma prepared_step (system : System ω) (config : UdpConfig) {stage : Startup}
    (h : Prepared m stage) (w : ω) :
    Prepared (stage.step system config m w).manager (stage.step system config m w).stage := by
  cases stage with
  | entering =>
    simp only [step]
    split
    · trivial
    · split
      · trivial
      · split <;> trivial
  | starting host =>
    simp only [step]
    split
    · trivial
    · rename_i hinit
      exact LoopPool.runs_of_init hinit
  | selecting host =>
    obtain ⟨loops, hselector, hruns⟩ := h
    simp only [step, hselector]
    exact prepared_proceed hruns config host _
  | binding host engine ports =>
    cases ports with
    | nil => exact prepared_proceed h config host []
    | cons port rest =>
      obtain ⟨l, hnext, -, hruns⟩ := LoopPool.Runs.next h
      rcases hlisten : system.openSocket w ⟨host, port⟩ with ⟨source | opened, w'⟩
      · rw [step_binding_of_closed hnext hlisten]
        cases config.portPolicy with
        | all => trivial
        | any => exact prepared_proceed hruns config host rest
      · rw [step_binding_of_open hnext hlisten]
        exact hruns
  | keeping host engine opened rest => exact h
  | spawning host engine opened rest => exact prepared_proceed h config host _
  | checking engine =>
    simp only [step]
    split
    · trivial
    · exact h
  | publishing engine => exact ⟨engine, rfl, h⟩
  | undoing cause stage => cases stage <;> trivial
  | answered answer => exact h

lemma prepared_drive (system : System ω) (config : UdpConfig) (fuel : Nat) {stage : Startup}
    (h : Prepared m stage) (w : ω) : Prepared (drive system config fuel stage m w).manager
      (drive system config fuel stage m w).stage := by
  induction fuel generalizing stage m w with
  | zero => exact h
  | succ fuel ih =>
    rw [drive_succ]
    exact ih (prepared_step system config h w) (stage.step system config m w).world

end Startup

/-- A start that succeeds leaves the manager ready. -/
theorem Manager.ready_of_init {ω : Type} (m : Manager) (system : System ω) (config : UdpConfig)
    (w : ω) (hok : (m.init system config w).1 = .ok ()) : (m.init system config w).2.1.Ready := by
  have hentering : Startup.Prepared m .entering := trivial
  have hprepared := Startup.prepared_drive system config (Startup.steps config) hentering w
  unfold init at hok ⊢
  generalize Startup.drive system config (Startup.steps config) .entering m w = last
    at hprepared hok ⊢
  obtain ⟨stage, manager, world, notes⟩ := last
  cases stage with
  | answered answer =>
    obtain rfl : answer = .ok () := hok
    exact hprepared
  | _ => cases hok

end Udp

end Switchboard
