import Switchboard.Proofs.Manager.Standing
import Switchboard.Proofs.Udp.Outbound

/-!
# Starts of stopped datagram managers

The account of a start is that of a stream manager's, but for the certificates and the permits,
which datagrams do not have: `Startup.verdict` goes by the settings, then by the loops and the
ports, and a start cannot break down.  Ports are listed by the handles of their acceptors, so an
acceptor is sent to its loop only while its handle is kept, and a stop asks all acceptors to stop
before it stops the loops.
-/

namespace Switchboard.Udp

/-! ### The manager between two calls -/

namespace Manager

/-- What is seen of a manager from outside. -/
def outlook (m : Manager) : Outlook :=
  ⟨m.isRunning, m.threadCount, m.ports, m.acceptors.map Serving.port⟩

/-- Nothing runs but the loops in use, and no acceptor was sent to loops that are still to come. -/
structure Kept (m : Manager) : Prop where
  /-- Nothing runs but the loops in use. -/
  tidy : m.pool.Tidy
  /-- Every acceptor was sent to a loop of the pool. -/
  known : ∀ s ∈ m.serving, s.eventLoop.generation < m.pool.generations.length

/-- A manager stands in some way. -/
structure Stands (m : Manager) (standing : Standing) : Prop where
  /-- That is what is seen of it. -/
  outlook : m.outlook = standing.outlook
  /-- If it does not run, it has loops only if it should. -/
  live : m.isRunning = false → m.pool.current.isSome = standing.live
  /-- If it runs, it is ready. -/
  ready : m.isRunning = true → m.Ready
  /-- Nothing else is left. -/
  kept : m.Kept

variable {m : Manager}

/-- Dealing out a loop is not seen. -/
@[simp] lemma outlook_deal (m : Manager) (s : LoopSelector) :
    ({ m with pool := (m.pool.next s).2 } : Manager).outlook = m.outlook := by
  simp [outlook, isRunning, threadCount, ports, acceptors, LoopPool.isStopped_next]

lemma Kept.deal (h : m.Kept) (s : LoopSelector) :
    ({ m with pool := (m.pool.next s).2 } : Manager).Kept :=
  ⟨h.tidy.next s, fun l hl => by simpa using h.known l hl⟩

/-- Where no loop runs, no acceptor does. -/
lemma acceptors_eq_nil (h : ∀ s ∈ m.serving, m.pool.isStopped s.eventLoop = true) :
    m.acceptors = [] := by
  simp only [acceptors, List.filter_eq_nil_iff]
  intro s hs
  simp [h s hs]

/-- A manager that does not run stands as it is seen. -/
lemma Kept.stands_of_not_running (h : m.Kept) {standing : Standing}
    (hlook : m.outlook = standing.outlook) (hlive : m.pool.current.isSome = standing.live)
    (hstopped : m.isRunning = false) : m.Stands standing :=
  ⟨hlook, fun _ => hlive,
    fun hrunning => absurd (hstopped.symm.trans hrunning) Bool.false_ne_true, h⟩

/-- Without an engine, without loops and without handles a manager is stopped. -/
lemma Kept.stands_stopped (h : m.Kept) (hengine : m.engine = none) (hpool : m.pool.current = none)
    (hhandles : m.handles = []) : m.Stands .stopped := by
  have hacceptors : m.acceptors = [] :=
    acceptors_eq_nil fun s _ => h.tidy.isStopped_of_ne (by simp [hpool])
  refine h.stands_of_not_running ?_ (by simp [hpool, Standing.live]) (by simp [isRunning, hengine])
  simp [outlook, Standing.outlook, isRunning, threadCount, ports, LoopPool.size,
    LoopPool.selector?, hengine, hpool, hhandles, hacceptors]

end Manager

/-! ### What a start comes to -/

namespace Startup

variable {ω : Type}

/-- What comes of a start that has got some ports and has still to ask for others. -/
def portVerdict (system : System ω) (config : UdpConfig) (host : IpAddress) (got rest : List Port)
    (w : ω) : Except NetworkError (List Port) :=
  config.portPolicy.verdict system.openSocket host config.ports got rest w

/-- What comes of a start whose settings are right. -/
def loopVerdict (system : System ω) (config : UdpConfig) (host : IpAddress) (w : ω) :
    Except NetworkError (List Port) :=
  match LoopPool.fault? config.threadCount system.startLoop with
  | some e => .error (.io e)
  | none => portVerdict system config host [] config.ports w

/-- What comes of a start of a stopped manager: the ports it opens, or why it does not succeed. -/
def verdict (system : System ω) (config : UdpConfig) (w : ω) : Except NetworkError (List Port) :=
  match admission config.violations config.bindHost with
  | .error e => .error e
  | .ok host => loopVerdict system config host w

/-- What will come of a start that has come so far. -/
def forecast (system : System ω) (config : UdpConfig) (m : Manager) (w : ω) :
    Startup → Except NetworkError (List Port)
  | entering => verdict system config w
  | starting host => loopVerdict system config host w
  | selecting host => portVerdict system config host [] config.ports w
  | binding host _ rest => portVerdict system config host m.ports rest w
  | keeping host _ opened rest =>
    portVerdict system config host (m.ports ++ [opened.port])
      (if config.portPolicy = .any then [] else rest) w
  | spawning host _ _ rest =>
    portVerdict system config host m.ports (if config.portPolicy = .any then [] else rest) w
  | checking _ => if m.handles.isEmpty then .error .noListener else .ok m.ports
  | publishing _ | answered (.ok ()) => .ok m.ports
  | undoing cause _ | answered (.error cause) => .error cause

/-- How many steps a start has to make at most. -/
def left (config : UdpConfig) : Startup → Nat
  | entering => 3 * config.ports.length + 9
  | starting _ => 3 * config.ports.length + 8
  | selecting _ => 3 * config.ports.length + 7
  | binding _ _ rest => 3 * rest.length + 6
  | keeping _ _ _ rest => 3 * rest.length + 8
  | spawning _ _ _ rest => 3 * rest.length + 7
  | checking _ => 5
  | publishing _ => 1
  | undoing _ .engine => 4
  | undoing _ .handles => 3
  | undoing _ .pool => 2
  | undoing _ .finished => 1
  | answered _ => 0

/-- What a manager is like that nobody but a start is at work on. -/
def Alone (config : UdpConfig) (m : Manager) : Startup → Prop
  | entering | undoing _ .finished | answered (.error _) =>
    m.engine = none ∧ m.pool.current = none ∧ m.handles = []
  | starting _ => config.threadCount ≠ 0 ∧ m.engine = none ∧ m.pool.current = none ∧ m.handles = []
  | selecting _ => m.outlook = ⟨false, config.threadCount, [], []⟩
  | binding _ _ _ | checking _ | publishing _ =>
    m.outlook = ⟨false, config.threadCount, m.ports, m.ports⟩
  | keeping _ _ opened _ =>
    m.pool.isStopped opened.eventLoop = false ∧
      m.outlook = ⟨false, config.threadCount, m.ports, m.ports⟩
  | spawning _ _ opened _ =>
    (m.pool.isStopped opened.eventLoop = false ∧ opened ∈ m.handles) ∧
      ∃ served, m.ports = served ++ [opened.port] ∧
        m.outlook = ⟨false, config.threadCount, m.ports, served⟩
  | undoing _ .engine => True
  | undoing _ .handles => m.engine = none
  | undoing _ .pool => m.engine = none ∧ m.handles = []
  | answered (.ok ()) => m.outlook = ⟨true, config.threadCount, m.ports, m.ports⟩

variable {system : System ω} {config : UdpConfig} {m : Manager} {stage : Startup} {w : ω}

/-! ### The settings and the ports -/

/-- A start of a manager that does not run looks at its settings. -/
lemma step_entering (hengine : m.engine = none) :
    entering.step system config m w =
      match admission config.violations config.bindHost with
      | .error e => ⟨answered (.error e), m, w, []⟩
      | .ok host => ⟨starting host, m, w, []⟩ := by
  simp only [step, hengine, admission, Option.isSome_none, Bool.false_eq_true, if_false]
  cases config.violations.isEmpty with
  | false => rfl
  | true => cases IpAddress.ofString? config.bindHost <;> rfl

/-- Settings that are right want a loop. -/
lemma threadCount_ne_zero {host : IpAddress}
    (h : admission config.violations config.bindHost = .ok host) : config.threadCount ≠ 0 := by
  have hvalid := violations_eq_nil_of_admission h
  simp only [UdpConfig.violations, List.append_eq_nil_iff] at hvalid
  exact Config.ne_zero_of_violationsOfLoops hvalid.1

lemma left_proceed_nil (config : UdpConfig) (host : IpAddress) (engine : Engine) :
    (proceed config host engine []).left config ≤ 5 := by
  simp only [proceed]
  split <;> simp [left]

lemma left_proceed (config : UdpConfig) (host : IpAddress) (engine : Engine) (ports : List Port) :
    (proceed config host engine ports).left config ≤ 3 * ports.length + 6 := by
  cases ports with
  | nil => exact (left_proceed_nil config host engine).trans (by simp)
  | cons port rest => exact le_rfl

lemma alone_proceed (h : m.outlook = ⟨false, config.threadCount, m.ports, m.ports⟩)
    (host : IpAddress) (engine : Engine) (ports : List Port) :
    Alone config m (proceed config host engine ports) := by
  cases ports with
  | nil =>
    simp only [proceed]
    split <;> exact h
  | cons port rest => exact h

lemma forecast_proceed (host : IpAddress) (engine : Engine) (ports : List Port) :
    forecast system config m w (proceed config host engine ports) =
      portVerdict system config host m.ports ports w := by
  have hempty : m.handles.isEmpty = m.ports.isEmpty := by simp [Manager.ports]
  cases ports with
  | nil =>
    simp only [proceed]
    split
    · rename_i hnone
      simp [forecast, portVerdict, PortPolicy.enough, hnone]
    · rename_i hsome
      simp [forecast, portVerdict, PortPolicy.enough, hsome, hempty]
  | cons port rest => rfl

/-! ### One step -/

/-- Every step leaves fewer steps to be made. -/
lemma left_step (system : System ω) (config : UdpConfig) (stage : Startup) (m : Manager) (w : ω) :
    (stage.step system config m w).stage.left config ≤ stage.left config - 1 := by
  cases stage with
  | entering =>
    simp only [step]
    split
    · simp [left]
    · split
      · simp [left]
      · split <;> simp [left]
  | starting host =>
    simp only [step]
    split <;> simp [left]
  | selecting host =>
    simp only [step]
    split
    · simp [left]
    · exact left_proceed config host _ _
  | binding host engine ports =>
    cases ports with
    | nil => exact left_proceed_nil config host engine
    | cons port rest =>
      simp only [step]
      split
      · simp [left]
      · split
        · simp only [left, List.length_cons]
          omega
        · split
          · simp [left]
          · exact (left_proceed config host engine rest).trans
              (by simp only [left, List.length_cons]; omega)
  | keeping host engine opened rest => simp [step, left]
  | spawning host engine opened rest =>
    refine (left_proceed config host engine _).trans ?_
    split <;> simp [left]
  | checking engine =>
    simp only [step]
    split <;> simp [left]
  | publishing engine => simp [step, left]
  | undoing cause stage => cases stage <;> simp [step, Teardown.step, left]
  | answered answer => simp [step, left]

/-- No acceptor is sent to loops that are still to come. -/
lemma kept_step (system : System ω) (h : m.Kept) (halone : Alone config m stage) (w : ω) :
    (stage.step system config m w).manager.Kept := by
  cases stage with
  | entering =>
    simp only [step]
    split
    · exact h
    · split
      · exact h
      · split <;> exact h
  | starting host =>
    simp only [step]
    split
    · rename_i hinit
      rw [LoopPool.eq_of_init_error hinit]
      exact h
    · rename_i pool hinit
      refine ⟨h.tidy.init hinit, fun s hs => ?_⟩
      obtain ⟨-, rfl⟩ := LoopPool.eq_of_init_ok hinit
      exact (h.known s hs).trans (by simp)
  | selecting host =>
    simp only [step]
    split <;> exact h
  | binding host engine ports =>
    cases ports with
    | nil => exact h
    | cons port rest =>
      have hdeal := h.deal engine.loops
      simp only [step]
      split
      · rename_i hnext
        rwa [hnext] at hdeal
      · rename_i hnext
        rw [hnext] at hdeal
        split
        · exact hdeal
        · split <;> exact hdeal
  | keeping host engine opened rest => exact ⟨h.tidy, h.known⟩
  | spawning host engine opened rest =>
    refine ⟨h.tidy, fun s hs => ?_⟩
    rcases List.mem_append.mp hs with hs | hs
    · exact h.known s hs
    · rw [List.mem_singleton.mp hs]
      exact LoopPool.generation_lt_of_running halone.1.1
  | checking engine =>
    simp only [step]
    split <;> exact h
  | publishing engine => exact ⟨h.tidy, h.known⟩
  | undoing cause stage =>
    cases stage with
    | engine => exact ⟨h.tidy, h.known⟩
    | handles =>
      refine ⟨h.tidy, fun s hs => ?_⟩
      obtain ⟨s', hs', rfl⟩ := List.mem_map.mp hs
      exact h.known s' hs'
    | pool => exact ⟨h.tidy.exit, fun s hs => by simpa [step, Teardown.step] using h.known s hs⟩
    | finished => exact h
  | answered answer => exact h

/-- Every step leaves the manager as fits the place where the start is then. -/
lemma alone_step (system : System ω) (hkept : m.Kept) (hprepared : Prepared m stage)
    (h : Alone config m stage) (w : ω) :
    Alone config (stage.step system config m w).manager (stage.step system config m w).stage := by
  cases stage with
  | entering =>
    rw [step_entering h.1]
    cases hadmission : admission config.violations config.bindHost with
    | error e => exact h
    | ok host => exact ⟨threadCount_ne_zero hadmission, h⟩
  | starting host =>
    obtain ⟨-, hengine, hpool, hhandles⟩ := h
    simp only [step]
    split
    · rename_i hinit
      rw [LoopPool.eq_of_init_error hinit]
      exact ⟨hengine, hpool, hhandles⟩
    · rename_i pool hinit
      have hacceptors : ({ m with pool } : Manager).acceptors = [] :=
        Manager.acceptors_eq_nil fun s hs => hkept.tidy.isStopped_of_init hinit (hkept.known s hs)
      have hsize : pool.size = config.threadCount := LoopPool.size_of_init_ok hinit
      rw [Alone, Manager.outlook, hacceptors]
      simp [Manager.isRunning, Manager.threadCount, Manager.ports, hsize, hengine, hhandles]
  | selecting host =>
    have hports : m.ports = [] := congrArg Outlook.ports h
    simp only [step]
    split
    · trivial
    · exact alone_proceed (hports ▸ h) host _ _
  | binding host engine ports =>
    cases ports with
    | nil => exact alone_proceed h host engine []
    | cons port rest =>
      obtain ⟨l, hnext, hrunning, -⟩ := LoopPool.Runs.next hprepared
      have hlook := (m.outlook_deal engine.loops).trans h
      rcases hlisten : system.openSocket w ⟨host, port⟩ with ⟨source | opened, w'⟩
      · rw [step_binding_of_closed hnext hlisten]
        cases config.portPolicy with
        | all => trivial
        | any => exact alone_proceed hlook host engine rest
      · rw [step_binding_of_open hnext hlisten]
        exact ⟨hrunning, hlook⟩
  | keeping host engine opened rest =>
    obtain ⟨hrunning, hlook⟩ := h
    have hports : Manager.ports { m with handles := m.handles ++ [opened] } =
        m.ports ++ [opened.port] := by
      simp [Manager.ports]
    refine ⟨⟨hrunning, List.mem_append_right _ (List.mem_singleton_self _)⟩, m.ports, hports, ?_⟩
    have hlisted := congrArg (fun o : Outlook => { o with ports := m.ports ++ [opened.port] }) hlook
    rw [← hports] at hlisted
    exact hlisted
  | spawning host engine opened rest =>
    obtain ⟨⟨hrunning, hkeptHandle⟩, served, hports, hlook⟩ := h
    have hserved : m.acceptors.map Serving.port = served := congrArg Outlook.served hlook
    have hstopped : m.isRunning = false := congrArg Outlook.running hlook
    have hthreads : m.threadCount = config.threadCount := congrArg Outlook.threads hlook
    let sent : Manager := { m with
      serving := m.serving ++ [{ opened with stopAsked := !m.handles.contains opened }] }
    -- its handle is kept, so nobody has asked the acceptor to stop
    have hacceptors : sent.acceptors = m.acceptors ++ [{ opened with stopAsked := false }] := by
      simp [sent, Manager.acceptors, hrunning, hkeptHandle]
    have hsent : sent.outlook = ⟨false, config.threadCount, sent.ports, sent.ports⟩ := by
      rw [Manager.outlook, hacceptors, List.map_append, hserved, List.map_singleton, ← hports]
      exact congrArg₂ (Outlook.mk · · m.ports m.ports) hstopped hthreads
    exact alone_proceed hsent host engine _
  | checking engine =>
    simp only [step]
    split
    · trivial
    · exact h
  | publishing engine => exact congrArg (fun o : Outlook => { o with running := true }) h
  | undoing cause stage =>
    cases stage with
    | engine => rfl
    | handles => exact ⟨h, rfl⟩
    | pool => exact ⟨h.1, m.pool.current_exit, h.2⟩
    | finished => exact h
  | answered answer => exact h

/-- A start goes on as was forecast. -/
lemma forecast_step (system : System ω) (hprepared : Prepared m stage) (h : Alone config m stage)
    (w : ω) : forecast system config (stage.step system config m w).manager
        (stage.step system config m w).world (stage.step system config m w).stage =
      forecast system config m w stage := by
  cases stage with
  | entering =>
    rw [step_entering h.1]
    cases hadmission : admission config.violations config.bindHost <;>
      simp [forecast, verdict, hadmission]
  | starting host =>
    obtain ⟨hthreads, -, hpool, -⟩ := h
    simp only [step, LoopPool.init_of_free hthreads hpool]
    cases hfault : LoopPool.fault? config.threadCount system.startLoop <;>
      simp [forecast, loopVerdict, hfault]
  | selecting host =>
    obtain ⟨loops, hselector, -⟩ := hprepared
    have hports : m.ports = [] := congrArg Outlook.ports h
    simp only [step, hselector, forecast_proceed, hports]
    rfl
  | binding host engine ports =>
    cases ports with
    | nil => exact forecast_proceed host engine []
    | cons port rest =>
      obtain ⟨l, hnext, -, -⟩ := LoopPool.Runs.next hprepared
      rw [forecast, portVerdict]
      rcases hlisten : system.openSocket w ⟨host, port⟩ with ⟨source | opened, w'⟩
      · rw [step_binding_of_closed hnext hlisten, PortPolicy.verdict_of_closed hlisten]
        cases hpolicy : config.portPolicy with
        | all => rfl
        | any => simp [forecast_proceed, portVerdict, Manager.ports, hpolicy]
      · rw [step_binding_of_open hnext hlisten, PortPolicy.verdict_of_open hlisten]
        rfl
  | keeping host engine opened rest => simp [step, forecast, Manager.ports]
  | spawning host engine opened rest => exact forecast_proceed host engine _
  | checking engine => cases hnone : m.handles.isEmpty <;> simp [step, forecast, hnone]
  | publishing engine => rfl
  | undoing cause stage => cases stage <;> rfl
  | answered answer => rfl

/-! ### The whole start -/

/-- With enough steps a start comes to its end. -/
lemma left_drive (system : System ω) (config : UdpConfig) (fuel : Nat) (stage : Startup)
    (m : Manager) (w : ω) :
    (drive system config fuel stage m w).stage.left config ≤ stage.left config - fuel := by
  induction fuel generalizing stage m w with
  | zero => exact le_rfl
  | succ fuel ih =>
    have hnow := left_step system config stage m w
    have hlater := ih (stage.step system config m w).stage (stage.step system config m w).manager
      (stage.step system config m w).world
    rw [drive_succ]
    dsimp only
    omega

/-- What holds of a start of a stopped manager at any moment. -/
structure OnCourse (system : System ω) (config : UdpConfig) (v : Except NetworkError (List Port))
    (stage : Startup) (m : Manager) (w : ω) : Prop where
  /-- Nothing runs but the loops in use. -/
  kept : m.Kept
  /-- The loops run until the start fails. -/
  prepared : Prepared m stage
  /-- Nobody else is at work on the manager. -/
  alone : Alone config m stage
  /-- It will come to this. -/
  forecast : forecast system config m w stage = v

lemma OnCourse.step {v : Except NetworkError (List Port)} (h : OnCourse system config v stage m w) :
    OnCourse system config v (stage.step system config m w).stage
      (stage.step system config m w).manager (stage.step system config m w).world where
  kept := kept_step system h.kept h.alone w
  prepared := prepared_step system config h.prepared w
  alone := alone_step system h.kept h.prepared h.alone w
  forecast := (forecast_step system h.prepared h.alone w).trans h.forecast

lemma OnCourse.drive {v : Except NetworkError (List Port)} (h : OnCourse system config v stage m w)
    (fuel : Nat) :
    OnCourse system config v (drive system config fuel stage m w).stage
      (drive system config fuel stage m w).manager (drive system config fuel stage m w).world := by
  induction fuel generalizing stage m w with
  | zero => exact h
  | succ fuel ih =>
    rw [drive_succ]
    exact ih h.step

end Startup

/-! ### What uses make of a manager -/

/-- How a stopped manager stands after a start with so many loops. -/
def standingAfter (threads : Nat) : Except NetworkError (List Port) → Standing
  | .ok ports => .running threads ports
  | .error _ => .stopped

namespace Manager

variable {ω : Type} {m : Manager} {standing : Standing}

/-- A manager that was never used is stopped. -/
lemma stands_fresh : ({} : Manager).Stands .stopped :=
  Kept.stands_stopped ⟨LoopPool.tidy_empty, fun s hs => by cases hs⟩ rfl rfl rfl

/-- A stopped manager has none of what a start makes. -/
lemma Stands.nothing (h : m.Stands .stopped) :
    m.engine = none ∧ m.pool.current = none ∧ m.handles = [] := by
  have hrunning : m.isRunning = false := congrArg Outlook.running h.outlook
  have hports : m.ports = [] := congrArg Outlook.ports h.outlook
  refine ⟨by simpa [isRunning] using hrunning, ?_, by simpa [ports] using hports⟩
  simpa [Standing.live] using h.live hrunning

/-- A start of a stopped manager is answered by its verdict, and leaves the manager as the verdict
has it. -/
lemma Stands.start_stopped (h : m.Stands .stopped) (system : System ω) (config : UdpConfig)
    (w : ω) :
    (m.init system config w).1 = (Startup.verdict system config w).map (fun _ => ()) ∧
      (m.init system config w).2.1.Stands
        (standingAfter config.threadCount (Startup.verdict system config w)) := by
  have hstart : Startup.OnCourse system config (Startup.verdict system config w) .entering m w :=
    ⟨h.kept, trivial, h.nothing, rfl⟩
  have hlast := hstart.drive (Startup.steps config)
  have hover :
      (Startup.drive system config (Startup.steps config) .entering m w).stage.left config = 0 := by
    have hleft := Startup.left_drive system config (Startup.steps config) .entering m w
    have henough : Startup.left config .entering ≤ Startup.steps config := Nat.le_succ _
    omega
  unfold init
  generalize Startup.drive system config (Startup.steps config) .entering m w = last
    at hlast hover ⊢
  obtain ⟨stage, manager, world, notes⟩ := last
  obtain ⟨hkept, hprepared, halone, hforecast⟩ := hlast
  rw [← hforecast]
  cases stage with
  | answered answer =>
    cases answer with
    | error cause =>
      obtain ⟨hengine, hpool, hhandles⟩ := halone
      exact ⟨rfl, hkept.stands_stopped hengine hpool hhandles⟩
    | ok =>
      refine ⟨rfl, halone, fun hstopped => ?_, fun _ => hprepared, hkept⟩
      have hrunning : manager.isRunning = true := congrArg Outlook.running halone
      rw [hrunning] at hstopped
      cases hstopped
  | undoing cause stage => cases stage <;> cases hover
  | _ => cases hover

/-- A manager that runs refuses a start, whatever its settings, and is what it was. -/
lemma init_of_running (hrunning : m.isRunning = true) (system : System ω) (config : UdpConfig)
    (w : ω) : m.init system config w = (.error .alreadyInitialized, m, w, []) := by
  have hstep : Startup.step system config .entering m w =
      ⟨.answered (.error .alreadyInitialized), m, w, []⟩ :=
    if_pos hrunning
  have hdrive : Startup.drive system config (Startup.steps config) .entering m w =
      ⟨.answered (.error .alreadyInitialized), m, w, []⟩ := by
    rw [Startup.steps, Startup.drive_succ, hstep]
    rfl
  rw [init, hdrive]

/-- A stop stops a manager, however it stands. -/
lemma Stands.stop (h : m.Stands standing) : m.exit.Stands .stopped := by
  refine Kept.stands_stopped ⟨h.kept.tidy.exit, fun s hs => ?_⟩ rfl m.pool.current_exit rfl
  obtain ⟨s', hs', rfl⟩ := List.mem_map.mp hs
  simpa [exit, Teardown.step, stopAcceptors] using h.kept.known s' hs'

/-- Stopping a manager again does nothing. -/
lemma exit_exit (m : Manager) : m.exit.exit = m.exit := by
  simp [exit, Teardown.step, stopAcceptors]

/-- A request leaves a manager standing as it does. -/
lemma Stands.connect (h : m.Stands standing) (journey : Journey) (id : ConnectionId)
    (request : Connect.Request) : (m.createConnection journey id request).2.Stands standing := by
  have hready := fun hrunning => (h.ready hrunning).createConnection journey id request
  rcases m.manager_createConnection journey id request with hsame | ⟨s, hdealt⟩
  · rwa [hsame]
  · rw [hdealt] at hready ⊢
    exact ⟨(m.outlook_deal s).trans h.outlook, fun hstopped => by simpa using h.live hstopped,
      hready, h.kept.deal s⟩

/-- Requests are refused for want of an engine exactly if the manager does not run. -/
lemma Stands.refuses (h : m.Stands standing) (journey : Journey) (id : ConnectionId)
    (request : Connect.Request) :
    (m.createConnection journey id request).1.answer = .error .notInitialized ↔
      m.isRunning = false := by
  constructor
  · intro hrefused
    by_contra hrunning
    exact (h.ready (by simpa using hrunning)).initialized journey id request hrefused
  · intro hstopped
    rw [createConnection_of_stopped (by simpa [isRunning] using hstopped)]

end Manager

end Switchboard.Udp
