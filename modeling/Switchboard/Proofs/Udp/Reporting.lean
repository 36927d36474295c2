import Switchboard.Proofs.Manager.Ports
import Switchboard.Proofs.Udp.Starting

/-!
# What starts of datagram managers report

The account is that of a stream manager's start without the certificates: the service is told of the
ports that fail to open, and of nothing else (`Manager.Stands.reports_stopped`).
-/

namespace Switchboard.Udp

namespace Startup

variable {ω : Type}

/-- What is reported by a start that has still to ask for some ports. -/
def portReport (system : System ω) (config : UdpConfig) (host : IpAddress) (rest : List Port)
    (w : ω) : Noted ω :=
  let asked := config.portPolicy.asking system.openSocket host rest w
  (asked.1, asked.2.map bindFailed)

/-- What is reported by a start whose settings are right. -/
def loopReport (system : System ω) (config : UdpConfig) (host : IpAddress) (w : ω) : Noted ω :=
  match LoopPool.fault? config.threadCount system.startLoop with
  | some _ => (w, [])
  | none => portReport system config host config.ports w

/-- What is reported by a start of a stopped manager, and the state of the system after it. -/
def report (system : System ω) (config : UdpConfig) (w : ω) : Noted ω :=
  match admission config.violations config.bindHost with
  | .error _ => (w, [])
  | .ok host => loopReport system config host w

/-- What will be reported by a start that has come so far. -/
def ahead (system : System ω) (config : UdpConfig) (w : ω) : Startup → Noted ω
  | entering => report system config w
  | starting host => loopReport system config host w
  | selecting host => portReport system config host config.ports w
  | binding host _ rest => portReport system config host rest w
  | keeping host _ _ rest | spawning host _ _ rest =>
    portReport system config host (if config.portPolicy = .any then [] else rest) w
  | checking _ | publishing _ | undoing _ _ | answered _ => (w, [])

variable {system : System ω} {config : UdpConfig} {m : Manager} {stage : Startup} {w : ω}

lemma ahead_proceed (system : System ω) (config : UdpConfig) (host : IpAddress) (engine : Engine)
    (ports : List Port) (w : ω) :
    ahead system config w (proceed config host engine ports) =
      portReport system config host ports w := by
  cases ports with
  | nil =>
    simp only [proceed]
    split <;> rfl
  | cons port rest => rfl

/-- What a step reports is what was ahead, and the rest of it stays ahead. -/
lemma ahead_step (system : System ω) (hprepared : Prepared m stage) (h : Alone config m stage)
    (w : ω) : ahead system config w stage =
      let now := stage.step system config m w
      Noted.andThen (now.world, now.notes) fun w => ahead system config w now.stage := by
  cases stage with
  | entering =>
    rw [step_entering h.1, ahead, report]
    cases admission config.violations config.bindHost <;> rfl
  | starting host =>
    obtain ⟨hthreads, -, hpool, -⟩ := h
    simp only [step, LoopPool.init_of_free hthreads hpool]
    rw [ahead, loopReport]
    cases LoopPool.fault? config.threadCount system.startLoop <;> rfl
  | selecting host =>
    obtain ⟨loops, hselector, -⟩ := hprepared
    simp only [step, hselector]
    exact (ahead_proceed system config host _ _ w).symm
  | binding host engine ports =>
    cases ports with
    | nil => exact (ahead_proceed system config host engine [] w).symm
    | cons port rest =>
      obtain ⟨l, hnext, -, -⟩ := LoopPool.Runs.next hprepared
      rw [ahead, portReport]
      rcases hlisten : system.openSocket w ⟨host, port⟩ with ⟨source | opened, w'⟩
      · rw [step_binding_of_closed hnext hlisten, PortPolicy.asking_of_closed hlisten]
        cases hpolicy : config.portPolicy with
        | all => rfl
        | any => simp [ahead_proceed, portReport, hpolicy, Noted.andThen]
      · rw [step_binding_of_open hnext hlisten, PortPolicy.asking_of_open hlisten]
        rfl
  | keeping host engine opened rest => rfl
  | spawning host engine opened rest => exact (ahead_proceed system config host engine _ w).symm
  | checking engine =>
    simp only [step]
    split <;> rfl
  | publishing engine => rfl
  | undoing cause stage => cases stage <;> rfl
  | answered answer => rfl

/-- A start that goes far enough reports what is ahead of it. -/
lemma drive_reports {v : Except NetworkError (List Port)} (h : OnCourse system config v stage m w)
    (fuel : Nat) (henough : stage.left config ≤ fuel) :
    let last := drive system config fuel stage m w
    (last.world, last.notes) = ahead system config w stage := by
  induction fuel generalizing stage m w with
  | zero =>
    cases stage with
    | answered answer => rfl
    | undoing cause stage => cases stage <;> cases henough
    | _ => cases henough
  | succ fuel ih =>
    have hleft := left_step system config stage m w
    have hlater := ih h.step (by omega)
    dsimp only at hlater
    rw [drive_succ, ahead_step system h.prepared h.alone w]
    dsimp only
    rw [Noted.andThen, ← hlater]

end Startup

/-- A start of a stopped manager reports what it has to, and leaves the system as it has to. -/
lemma Manager.Stands.reports_stopped {ω : Type} {m : Manager} (h : m.Stands .stopped)
    (system : System ω) (config : UdpConfig) (w : ω) :
    (m.init system config w).2.2 = Startup.report system config w := by
  have hstart : Startup.OnCourse system config (Startup.verdict system config w) .entering m w :=
    ⟨h.kept, trivial, h.nothing, rfl⟩
  have hlast := Startup.drive_reports hstart (Startup.steps config) (Nat.le_succ _)
  rw [init]
  generalize Startup.drive system config (Startup.steps config) .entering m w = last at hlast ⊢
  obtain ⟨stage, manager, world, notes⟩ := last
  cases stage <;> exact hlast

end Switchboard.Udp
