import Switchboard.Proofs.Manager.Ports
import Switchboard.Proofs.Tcp.Starting

/-!
# What starts of stream managers report

`Startup.report` says what the service is told by a start of a stopped manager, and which state the
system is in afterwards: certificates are reported as they are loaded, and then ports as they fail
to open.  As with its verdict, no step of a start changes what will have been reported in the end
(`Startup.ahead_step`), so a start reports that (`Manager.Stands.reports_stopped`).
-/

namespace Switchboard.Tcp

namespace Startup

variable {ω : Type}

/-! ### Certificates -/

/-- Why a certificate that is configured cannot be loaded. -/
def flaw? {α : Type} (load : Certificate → Except NetworkError α)
    (certificate : Option Certificate) : Option NetworkError :=
  certificate.bind fun c =>
    match load c with
    | .ok _ => none
    | .error e => some e

/-- The material of a certificate that is configured and can be loaded. -/
def loaded? {α : Type} (load : Certificate → Except NetworkError α)
    (certificate : Option Certificate) : Option α :=
  certificate.bind fun c => (load c).toOption

/-- A certificate that cannot be loaded is reported once; it is done without, unless encryption is
required. -/
lemma material_eq {α : Type} (role : CertificateRole) (required : Bool)
    (load : Certificate → Except NetworkError α) (certificate : Option Certificate) :
    material role required load certificate =
      (match required, flaw? load certificate with
        | true, some e => .error e
        | _, _ => .ok (loaded? load certificate),
      (flaw? load certificate).toList.map (loadFailed role)) := by
  cases certificate with
  | none => cases required <;> rfl
  | some c =>
    cases hload : load c <;> cases required <;>
      simp [material, flaw?, loaded?, hload, Except.toOption]

/-- What is wrong with the server's certificate. -/
def serverFlaw? (system : System ω) (config : TcpConfig) : Option NetworkError :=
  flaw? system.serverMaterial config.serverCertificate

/-- What is wrong with the client's certificate. -/
def clientFlaw? (system : System ω) (config : TcpConfig) : Option NetworkError :=
  flaw? system.clientMaterial config.clientCertificate

/-- The first certificate with which something is wrong; the server's comes first. -/
def firstFlaw? (system : System ω) (config : TcpConfig) : Option (CertificateRole × NetworkError) :=
  ((serverFlaw? system config).map fun e => (.server, e)).or
    ((clientFlaw? system config).map fun e => (.client, e))

/-- What the service is told of certificates if all that cannot be loaded are done without. -/
def flaws (system : System ω) (config : TcpConfig) : List Note :=
  (serverFlaw? system config).toList.map (loadFailed .server) ++
    (clientFlaw? system config).toList.map (loadFailed .client)

/-- If encryption is required, the first certificate that cannot be loaded fails the start.
Otherwise each role has what could be loaded for it. -/
lemma materials_eq (system : System ω) (config : TcpConfig) :
    materials system config =
      match config.requireTls, firstFlaw? system config with
      | true, some (role, e) => (.error e, [loadFailed role e])
      | _, _ => (.ok (loaded? system.serverMaterial config.serverCertificate,
          loaded? system.clientMaterial config.clientCertificate), flaws system config) := by
  simp only [materials, material_eq, firstFlaw?, flaws, serverFlaw?, clientFlaw?]
  cases config.requireTls <;> cases flaw? system.serverMaterial config.serverCertificate <;>
    cases flaw? system.clientMaterial config.clientCertificate <;> rfl

/-- Unless encryption is required and something is wrong, a start goes on. -/
lemma materials_of_usable {system : System ω} {config : TcpConfig}
    (h : config.requireTls = false ∨ firstFlaw? system config = none) :
    materials system config =
      (.ok (loaded? system.serverMaterial config.serverCertificate,
          loaded? system.clientMaterial config.clientCertificate), flaws system config) := by
  rw [materials_eq]
  rcases h with hplain | hsound
  · rw [hplain]
  · rw [hsound]
    cases config.requireTls <;> rfl

/-- The service is told of certificates that could not be loaded, and of nothing else. -/
lemma loadFailed_of_mem_flaws {system : System ω} {config : TcpConfig} {n : Note}
    (hn : n ∈ flaws system config) : ∃ role e, n = loadFailed role e := by
  rcases List.mem_append.mp hn with hserver | hclient
  · obtain ⟨e, -, rfl⟩ := List.mem_map.mp hserver
    exact ⟨_, _, rfl⟩
  · obtain ⟨e, -, rfl⟩ := List.mem_map.mp hclient
    exact ⟨_, _, rfl⟩

/-! ### Reports -/

/-- What is reported by a start that has still to ask for some ports. -/
def portReport (system : System ω) (config : TcpConfig) (host : IpAddress) (rest : List Port)
    (w : ω) : Noted ω :=
  let asked := config.portPolicy.asking system.listen host rest w
  (asked.1, asked.2.map bindFailed)

/-- What is reported by a start whose loops run. -/
def loadReport (system : System ω) (config : TcpConfig) (host : IpAddress) (w : ω) : Noted ω :=
  match materials system config with
  | (.error _, notes) => (w, notes)
  | (.ok _, notes) =>
    Noted.andThen (w, notes) fun w =>
      if config.maxConnections > Gate.maxPermits then (w, [])
      else portReport system config host config.ports w

/-- What is reported by a start whose settings are right. -/
def loopReport (system : System ω) (config : TcpConfig) (host : IpAddress) (w : ω) : Noted ω :=
  match LoopPool.fault? config.threadCount system.startLoop with
  | some _ => (w, [])
  | none => loadReport system config host w

/-- What is reported by a start of a stopped manager, and the state of the system after it. -/
def report (system : System ω) (config : TcpConfig) (w : ω) : Noted ω :=
  match admission config.violations config.bindHost with
  | .error _ => (w, [])
  | .ok host => loopReport system config host w

/-- Certificates that can be loaded or done without are not in the verdict. -/
lemma verdict_of_usable {system : System ω} {config : TcpConfig} {host : IpAddress} {w : ω}
    (hadmission : admission config.violations config.bindHost = .ok host)
    (husable : config.requireTls = false ∨ firstFlaw? system config = none) :
    verdict system config w =
      match LoopPool.fault? config.threadCount system.startLoop with
      | some source => .error (.refused (.io source))
      | none =>
        if config.maxConnections > Gate.maxPermits then .error .breakdown
        else portVerdict system config host [] config.ports w := by
  cases hloops : LoopPool.fault? config.threadCount system.startLoop <;>
    simp only [verdict, hadmission, loopVerdict, hloops, loadVerdict, materials_of_usable husable]

/-- They are reported before anything else if the loops run. -/
lemma report_of_usable {system : System ω} {config : TcpConfig} {host : IpAddress} {w : ω}
    (hadmission : admission config.violations config.bindHost = .ok host)
    (husable : config.requireTls = false ∨ firstFlaw? system config = none)
    (hloops : LoopPool.fault? config.threadCount system.startLoop = none) :
    report system config w =
      Noted.andThen (w, flaws system config) fun w =>
        if config.maxConnections > Gate.maxPermits then (w, [])
        else portReport system config host config.ports w := by
  simp only [report, hadmission, loopReport, hloops, loadReport, materials_of_usable husable]

/-- What will be reported by a start that has come so far. -/
def ahead (system : System ω) (config : TcpConfig) (w : ω) : Startup → Noted ω
  | entering => report system config w
  | starting host => loopReport system config host w
  | loading host => loadReport system config host w
  | binding host _ rest => portReport system config host rest w
  | listing host _ _ rest | spawning host _ _ rest =>
    portReport system config host (if config.portPolicy = .any then [] else rest) w
  | checking _ | publishing _ | undoing _ _ | answered _ | brokenDown => (w, [])

variable {system : System ω} {config : TcpConfig} {m : Manager} {stage : Startup} {w : ω}

lemma ahead_proceed (system : System ω) (config : TcpConfig) (host : IpAddress) (engine : Engine)
    (ports : List Port) (w : ω) :
    ahead system config w (proceed config host engine ports) =
      portReport system config host ports w := by
  cases ports with
  | nil =>
    simp only [proceed]
    split <;> rfl
  | cons port rest => rfl

/-- What a step reports is what was ahead, and the rest of it stays ahead. -/
lemma ahead_step (system : System ω) (hprepared : Prepared m stage) (h : Alone config m stage)
    (w : ω) : ahead system config w stage =
      let now := stage.step system config m w
      Noted.andThen (now.world, now.notes) fun w => ahead system config w now.stage := by
  cases stage with
  | entering =>
    rw [step_entering h.1, ahead, report]
    cases admission config.violations config.bindHost <;> rfl
  | starting host =>
    obtain ⟨hthreads, -, hpool, -⟩ := h
    simp only [step, LoopPool.init_of_free hthreads hpool]
    rw [ahead, loopReport]
    cases LoopPool.fault? config.threadCount system.startLoop <;> rfl
  | loading host =>
    obtain ⟨loops, hselector, -⟩ := hprepared
    simp only [step, hselector]
    rw [ahead, loadReport]
    obtain ⟨e | loaded, notes⟩ := materials system config
    · simp [ahead, Noted.andThen]
    · by_cases hlimit : config.maxConnections > Gate.maxPermits
      · simp only [hlimit, if_true]
        rfl
      · simp only [hlimit, if_false, ahead_proceed]
  | binding host engine ports =>
    cases ports with
    | nil => exact (ahead_proceed system config host engine [] w).symm
    | cons port rest =>
      obtain ⟨l, hnext, -, -⟩ := LoopPool.Runs.next hprepared
      rw [ahead, portReport]
      rcases hlisten : system.listen w ⟨host, port⟩ with ⟨source | opened, w'⟩
      · rw [step_binding_of_closed hnext hlisten, PortPolicy.asking_of_closed hlisten]
        cases hpolicy : config.portPolicy with
        | all => rfl
        | any => simp [ahead_proceed, portReport, hpolicy, Noted.andThen]
      · rw [step_binding_of_open hnext hlisten, PortPolicy.asking_of_open hlisten]
        rfl
  | listing host engine opened rest => rfl
  | spawning host engine opened rest =>
    rw [step_spawning]
    exact (ahead_proceed system config host engine _ w).symm
  | checking engine =>
    simp only [step]
    split <;> rfl
  | publishing engine => rfl
  | undoing cause stage => cases stage <;> rfl
  | answered answer => rfl
  | brokenDown => rfl

/-- A start that goes far enough reports what is ahead of it. -/
lemma drive_reports {v : Except Setback (List Port)} (h : OnCourse system config v stage m w)
    (fuel : Nat) (henough : stage.left config ≤ fuel) :
    let last := drive system config fuel stage m w
    (last.world, last.notes) = ahead system config w stage := by
  induction fuel generalizing stage m w with
  | zero =>
    cases stage with
    | answered answer => rfl
    | brokenDown => rfl
    | undoing cause stage => cases stage <;> cases henough
    | _ => cases henough
  | succ fuel ih =>
    have hleft := left_step system config stage m w
    have hlater := ih h.step (by omega)
    dsimp only at hlater
    rw [drive_succ, ahead_step system h.prepared h.alone w]
    dsimp only
    rw [Noted.andThen, ← hlater]

end Startup

/-- A start of a stopped manager reports what it has to, and leaves the system as it has to. -/
lemma Manager.Stands.reports_stopped {ω : Type} {m : Manager} (h : m.Stands .stopped)
    (system : System ω) (config : TcpConfig) (w : ω) :
    (m.init system config w).2.2 = Startup.report system config w := by
  have hstart : Startup.OnCourse system config (Startup.verdict system config w) .entering m w :=
    ⟨h.kept, trivial, h.nothing, rfl⟩
  have hlast := Startup.drive_reports hstart (Startup.steps config) (Nat.le_succ _)
  rw [init]
  generalize Startup.drive system config (Startup.steps config) .entering m w = last at hlast ⊢
  obtain ⟨stage, manager, world, notes⟩ := last
  cases stage <;> exact hlast

end Switchboard.Tcp
