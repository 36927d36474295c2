import Switchboard.Proofs.Connect.Requests
import Switchboard.Proofs.Tcp.Starting
import Switchboard.Proofs.Udp.Starting

/-!
# The lives of managers

A manager is started, stopped and asked for connections, by one thread or by several that take
turns.  What it is like after any such uses is told by a standing (`Standing.after`): a start of a
stopped manager leaves it stopped or running as its verdict has it, a manager that runs takes no
notice of further starts, and a stop stops it.  `Manager.stopped_or_running` is the result for both
kinds of managers: whatever was done with a manager, it acts as its standing says
(`Tcp.Manager.ActsAs`, `Udp.Manager.ActsAs`).

There is a third way to stand.  Settings are accepted that want more connections at a time than
there can be permits, and a start with such settings breaks down when its loops run already.  The
manager then neither runs nor is stopped, and takes no start until it is stopped again:
`Manager.left_behind` is such a start.
-/

namespace Switchboard

/-- What is done with a manager. -/
inductive Use (σ ρ : Type) where
  /-- It is started. -/
  | start (attempt : σ)
  /-- It is stopped. -/
  | stop
  /-- It is asked for a connection. -/
  | connect (request : ρ)

namespace Standing

variable {σ ρ : Type}

/-- What a use makes of a standing, given how a stopped manager stands after a start. -/
def after (fresh : σ → Standing) (standing : Standing) : Use σ ρ → Standing
  | .start attempt => standing.started (fresh attempt)
  | .stop => stopped
  | .connect _ => standing

/-- Only a start strands a manager. -/
lemma after_ne_stranded {fresh : σ → Standing} {standing : Standing} {u : Use σ ρ}
    (h : ∀ threads, standing ≠ stranded threads)
    (hfresh : ∀ attempt, u = .start attempt → ∀ threads, fresh attempt ≠ stranded threads) :
    ∀ threads, standing.after fresh u ≠ stranded threads := by
  cases u with
  | start attempt =>
    cases standing with
    | stopped => exact hfresh attempt rfl
    | _ => exact h
  | stop => exact fun threads => Standing.noConfusion
  | connect request => exact h

end Standing

/-! ### Stream managers -/

namespace Tcp

/-- A start that a manager is asked for. -/
structure Attempt (ω : Type) where
  /-- What the system answers it. -/
  system : System ω
  /-- Its settings. -/
  config : TcpConfig
  /-- The state of the system. -/
  world : ω

/-- How a stopped manager stands after a start. -/
def Attempt.standing {ω : Type} (a : Attempt ω) : Standing :=
  standingAfter a.config.threadCount (Startup.verdict a.system a.config a.world)

/-- A connection that a manager is asked for. -/
structure Errand where
  /-- What the request meets on its way. -/
  journey : Journey
  /-- The number of the connection. -/
  id : ConnectionId
  /-- The request. -/
  request : Connect.Request

/-- A start breaks down only over the number of permits. -/
lemma Startup.verdict_ne_breakdown {ω : Type} (system : System ω) {config : TcpConfig}
    (hlimit : config.maxConnections ≤ Gate.maxPermits) (w : ω) :
    verdict system config w ≠ .error .breakdown := by
  unfold verdict loopVerdict loadVerdict portVerdict
  split
  · simp
  · split
    · simp
    · split
      · simp
      · rw [if_neg (Nat.not_lt.mpr hlimit)]
        cases config.portPolicy.verdict system.listen _ config.ports [] config.ports w <;>
          simp [Except.mapError]

/-- A start that wants no more connections at a time than there can be permits strands no
manager. -/
lemma Attempt.standing_ne_stranded {ω : Type} (a : Attempt ω)
    (hlimit : a.config.maxConnections ≤ Gate.maxPermits) (threads : Nat) :
    a.standing ≠ .stranded threads := by
  have hverdict := Startup.verdict_ne_breakdown a.system hlimit a.world
  unfold standing
  revert hverdict
  rcases Startup.verdict a.system a.config a.world with (cause | _) | ports
  · exact fun _ => Standing.noConfusion
  · exact fun hno => absurd rfl hno
  · exact fun _ => Standing.noConfusion

namespace Manager

variable {ω : Type}

/-- What a use makes of a manager. -/
def use (m : Manager) : Use (Attempt ω) Errand → Manager
  | .start a => (m.init a.system a.config a.world).2.1
  | .stop => m.exit
  | .connect a => (m.createConnection a.journey a.id a.request).2

/-- A manager acts as one that stands in some way. -/
structure ActsAs (m : Manager) (standing : Standing) : Prop where
  /-- That is what is seen of it. -/
  outlook : m.outlook = standing.outlook
  /-- It refuses requests for want of an engine exactly if it does not run. -/
  refuses : ∀ journey id request,
    (m.createConnection journey id request).1.answer = .error .notInitialized ↔ m.isRunning = false
  /-- If it is stopped, a start is answered by its verdict, whatever has been before. -/
  heeds : standing = .stopped → ∀ {υ : Type} (system : System υ) config w,
    (m.init system config w).1 = (Startup.verdict system config w).map fun _ => ()
  /-- If it is stopped, it stays so if a start is refused. -/
  stays : standing = .stopped → ∀ {υ : Type} (system : System υ) config w cause,
    (m.init system config w).1 = .error (.refused cause) →
      (m.init system config w).2.1.outlook = Standing.stopped.outlook
  /-- If it runs, it refuses every start, whatever the settings, and is what it was. -/
  insists : m.isRunning = true → ∀ {υ : Type} (system : System υ) config w,
    m.init system config w = (.error (.refused .alreadyInitialized), m, w, [])
  /-- If it is stranded, it refuses every start, and is what it was. -/
  stranded : ∀ threads, standing = .stranded threads → ∀ {υ : Type} (system : System υ) config w,
    ∃ cause, m.init system config w = (.error (.refused cause), m, w, [])
  /-- Stopping it once is enough. -/
  stops : m.exit.exit = m.exit

lemma Stands.actsAs {m : Manager} {standing : Standing} (h : m.Stands standing) :
    m.ActsAs standing where
  outlook := h.outlook
  refuses := h.refuses
  heeds hstopped _ system config w := by
    subst hstopped
    exact (h.start_stopped system config w).1
  stays hstopped _ system config w cause hrefused := by
    subst hstopped
    obtain ⟨hanswer, hstands⟩ := h.start_stopped system config w
    rw [hrefused] at hanswer
    rw [hstands.outlook]
    cases hverdict : Startup.verdict system config w with
    | error setback =>
      rw [hverdict] at hanswer
      obtain rfl : Setback.refused cause = setback := Except.error.inj hanswer
      rfl
    | ok ports =>
      rw [hverdict] at hanswer
      cases hanswer
  insists hrunning _ system config w := init_of_running hrunning system config w
  stranded threads hstranded _ system config w := by
    subst hstranded
    exact h.start_stranded system config w
  stops := m.exit_exit

/-- A use leaves a manager standing as told. -/
lemma Stands.use {m : Manager} {standing : Standing} (h : m.Stands standing)
    (u : Use (Attempt ω) Errand) : (m.use u).Stands (standing.after Attempt.standing u) := by
  cases u with
  | start a =>
    cases standing with
    | stopped => exact (h.start_stopped a.system a.config a.world).2
    | running threads ports =>
      have hrunning : m.isRunning = true := congrArg Outlook.running h.outlook
      rw [Manager.use, init_of_running hrunning]
      exact h
    | stranded threads =>
      obtain ⟨cause, hinit⟩ := h.start_stranded a.system a.config a.world
      rw [Manager.use, hinit]
      exact h
  | stop => exact h.stop
  | connect a => exact h.connect a.journey a.id a.request

end Manager

end Tcp

/-! ### Datagram managers -/

namespace Udp

/-- A start that a manager is asked for. -/
structure Attempt (ω : Type) where
  /-- What the system answers it. -/
  system : System ω
  /-- Its settings. -/
  config : UdpConfig
  /-- The state of the system. -/
  world : ω

/-- How a stopped manager stands after a start. -/
def Attempt.standing {ω : Type} (a : Attempt ω) : Standing :=
  standingAfter a.config.threadCount (Startup.verdict a.system a.config a.world)

/-- A connection that a manager is asked for. -/
structure Errand where
  /-- What the request meets on its way. -/
  journey : Journey
  /-- The number of the connection. -/
  id : ConnectionId
  /-- The request. -/
  request : Connect.Request

/-- No start strands a manager. -/
lemma Attempt.standing_ne_stranded {ω : Type} (a : Attempt ω) (threads : Nat) :
    a.standing ≠ .stranded threads := by
  unfold standing
  cases Startup.verdict a.system a.config a.world <;> exact Standing.noConfusion

namespace Manager

variable {ω : Type}

/-- What a use makes of a manager. -/
def use (m : Manager) : Use (Attempt ω) Errand → Manager
  | .start a => (m.init a.system a.config a.world).2.1
  | .stop => m.exit
  | .connect a => (m.createConnection a.journey a.id a.request).2

/-- A manager acts as one that stands in some way. -/
structure ActsAs (m : Manager) (standing : Standing) : Prop where
  /-- That is what is seen of it. -/
  outlook : m.outlook = standing.outlook
  /-- It refuses requests for want of an engine exactly if it does not run. -/
  refuses : ∀ journey id request,
    (m.createConnection journey id request).1.answer = .error .notInitialized ↔ m.isRunning = false
  /-- If it is stopped, a start is answered by its verdict, whatever has been before. -/
  heeds : standing = .stopped → ∀ {υ : Type} (system : System υ) config w,
    (m.init system config w).1 = (Startup.verdict system config w).map fun _ => ()
  /-- If it is stopped, it stays so if a start is refused. -/
  stays : standing = .stopped → ∀ {υ : Type} (system : System υ) config w cause,
    (m.init system config w).1 = .error cause →
      (m.init system config w).2.1.outlook = Standing.stopped.outlook
  /-- If it runs, it refuses every start, whatever the settings, and is what it was. -/
  insists : m.isRunning = true → ∀ {υ : Type} (system : System υ) config w,
    m.init system config w = (.error .alreadyInitialized, m, w, [])
  /-- Stopping it once is enough. -/
  stops : m.exit.exit = m.exit

lemma Stands.actsAs {m : Manager} {standing : Standing} (h : m.Stands standing) :
    m.ActsAs standing where
  outlook := h.outlook
  refuses := h.refuses
  heeds hstopped _ system config w := by
    subst hstopped
    exact (h.start_stopped system config w).1
  stays hstopped _ system config w cause hrefused := by
    subst hstopped
    obtain ⟨hanswer, hstands⟩ := h.start_stopped system config w
    rw [hrefused] at hanswer
    rw [hstands.outlook]
    cases hverdict : Startup.verdict system config w with
    | error e => rfl
    | ok ports =>
      rw [hverdict] at hanswer
      cases hanswer
  insists hrunning _ system config w := init_of_running hrunning system config w
  stops := m.exit_exit

/-- A use leaves a manager standing as told. -/
lemma Stands.use {m : Manager} {standing : Standing} (h : m.Stands standing)
    (hwhole : ∀ threads, standing ≠ .stranded threads) (u : Use (Attempt ω) Errand) :
    (m.use u).Stands (standing.after Attempt.standing u) := by
  cases u with
  | start a =>
    cases standing with
    | stopped => exact (h.start_stopped a.system a.config a.world).2
    | running threads ports =>
      have hrunning : m.isRunning = true := congrArg Outlook.running h.outlook
      rw [Manager.use, init_of_running hrunning]
      exact h
    | stranded threads => exact absurd rfl (hwhole threads)
  | stop => exact h.stop
  | connect a => exact h.connect a.journey a.id a.request

end Manager

end Udp

/-! ### Both kinds -/

/-- Whatever was done with a manager, of streams or of datagrams, it acts as its standing says.  A
manager of datagrams is stopped or runs; so is a manager of streams none of whose starts wanted more
connections at a time than there can be permits. -/
theorem Manager.stopped_or_running {ω υ : Type} :
    (∀ us : List (Use (Tcp.Attempt ω) Tcp.Errand),
        let standing := us.foldl (Standing.after Tcp.Attempt.standing) .stopped
        (us.foldl Tcp.Manager.use {}).ActsAs standing ∧
          ((∀ a, .start a ∈ us → a.config.maxConnections ≤ Tcp.Gate.maxPermits) →
            ∀ threads, standing ≠ .stranded threads)) ∧
      ∀ us : List (Use (Udp.Attempt υ) Udp.Errand),
        let standing := us.foldl (Standing.after Udp.Attempt.standing) .stopped
        (us.foldl Udp.Manager.use {}).ActsAs standing ∧
          ∀ threads, standing ≠ .stranded threads := by
  constructor
  · intro us
    obtain ⟨hstands, hwhole⟩ := List.foldl_rel (l := us)
      (r := fun (m : Tcp.Manager) standing => m.Stands standing ∧
        ((∀ a : Tcp.Attempt ω, .start a ∈ us → a.config.maxConnections ≤ Tcp.Gate.maxPermits) →
          ∀ threads, standing ≠ Standing.stranded threads))
      ⟨Tcp.Manager.stands_fresh, fun _ threads => Standing.noConfusion⟩
      fun u hu m standing h => ⟨h.1.use u, fun hlimit => Standing.after_ne_stranded (h.2 hlimit)
        fun a ha => a.standing_ne_stranded (hlimit a (ha ▸ hu))⟩
    exact ⟨hstands.actsAs, hwhole⟩
  · intro us
    obtain ⟨hstands, hwhole⟩ := List.foldl_rel (l := us)
      (r := fun (m : Udp.Manager) standing => m.Stands standing ∧
        ∀ threads, standing ≠ Standing.stranded threads)
      ⟨Udp.Manager.stands_fresh, fun threads => Standing.noConfusion⟩
      fun u _ m standing h => ⟨h.1.use h.2 u,
        Standing.after_ne_stranded h.2 fun a _ => a.standing_ne_stranded⟩
    exact ⟨hstands.actsAs, hwhole⟩

/-- A start that cannot have its certificate, one that can do without, and one with settings that
are no good. -/
def Tcp.attempts : List (Use (Tcp.Attempt Unit) Tcp.Errand) :=
  let sealed : TcpConfig :=
    { ports := [80, 81], threadCount := 1
      serverCertificate := some { cert := some "", key := some "" } }
  [.start ⟨.bare, { sealed with requireTls := true }, ()⟩, .start ⟨.bare, sealed, ()⟩,
    .start ⟨.bare, { sealed with threadCount := 0 }, ()⟩]

/-- A start whose loop the system cannot start, one that has to make do with the second port, and a
stop. -/
def Udp.attempts : List (Use (Udp.Attempt Unit) Udp.Errand) :=
  let choosy : Udp.System Unit :=
    { openSocket := fun w endpoint =>
        (if endpoint.port = 80 then .error (.os 98) else .ok endpoint.port, w) }
  let config : UdpConfig := { ports := [80, 81], threadCount := 1, portPolicy := .any }
  [.start ⟨{ choosy with startLoop := fun _ => .error (.os 11) }, config, ()⟩,
    .start ⟨choosy, config, ()⟩, .stop]

/-- The manager of streams runs with what the second start gave it.  The manager of datagrams runs
on the second port until it is stopped. -/
theorem Manager.stopped_or_running_retried :
    (Tcp.attempts.foldl Tcp.Manager.use {}).outlook = ⟨true, 1, [80, 81], [80, 81]⟩ ∧
      (∀ threads, Tcp.attempts.foldl (Standing.after Tcp.Attempt.standing) .stopped ≠
        .stranded threads) ∧
      ((Udp.attempts.take 1).foldl Udp.Manager.use {}).outlook = ⟨false, 0, [], []⟩ ∧
      ((Udp.attempts.take 2).foldl Udp.Manager.use {}).outlook = ⟨true, 1, [81], [81]⟩ ∧
      (Udp.attempts.foldl Udp.Manager.use {}).outlook = ⟨false, 0, [], []⟩ := by
  obtain ⟨hstreams, hdatagrams⟩ : _ ∧ _ := Manager.stopped_or_running
  have hlimit : ∀ a : Tcp.Attempt Unit, .start a ∈ Tcp.attempts →
      a.config.maxConnections ≤ Tcp.Gate.maxPermits := by
    intro a ha
    simp only [Tcp.attempts, List.mem_cons, Use.start.injEq, List.not_mem_nil, or_false] at ha
    rcases ha with rfl | rfl | rfl <;> decide
  refine ⟨(hstreams Tcp.attempts).1.outlook.trans ?_, (hstreams Tcp.attempts).2 hlimit,
    (hdatagrams (Udp.attempts.take 1)).1.outlook.trans ?_,
    (hdatagrams (Udp.attempts.take 2)).1.outlook.trans ?_,
    (hdatagrams Udp.attempts).1.outlook.trans ?_⟩
  all_goals decide +kernel

/-- The settings are accepted, but the manager is to let in more connections at a time than there
can be permits.  The start breaks down and leaves two loops behind; the manager does not run, lists
no port, and does not take the next start, which is without fault. -/
theorem Manager.left_behind :
    let config : TcpConfig :=
      { ports := [80], threadCount := 2, maxConnections := Tcp.Gate.maxPermits + 1 }
    let broken := ({} : Tcp.Manager).init .bare config ()
    config.violations = [] ∧ broken.1 = .error .breakdown ∧
      broken.2.1.isRunning = false ∧ broken.2.1.threadCount = 2 ∧ broken.2.1.ports = [] ∧
      (broken.2.1.init .bare { ports := [80], threadCount := 2 } ()).1 =
        .error (.refused .alreadyInitialized) := by
  decide +kernel

end Switchboard
