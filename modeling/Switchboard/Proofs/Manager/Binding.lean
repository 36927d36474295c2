import Switchboard.Proofs.Tcp.Reporting
import Switchboard.Proofs.Udp.Reporting

/-!
# Ports of both managers

A start of a stopped manager that gets as far as its ports, be it of a stream or of a datagram
manager, does with them what its policy says (`PortPolicy.binding`): it answers that, lists those
ports, has asked for those and no others, and tells the service of those failures.  So what a policy
promises (`Binding.Obeys`) holds of both kinds of managers, and from the same answers of the system
they make the same (`ports_by_policy`).
-/

namespace Switchboard

/-- What the service is told of a port that cannot be opened. -/
def Callback.bindReport (e : NetworkError) : Callback := .error "acceptor" "bind" e.code e.message

/-- What the service is told of ports that cannot be opened, in order. -/
def Note.bindReports (history : List Note) : List Callback := reports "acceptor" "bind" history

/-- What a start comes to, as seen from outside: its answer, the ports that are listed afterwards,
the trials that were made, and what was noted. -/
structure Binding.Meets {ε : Type} (b : Binding) (refused : NetworkError → ε)
    (answer : Except ε Unit) (ports : List Port) (made : List Trial) (history : List Note) :
    Prop where
  /-- That is the answer. -/
  answer : answer = b.answer.mapError refused
  /-- Those ports are listed. -/
  ports : ports = b.ports
  /-- For those was asked. -/
  made : made = b.made
  /-- The service is told of those failures. -/
  reports : Note.bindReports history = b.reported.map Callback.bindReport

/-! ### Stream managers -/

namespace Tcp

/-- A start of a stopped manager that gets as far as its ports: its settings are right, its loops
start, its certificates are no obstacle and there can be as many permits as it wants.  The system
answers to one port after the other. -/
structure Startup.Asks (m : Manager) (system : System (List Trial)) (config : TcpConfig)
    (policy : PortPolicy) (host : IpAddress) (wanted : List Port)
    (results : Nat → Except SystemError Port) : Prop where
  /-- The manager is stopped. -/
  stopped : m.Stands .stopped
  /-- The settings are right. -/
  admitted : admission config.violations config.bindHost = .ok host
  /-- Its loops start. -/
  loops : LoopPool.fault? config.threadCount system.startLoop = none
  /-- The certificates can be loaded or done without. -/
  loaded : config.requireTls = false ∨ firstFlaw? system config = none
  /-- There are enough permits. -/
  permits : config.maxConnections ≤ Gate.maxPermits
  /-- The policy. -/
  policy : config.portPolicy = policy
  /-- The ports. -/
  ports : config.ports = wanted
  /-- The answers of the system. -/
  script : system.listen = Trial.script results

variable {m : Manager} {system : System (List Trial)} {config : TcpConfig} {policy : PortPolicy}
  {host : IpAddress} {wanted : List Port} {results : Nat → Except SystemError Port}

/-- The verdict on such a start is that of its policy. -/
lemma Startup.Asks.verdict (h : Asks m system config policy host wanted results) :
    Startup.verdict system config [] =
      ((policy.answer (policy.made (Trial.ofPorts host wanted results))).bind
        (PortPolicy.enough wanted)).mapError .refused := by
  simp only [verdict_of_usable h.admitted h.loaded, h.loops, if_neg (Nat.not_lt.mpr h.permits),
    portVerdict, h.policy, h.ports, h.script, PortPolicy.verdict_script]

/-- Such a start reports what its policy makes it report, behind its certificates. -/
lemma Startup.Asks.report (h : Asks m system config policy host wanted results) :
    let made := policy.made (Trial.ofPorts host wanted results)
    Startup.report system config [] =
      (made, flaws system config ++ (Trial.failures made).map bindFailed) := by
  have hasked := policy.asking_script host wanted results []
  simp only [List.length_nil, Nat.zero_add, List.nil_append] at hasked
  simp only [report_of_usable h.admitted h.loaded h.loops, Noted.andThen,
    if_neg (Nat.not_lt.mpr h.permits), portReport, h.policy, h.ports, h.script, hasked]

/-- What is told of certificates is not about ports. -/
lemma Startup.bindReports_flaws (system : System (List Trial)) (config : TcpConfig) :
    Note.bindReports (flaws system config) = [] := by
  refine Note.reports_eq_nil fun call hcall => ?_
  obtain ⟨role, e, hcall⟩ := loadFailed_of_mem_flaws (Note.mem_callbacks.mp hcall)
  obtain rfl := Note.callback.inj hcall
  rfl

/-- Such a start comes to what its policy makes of its ports. -/
lemma Startup.Asks.meets (h : Asks m system config policy host wanted results) :
    let r := m.init system config []
    (policy.binding host wanted results).Meets .refused r.1 r.2.1.ports r.2.2.1 r.2.2.2 := by
  intro r
  obtain ⟨hanswer, hstands⟩ := h.stopped.start_stopped system config []
  have hreports := h.stopped.reports_stopped system config []
  rw [h.verdict] at hanswer hstands
  rw [h.report] at hreports
  have hports : r.2.1.ports = _ := congrArg Outlook.ports hstands.outlook
  have hnotes := congrArg Prod.snd hreports
  constructor
  case answer =>
    rw [hanswer, PortPolicy.binding]
    cases (policy.answer (policy.made (Trial.ofPorts host wanted results))).bind
      (PortPolicy.enough wanted) <;> rfl
  case ports =>
    rw [hports, PortPolicy.binding]
    cases (policy.answer (policy.made (Trial.ofPorts host wanted results))).bind
      (PortPolicy.enough wanted) <;> rfl
  case made => exact congrArg Prod.fst hreports
  case reports =>
    rw [hnotes, Note.bindReports, Note.reports_append, ← Note.bindReports, bindReports_flaws]
    exact Note.reports_map _ _ _

end Tcp

/-! ### Datagram managers -/

namespace Udp

/-- A start of a stopped manager that gets as far as its ports: its settings are right and its loops
start.  The system answers to one port after the other. -/
structure Startup.Asks (m : Manager) (system : System (List Trial)) (config : UdpConfig)
    (policy : PortPolicy) (host : IpAddress) (wanted : List Port)
    (results : Nat → Except SystemError Port) : Prop where
  /-- The manager is stopped. -/
  stopped : m.Stands .stopped
  /-- The settings are right. -/
  admitted : admission config.violations config.bindHost = .ok host
  /-- Its loops start. -/
  loops : LoopPool.fault? config.threadCount system.startLoop = none
  /-- The policy. -/
  policy : config.portPolicy = policy
  /-- The ports. -/
  ports : config.ports = wanted
  /-- The answers of the system. -/
  script : system.openSocket = Trial.script results

variable {m : Manager} {system : System (List Trial)} {config : UdpConfig} {policy : PortPolicy}
  {host : IpAddress} {wanted : List Port} {results : Nat → Except SystemError Port}

/-- The verdict on such a start is that of its policy. -/
lemma Startup.Asks.verdict (h : Asks m system config policy host wanted results) :
    Startup.verdict system config [] =
      (policy.answer (policy.made (Trial.ofPorts host wanted results))).bind
        (PortPolicy.enough wanted) := by
  simp only [Startup.verdict, h.admitted, loopVerdict, h.loops, portVerdict, h.policy, h.ports,
    h.script, PortPolicy.verdict_script]

/-- Such a start reports what its policy makes it report. -/
lemma Startup.Asks.report (h : Asks m system config policy host wanted results) :
    let made := policy.made (Trial.ofPorts host wanted results)
    Startup.report system config [] = (made, (Trial.failures made).map bindFailed) := by
  have hasked := policy.asking_script host wanted results []
  simp only [List.length_nil, Nat.zero_add, List.nil_append] at hasked
  simp only [Startup.report, h.admitted, loopReport, h.loops, portReport, h.policy, h.ports,
    h.script, hasked]

/-- Such a start comes to what its policy makes of its ports. -/
lemma Startup.Asks.meets (h : Asks m system config policy host wanted results) :
    let r := m.init system config []
    (policy.binding host wanted results).Meets id r.1 r.2.1.ports r.2.2.1 r.2.2.2 := by
  intro r
  obtain ⟨hanswer, hstands⟩ := h.stopped.start_stopped system config []
  have hreports := h.stopped.reports_stopped system config []
  rw [h.verdict] at hanswer hstands
  rw [h.report] at hreports
  have hports : r.2.1.ports = _ := congrArg Outlook.ports hstands.outlook
  have hnotes := congrArg Prod.snd hreports
  constructor
  case answer =>
    rw [hanswer, PortPolicy.binding]
    cases (policy.answer (policy.made (Trial.ofPorts host wanted results))).bind
      (PortPolicy.enough wanted) <;> rfl
  case ports =>
    rw [hports, PortPolicy.binding]
    cases (policy.answer (policy.made (Trial.ofPorts host wanted results))).bind
      (PortPolicy.enough wanted) <;> rfl
  case made => exact congrArg Prod.fst hreports
  case reports =>
    rw [hnotes]
    exact Note.reports_map _ _ _

end Udp

/-! ### Both -/

/-- **Ports are opened by policy, by both managers alike.**  What a policy makes of the answers of
the system is what it promises, and a start of a stopped stream manager and one of a stopped
datagram manager that get as far as their ports both come to that. -/
theorem ports_by_policy (policy : PortPolicy) (host : IpAddress) (wanted : List Port)
    (results : Nat → Except SystemError Port) :
    let b := policy.binding host wanted results
    b.Obeys policy host wanted results ∧
      (∀ m system config, Tcp.Startup.Asks m system config policy host wanted results →
        let r := m.init system config []
        b.Meets .refused r.1 r.2.1.ports r.2.2.1 r.2.2.2) ∧
      ∀ m system config, Udp.Startup.Asks m system config policy host wanted results →
        let r := m.init system config []
        b.Meets id r.1 r.2.1.ports r.2.2.1 r.2.2.2 :=
  ⟨PortPolicy.obeys_binding host wanted results policy, fun _ _ _ => Tcp.Startup.Asks.meets,
    fun _ _ _ => Udp.Startup.Asks.meets⟩

/-- A system that loads no certificate, refuses the first port it is asked for, and has a port for
every further request. -/
def grudging : Nat → Except SystemError Port
  | 0 => .error (.os 98)
  | _ => .ok 49152

/-- A stream manager on such a system. -/
def Tcp.System.grudging : Tcp.System (List Trial) where
  serverMaterial _ := .error .notInitialized
  clientMaterial _ := .error .notInitialized
  listen := Trial.script Switchboard.grudging

/-- A datagram manager on such a system. -/
def Udp.System.grudging : Udp.System (List Trial) where
  openSocket := Trial.script Switchboard.grudging

/-- If any of three ports will do, the second one is taken and the third is not asked for, by a
stream manager whose certificate is no good and by a datagram manager. -/
theorem ports_by_policy_second_port :
    let streams := ({} : Tcp.Manager).init .grudging
      { ports := [80, 0, 80], portPolicy := .any
        serverCertificate := some { cert := some "", key := some "" } } []
    let datagrams := ({} : Udp.Manager).init .grudging
      { ports := [80, 0, 80], portPolicy := .any } []
    streams.1 = .ok () ∧ datagrams.1 = .ok () ∧
      streams.2.1.ports = [49152] ∧ datagrams.2.1.ports = [49152] ∧
      streams.2.2.1.length = 2 ∧ datagrams.2.2.1 = streams.2.2.1 ∧
      Note.bindReports streams.2.2.2 = Note.bindReports datagrams.2.2.2 := by
  intro streams datagrams
  obtain ⟨-, hstreams, hdatagrams⟩ := ports_by_policy .any (.v4 0) [80, 0, 80] grudging
  have hs := hstreams {} .grudging
    { ports := [80, 0, 80], portPolicy := .any
      serverCertificate := some { cert := some "", key := some "" } }
    ⟨Tcp.Manager.stands_fresh, by decide +kernel, by decide +kernel, .inl rfl, by decide, rfl, rfl,
      rfl⟩
  have hd := hdatagrams {} .grudging { ports := [80, 0, 80], portPolicy := .any }
    ⟨Udp.Manager.stands_fresh, by decide +kernel, by decide +kernel, rfl, rfl, rfl⟩
  exact ⟨hs.answer, hd.answer, hs.ports, hd.ports, congrArg List.length hs.made,
    hd.made.trans hs.made.symm, hs.reports.trans hd.reports.symm⟩

end Switchboard
