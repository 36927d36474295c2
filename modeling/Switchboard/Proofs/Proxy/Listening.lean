import Switchboard.Proofs.Config.Loading
import Switchboard.Proofs.Tcp.Starting
import Switchboard.Proxy.Program

/-!
# The configuration of a program that listens

The file is checked before the command line is put over it, and the manager checks its own part of
the result when it starts.  The command line can break two rules only
(`CommandLine.violations_overlay`): it can ask for no loops, which keeps the manager from starting,
and it can name an empty host to forward to, which nothing looks at any more.  So a program that
listens does so on a configuration that breaks no rule, unless an empty host is on its command line
(`Running.Checked`).
-/

namespace Switchboard

/-! ### Starts that succeed -/

/-- Where some ports were wanted, enough are not none. -/
lemma PortPolicy.ne_nil_of_enough {wanted ports opened : List Port}
    (h : enough wanted ports = .ok opened) (hwanted : wanted ≠ []) : opened ≠ [] := by
  unfold enough at h
  split at h
  · cases h
  · rename_i hsome
    obtain rfl := Except.ok.inj h
    simpa [hwanted] using hsome

/-- A start with a good verdict has settings that break no rule and want no more permits than there
can be, and opens a port if it is to open any. -/
lemma Tcp.Startup.verdict_ok {ω : Type} {system : System ω} {config : TcpConfig} {w : ω}
    {ports : List Port} (h : verdict system config w = .ok ports) :
    config.violations = [] ∧ config.maxConnections ≤ Gate.maxPermits ∧
      (config.ports ≠ [] → ports ≠ []) := by
  unfold verdict at h
  cases hadmission : admission config.violations config.bindHost with
  | error e => simp [hadmission] at h
  | ok host =>
    simp only [hadmission, loopVerdict] at h
    split at h
    · cases h
    · unfold loadVerdict at h
      split at h
      · cases h
      · split at h
        · cases h
        · rename_i hpermits
          refine ⟨violations_eq_nil_of_admission hadmission, Nat.le_of_not_gt hpermits, ?_⟩
          unfold portVerdict PortPolicy.verdict at h
          cases hopened : config.portPolicy.opened system.listen host config.ports w with
          | error e => simp [hopened, Except.bind, Except.mapError] at h
          | ok got =>
            rw [hopened] at h
            cases henough : PortPolicy.enough config.ports got with
            | error e => simp [henough, Except.bind, Except.mapError] at h
            | ok opened =>
              obtain rfl : opened = ports := by
                simpa [henough, Except.bind, Except.mapError] using h
              exact PortPolicy.ne_nil_of_enough henough

namespace Proxy

/-! ### The command line over it -/

/-- The report of a missing loop. -/
def noLoops : Violation := ⟨"tcp.thread_count", Config.notZero⟩

/-- The report of a host that is missing. -/
def noTarget : Violation := ⟨"proxy.target_host", "must not be empty"⟩

namespace CommandLine

/-- The configuration in force: what the command line leaves of a configuration, with the closing
time of the forwarder. -/
def overlay (line : CommandLine) (base : Config) : Config :=
  let config := line.apply base
  { config with tcp := { config.tcp with closeLingerSecs := config.proxy.closeLingerSecs } }

variable {line : CommandLine} {base : Config}

/-- Of the rules about the stream manager a command line can break the one about loops. -/
lemma violations_overlay_tcp (hvalid : base.tcp.violations = []) :
    (line.overlay base).tcp.violations = if line.threads = some 0 then [noLoops] else [] := by
  simp only [TcpConfig.violations, Config.violationsOfLoops, List.append_eq_nil_iff] at hvalid
  obtain ⟨⟨⟨⟨⟨hthreads, hhost⟩, hchunk⟩, hlimit⟩, hserver⟩, hclient⟩ := hvalid
  simp only [TcpConfig.violations, Config.violationsOfLoops, overlay, apply, hhost, hchunk, hlimit,
    hserver, hclient, List.append_nil]
  cases line.threads with
  | none => simpa using hthreads
  | some n => cases n <;> simp [Violation.reportIf, noLoops]

/-- Of those about forwarding it can break the one about the host. -/
lemma violations_overlay_proxy (hvalid : base.proxy.violations = []) :
    (line.overlay base).proxy.violations =
      if line.targetHost = some "" then [noTarget] else [] := by
  simp only [ProxyConfig.violations, List.append_eq_nil_iff] at hvalid
  obtain ⟨hhost, hheld⟩ := hvalid
  simp only [ProxyConfig.violations, overlay, apply, hheld, List.append_nil]
  cases line.targetHost with
  | none => simpa using hhost
  | some host => by_cases hempty : host = "" <;> simp [Violation.reportIf, noTarget, hempty]

/-- The rules that a command line breaks when it is put over a configuration that breaks none. -/
lemma violations_overlay (line : CommandLine) (hvalid : base.violations = []) :
    (line.overlay base).violations =
      (if line.threads = some 0 then [noLoops] else []) ++
        if line.targetHost = some "" then [noTarget] else [] := by
  simp only [Config.violations, List.append_eq_nil_iff] at hvalid
  obtain ⟨⟨htcp, hudp⟩, hproxy⟩ := hvalid
  have hsame : (line.overlay base).udp = base.udp := rfl
  rw [Config.violations, violations_overlay_tcp htcp, violations_overlay_proxy hproxy, hsame, hudp,
    List.append_nil]

end CommandLine

namespace Running

variable {files : Files} {host : Host} {line : CommandLine} {config : Config} {r : Running}

/-- The configuration that the command line is put over: the one in the file that it names, or the
default one. -/
def Base (files : Files) (line : CommandLine) (base : Config) : Prop :=
  match line.config with
  | some path => Config.load files path = .ok base
  | none => base = {}

/-- The configuration below the command line breaks no rule. -/
lemma Base.violations {base : Config} (h : Base files line base) : base.violations = [] := by
  unfold Base at h
  split at h
  · exact Config.violations_of_load h
  · rw [h, Config.violations_default]

/-- The configuration in force is the command line over one of the two. -/
lemma exists_base (h : configFor files line = .ok config) :
    ∃ base, Base files line base ∧ config = line.overlay base := by
  unfold configFor at h
  unfold Base
  cases hpath : line.config with
  | none =>
    simp only [hpath] at h
    exact ⟨{}, rfl, (Except.ok.inj h).symm⟩
  | some path =>
    cases hload : Config.load files path with
    | error e => simp [hpath, hload, bind, Except.bind] at h
    | ok base =>
      simp only [hpath, hload] at h
      exact ⟨base, hload, (Except.ok.inj h).symm⟩

/-! ### The way to listening -/

/-- A program that has come to listen has ports to listen on, a deadline that can be told, and a
manager that was started. -/
lemma exists_of_listen (h : listen files host config = .ok r) :
    r.config = config ∧ config.tcp.ports ≠ [] ∧ (Forwarder.ofConfig? config).isSome ∧
      ∃ host' : Host, (({} : Tcp.Manager).init (.onHost files) config.tcp host').1 = .ok () ∧
        r.manager = (({} : Tcp.Manager).init (.onHost files) config.tcp host').2.1 := by
  unfold listen at h
  cases hmetrics : serveMetrics host config.observability.metricsAddress with
  | error e => simp [hmetrics, bind, Except.bind] at h
  | ok host' =>
    cases hports : config.tcp.ports.isEmpty with
    | true => simp [hmetrics, hports, bind, Except.bind, throw, throwThe, MonadExceptOf.throw] at h
    | false =>
      cases hforwarder : Forwarder.ofConfig? config with
      | none =>
        simp [hmetrics, hports, hforwarder, bind, Except.bind, throw, throwThe,
          MonadExceptOf.throw] at h
      | some forwarder =>
        simp only [hmetrics, hports, hforwarder, bind, Except.bind, Bool.false_eq_true, if_false,
          pure, Except.pure] at h
        generalize hinit : ({} : Tcp.Manager).init (.onHost files) config.tcp host' = result at h
        obtain ⟨answer, manager, last, notes⟩ := result
        rcases answer with (_ | _) | _
        · cases h
        · cases h
        · obtain rfl := Except.ok.inj h
          refine ⟨rfl, List.isEmpty_eq_false_iff.mp hports, rfl, host', ?_⟩
          rw [hinit]
          exact ⟨rfl, rfl⟩

/-- What is known of a program that listens as a command line says. -/
structure Checked (files : Files) (line : CommandLine) (r : Running) : Prop where
  /-- It runs on the file's configuration or the default one, with the command line over it. -/
  effective : ∃ base, Base files line base ∧ base.violations = [] ∧ r.config = line.overlay base
  /-- Its manager runs as that has it, and serves some ports. -/
  running : ∃ ports, ports ≠ [] ∧
    r.manager.outlook = ⟨true, r.config.tcp.threadCount, ports, ports⟩
  /-- No rule about the stream manager is broken. -/
  tcp : r.config.tcp.violations = []
  /-- Neither is one about the datagram manager. -/
  udp : r.config.udp.violations = []
  /-- Of those about forwarding only the one about the host can be, by an empty host on the command
  line. -/
  proxy : r.config.proxy.violations = if line.targetHost = some "" then [noTarget] else []

/-- A program that comes to listen with the configuration in force is checked. -/
lemma checked_of_listen (hconfig : configFor files line = .ok config)
    (h : listen files host config = .ok r) : r.Checked files line := by
  obtain ⟨base, hbase, rfl⟩ := exists_base hconfig
  obtain ⟨hsame, hports, -, host', hstarted, hmanager⟩ := exists_of_listen h
  obtain ⟨hanswer, hstands⟩ :=
    Tcp.Manager.stands_fresh.start_stopped (.onHost files) (line.overlay base).tcp host'
  rw [hstarted] at hanswer
  cases hverdict : Tcp.Startup.verdict (.onHost files) (line.overlay base).tcp host' with
  | error setback => simp [hverdict, Except.map] at hanswer
  | ok ports =>
    obtain ⟨htcp, -, hopen⟩ := Tcp.Startup.verdict_ok hverdict
    rw [hverdict, ← hmanager] at hstands
    have hvalid := hbase.violations
    simp only [Config.violations, List.append_eq_nil_iff] at hvalid
    constructor
    case effective => exact ⟨base, hbase, hbase.violations, hsame⟩
    case running => exact ⟨ports, hopen hports, hsame ▸ hstands.outlook⟩
    case tcp => rw [hsame, htcp]
    case udp => rw [hsame, ← hvalid.1.2]; rfl
    case proxy => rw [hsame, CommandLine.violations_overlay_proxy hvalid.2]

/-- **A program that listens has had all but an empty host checked.**  Whatever files there are, and
whatever is on the command line:

* the configuration in force, when it can be told, breaks the rule about loops exactly if the
  command line asks for none, that about the host exactly if the command line names an empty one,
  and no other rule;
* a program that comes to listen does so on the configuration in force, with its manager running
  on some ports, and that configuration breaks no rule of the managers; it breaks one about
  forwarding exactly if the command line names an empty host. -/
theorem checked_but_for_empty_host (files : Files) :
    (∀ {line config}, configFor files line = .ok config →
        config.violations = (if line.threads = some 0 then [noLoops] else []) ++
          if line.targetHost = some "" then [noTarget] else []) ∧
      ∀ {host words r}, start files host words = .ok r →
        ∃ line, CommandLine.read words = .ok line ∧ r.Checked files line ∧
          configFor files line = .ok r.config ∧
          (r.config.violations = [] ↔ line.targetHost ≠ some "") := by
  constructor
  · intro line config hconfig
    obtain ⟨base, hbase, rfl⟩ := exists_base hconfig
    exact line.violations_overlay hbase.violations
  · intro host words r hstart
    unfold start at hstart
    cases hread : CommandLine.read words with
    | error e => simp [hread, throw, throwThe, MonadExceptOf.throw] at hstart
    | ok line =>
      cases hconfig : configFor files line with
      | error e => simp [hread, hconfig, throw, throwThe, MonadExceptOf.throw] at hstart
      | ok config =>
        simp only [hread, hconfig] at hstart
        have hchecked := checked_of_listen hconfig hstart
        refine ⟨line, rfl, hchecked, (exists_of_listen hstart).1 ▸ hconfig, ?_⟩
        rw [Config.violations, hchecked.tcp, hchecked.udp, hchecked.proxy]
        by_cases hempty : line.targetHost = some "" <;> simp [hempty]

/-- A host that has all its ports free. -/
def idleHost : Host := {}

/-- A program that is told a port and a host listens. -/
theorem checked_named_host :
    let words := ["-p", "7000", "-t", "1", "--target-host", "here"]
    let line : CommandLine :=
      { listenPort := some 7000, threads := some 1, targetHost := some "here" }
    ∃ r, start {} idleHost words = .ok r ∧ CommandLine.read words = .ok line ∧
      r.config.violations = [] := by
  intro words line
  have hline : CommandLine.read words = .ok line := by decide +kernel
  cases hstart : start {} idleHost words with
  | error e =>
    have hlistens : (start {} idleHost words).toOption.isSome = true := by decide +kernel
    simp [hstart, Except.toOption] at hlistens
  | ok r =>
    obtain ⟨line', hread, -, -, hiff⟩ := (checked_but_for_empty_host {}).2 hstart
    obtain rfl := Except.ok.inj (hline.symm.trans hread)
    exact ⟨r, rfl, hline, hiff.mpr (by decide)⟩

/-- A program that is told an empty host listens all the same. -/
theorem listens_with_empty_host :
    ∃ r, start {} idleHost ["-p", "0", "-t", "1", "--target-host", ""] = .ok r ∧
      r.manager.isRunning = true ∧ r.config.proxy.violations = [noTarget] := by
  have hlistens : ((start {} idleHost ["-p", "0", "-t", "1", "--target-host", ""]).toOption.map
      fun r => (r.manager.isRunning, r.config.proxy.violations)) = some (true, [noTarget]) := by
    decide +kernel
  cases hstart : start {} idleHost ["-p", "0", "-t", "1", "--target-host", ""] with
  | error e => simp [hstart, Except.toOption] at hlistens
  | ok r =>
    rw [hstart] at hlistens
    simp only [Except.toOption, Option.map_some, Option.some.injEq, Prod.mk.injEq] at hlistens
    exact ⟨r, rfl, hlistens.1, hlistens.2⟩

end Running

end Proxy

end Switchboard
