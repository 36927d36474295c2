import Switchboard.Proofs.Manager.Cells
import Switchboard.Proofs.Tcp.Reporting

/-!
# What engines are equipped with

A start makes its engine when it has loaded the certificates, and equips it for each role with what
could be loaded for that role (`Startup.Equipped`).  No other step makes one: at any moment the
engine that a start has in hand, with which its listeners serve already, and the engine that a
manager has are such (`Startup.equipped_drive`), also while any number of starts and stops go on
side by side (`Call.accounted_run`).

`Startup.Screens` is what a start of a stopped manager makes of certificates that cannot be loaded.
They fail it if encryption is required, before it has an engine, so before it asks for any port.
Otherwise each is reported once, and the start comes to the same as without them.
-/

namespace Switchboard.Tcp

namespace Startup

variable {ω : Type} {system : System ω} {config : TcpConfig} {stage : Startup} {m : Manager} {w : ω}
  {engine : Engine}

/-! ### Certificates of both roles -/

/-- A certificate is configured, and it can be loaded. -/
def Loads {α : Type} (load : Certificate → Except NetworkError α)
    (certificate : Option Certificate) : Prop :=
  ∃ c a, certificate = some c ∧ load c = .ok a

/-- There is material of a certificate exactly if it is configured and can be loaded. -/
lemma isSome_loaded?_iff {α : Type} {load : Certificate → Except NetworkError α}
    {certificate : Option Certificate} :
    (loaded? load certificate).isSome = true ↔ Loads load certificate := by
  cases certificate with
  | none => simp [loaded?, Loads]
  | some c => cases hload : load c <;> simp [loaded?, Loads, hload, Except.toOption]

/-- What is wrong with the certificate of a role. -/
def flawIn? (system : System ω) (config : TcpConfig) : CertificateRole → Option NetworkError
  | .server => serverFlaw? system config
  | .client => clientFlaw? system config

/-- If something is wrong with a certificate, there is one with which it is first. -/
lemma exists_firstFlaw? {role : CertificateRole} {e : NetworkError}
    (h : flawIn? system config role = some e) :
    ∃ role' e', firstFlaw? system config = some (role', e') := by
  cases role with
  | server =>
    have hserver : serverFlaw? system config = some e := h
    exact ⟨.server, e, by simp [firstFlaw?, hserver]⟩
  | client =>
    have hclient : clientFlaw? system config = some e := h
    cases hserver : serverFlaw? system config with
    | none => exact ⟨.client, e, by simp [firstFlaw?, hserver, hclient]⟩
    | some e' => exact ⟨.server, e', by simp [firstFlaw?, hserver]⟩

/-- Among the reports of a start those about the certificate of a role are one at most, and one
exactly if it cannot be loaded. -/
lemma reports_flaws (system : System ω) (config : TcpConfig) (role : CertificateRole) :
    Note.reports "manager" ("load " ++ role.name ++ " certificate") (flaws system config) =
      (flawIn? system config role).toList.map fun e =>
        .error "manager" ("load " ++ role.name ++ " certificate") e.code e.message := by
  have hown (role : CertificateRole) (flaw : Option NetworkError) :
      Note.reports "manager" ("load " ++ role.name ++ " certificate")
          (flaw.toList.map (loadFailed role)) =
        flaw.toList.map fun e =>
          .error "manager" ("load " ++ role.name ++ " certificate") e.code e.message :=
    Note.reports_map NetworkError.code NetworkError.message flaw.toList
  have hother {role role' : CertificateRole} (hne : role' ≠ role) (flaw : Option NetworkError) :
      Note.reports "manager" ("load " ++ role.name ++ " certificate")
        (flaw.toList.map (loadFailed role')) = [] := by
    refine Note.reports_eq_nil fun call hcall => ?_
    obtain ⟨e, -, he⟩ := List.mem_map.mp (Note.mem_callbacks.mp hcall)
    obtain rfl := Note.callback.inj he
    cases role <;> cases role' <;> first | exact absurd rfl hne | rfl
  rw [flaws, Note.reports_append]
  cases role with
  | server => exact (congrArg₂ _ (hown .server _) (hother (by decide) _)).trans (List.append_nil _)
  | client => exact (congrArg₂ _ (hother (by decide) _) (hown .client _)).trans (List.nil_append _)

/-! ### Engines -/

/-- An engine has for each role what could be loaded for it, and something is wrong with a
certificate only if encryption is not required. -/
structure Equipped (system : System ω) (config : TcpConfig) (engine : Engine) : Prop where
  /-- The certificates can be loaded or done without. -/
  usable : config.requireTls = false ∨ firstFlaw? system config = none
  /-- What accepted connections are encrypted with depends on the server's certificate only. -/
  acceptor : engine.acceptor = loaded? system.serverMaterial config.serverCertificate
  /-- What outbound connections are encrypted with depends on the client's certificate only. -/
  connector : engine.connector = loaded? system.clientMaterial config.clientCertificate

/-- The engine that a start has in hand. -/
def engine? : Startup → Option Engine
  | binding _ engine _ | listing _ engine _ _ | spawning _ engine _ _ | checking engine
  | publishing engine => some engine
  | entering | starting _ | loading _ | undoing _ _ | answered _ | brokenDown => none

@[simp] lemma engine?_proceed (config : TcpConfig) (host : IpAddress) (engine : Engine)
    (ports : List Port) : (proceed config host engine ports).engine? = some engine := by
  cases ports with
  | nil =>
    simp only [proceed]
    split <;> rfl
  | cons port rest => rfl

/-- Certificates that let a start go on give it what could be loaded for each role. -/
lemma equipped_of_materials {acceptor : Option Tls.ServerMaterial}
    {connector : Option Tls.ClientMaterial} {notes : List Note}
    (h : materials system config = (.ok (acceptor, connector), notes))
    (hacceptor : engine.acceptor = acceptor) (hconnector : engine.connector = connector) :
    Equipped system config engine := by
  have husable : config.requireTls = false ∨ firstFlaw? system config = none := by
    rw [materials_eq] at h
    cases hrequired : config.requireTls with
    | false => exact .inl rfl
    | true =>
      rw [hrequired] at h
      cases hflaw : firstFlaw? system config with
      | none => exact .inr rfl
      | some flaw =>
        rw [hflaw] at h
        cases h
  rw [materials_of_usable husable] at h
  cases h
  exact ⟨husable, hacceptor, hconnector⟩

/-- What a step of a start does to engines. -/
structure HandsOn (system : System ω) (config : TcpConfig) (stage : Startup) (m : Manager)
    (now : Progress ω) : Prop where
  /-- The one in hand is let go of, or kept, or was made of the certificates just now. -/
  hand : now.stage.engine? = none ∨ now.stage.engine? = stage.engine? ∨
    ∃ engine, now.stage.engine? = some engine ∧ Equipped system config engine
  /-- The one that is known is taken away, or left, or was in hand before. -/
  known : now.manager.engine = none ∨ now.manager.engine = m.engine ∨
    now.manager.engine = stage.engine?

/-- A start makes an engine only of its certificates, and makes known only what it has in hand. -/
lemma handsOn_step (system : System ω) (config : TcpConfig) (stage : Startup) (m : Manager)
    (w : ω) : HandsOn system config stage m (stage.step system config m w) := by
  cases stage with
  | entering =>
    simp only [step]
    split
    · exact ⟨.inl rfl, .inr (.inl rfl)⟩
    · split
      · exact ⟨.inl rfl, .inr (.inl rfl)⟩
      · split <;> exact ⟨.inl rfl, .inr (.inl rfl)⟩
  | starting host =>
    simp only [step]
    split <;> exact ⟨.inl rfl, .inr (.inl rfl)⟩
  | loading host =>
    simp only [step]
    split
    · exact ⟨.inl rfl, .inr (.inl rfl)⟩
    · split
      · exact ⟨.inl rfl, .inr (.inl rfl)⟩
      · rename_i hmaterials
        split
        · exact ⟨.inl rfl, .inr (.inl rfl)⟩
        · exact ⟨.inr (.inr ⟨_, engine?_proceed _ _ _ _, equipped_of_materials hmaterials rfl rfl⟩),
            .inr (.inl rfl)⟩
  | binding host engine ports =>
    cases ports with
    | nil => exact ⟨.inr (.inl (engine?_proceed config host engine [])), .inr (.inl rfl)⟩
    | cons port rest =>
      simp only [step]
      split
      · exact ⟨.inl rfl, .inr (.inl rfl)⟩
      · split
        · exact ⟨.inr (.inl rfl), .inr (.inl rfl)⟩
        · split
          · exact ⟨.inl rfl, .inr (.inl rfl)⟩
          · exact ⟨.inr (.inl (engine?_proceed _ _ _ _)), .inr (.inl rfl)⟩
  | listing host engine opened rest => exact ⟨.inr (.inl rfl), .inr (.inl rfl)⟩
  | spawning host engine opened rest =>
    rw [step_spawning]
    exact ⟨.inr (.inl (engine?_proceed _ _ _ _)), .inr (.inl rfl)⟩
  | checking engine =>
    simp only [step]
    split
    · exact ⟨.inl rfl, .inr (.inl rfl)⟩
    · exact ⟨.inr (.inl rfl), .inr (.inl rfl)⟩
  | publishing engine => exact ⟨.inl rfl, .inr (.inr rfl)⟩
  | undoing cause stage =>
    cases stage with
    | engine => exact ⟨.inl rfl, .inl rfl⟩
    | _ => exact ⟨.inl rfl, .inr (.inl rfl)⟩
  | answered answer => exact ⟨.inl rfl, .inr (.inl rfl)⟩
  | brokenDown => exact ⟨.inl rfl, .inr (.inl rfl)⟩

/-- The engine that a start has in hand after a step it had before, or it is equipped. -/
lemma HandsOn.hand_cases {now : Progress ω} (h : HandsOn system config stage m now)
    (hhand : now.stage.engine? = some engine) :
    stage.engine? = some engine ∨ Equipped system config engine := by
  rcases h.hand with hnone | hsame | ⟨engine', hmade, hequipped⟩
  · cases hnone.symm.trans hhand
  · exact .inl (hsame.symm.trans hhand)
  · obtain rfl := Option.some.inj (hmade.symm.trans hhand)
    exact .inr hequipped

/-- The engine that is known after a step was known before, or the start had it in hand. -/
lemma HandsOn.known_cases {now : Progress ω} (h : HandsOn system config stage m now)
    (hknown : now.manager.engine = some engine) :
    m.engine = some engine ∨ stage.engine? = some engine := by
  rcases h.known with hnone | hsame | hhand
  · cases hnone.symm.trans hknown
  · exact .inl (hsame.symm.trans hknown)
  · exact .inr (hhand.symm.trans hknown)

/-- At any moment of a start its engine is equipped, and so is one that it has made known. -/
lemma equipped_drive (hhand : ∀ engine, stage.engine? = some engine → Equipped system config engine)
    (hknown : ∀ engine, m.engine = some engine → Equipped system config engine) (fuel : Nat) :
    let now := drive system config fuel stage m w
    (∀ engine, now.stage.engine? = some engine → Equipped system config engine) ∧
      ∀ engine, now.manager.engine = some engine → Equipped system config engine := by
  induction fuel generalizing stage m w with
  | zero => exact ⟨hhand, hknown⟩
  | succ fuel ih =>
    have hstep := handsOn_step system config stage m w
    rw [drive_succ]
    exact ih (fun engine h => (hstep.hand_cases h).elim (hhand engine) id)
      fun engine h => (hstep.known_cases h).elim (hknown engine) (hhand engine)

/-! ### Starts of stopped managers -/

/-- Settings as they are, but without certificates. -/
def withoutCertificates (config : TcpConfig) : TcpConfig :=
  { config with serverCertificate := none, clientCertificate := none }

/-- What a start of a stopped manager makes of certificates that cannot be loaded. -/
structure Screens (m : Manager) (system : System ω) (config : TcpConfig) (w : ω) : Prop where
  /-- If encryption is required, a start whose loops run fails with what is wrong with the first of
  them, of which it tells the service. -/
  refused : config.requireTls = true → LoopPool.fault? config.threadCount system.startLoop = none →
    ∀ {role e}, firstFlaw? system config = some (role, e) →
      (m.init system config w).1 = .error (.refused e) ∧
        (m.init system config w).2.2.2 = [loadFailed role e]
  /-- It fails in any case, be it over its loops, has no engine at any moment, without which no port
  is asked for, and leaves the system as it was and the manager stopped. -/
  barred : config.requireTls = true → ∀ {role e}, flawIn? system config role = some e →
    (∃ cause, (m.init system config w).1 = .error (.refused cause) ∧
      ∀ source, LoopPool.fault? config.threadCount system.startLoop = some source →
        cause = .io source) ∧
      (∀ fuel, (drive system config fuel .entering m w).stage.engine? = none) ∧
      (m.init system config w).2.2.1 = w ∧ (m.init system config w).2.1.Stands .stopped
  /-- If it is not required, each is told of once if the loops run, whatever else happens. -/
  reported : config.requireTls = false →
    LoopPool.fault? config.threadCount system.startLoop = none → ∀ role : CertificateRole,
      Note.reports "manager" ("load " ++ role.name ++ " certificate")
          (m.init system config w).2.2.2 =
        (flawIn? system config role).toList.map fun e =>
          .error "manager" ("load " ++ role.name ++ " certificate") e.code e.message
  /-- The start comes to the same then as one without certificates. -/
  tolerated : config.requireTls = false →
    let plain := withoutCertificates config
    (m.init system config w).1 = (m.init system plain w).1 ∧
      (m.init system config w).2.1.outlook = (m.init system plain w).2.1.outlook
  /-- The engine in hand is equipped at any moment, and so is the one that is made known. -/
  equipped : ∀ fuel engine, let now := drive system config fuel .entering m w
    now.stage.engine? = some engine ∨ now.manager.engine = some engine →
      Equipped system config engine

/-- Settings without a violation are accepted. -/
lemma exists_admission (hvalid : config.violations = []) :
    ∃ host, admission config.violations config.bindHost = .ok host := by
  cases hhost : IpAddress.ofString? config.bindHost with
  | none =>
    simp only [TcpConfig.violations, Config.violationsOfLoops, List.append_eq_nil_iff] at hvalid
    obtain ⟨⟨⟨⟨⟨-, hno⟩, -⟩, -⟩, -⟩, -⟩ := hvalid
    rw [hhost] at hno
    cases hno
  | some host =>
    rw [hvalid, admission, hhost]
    exact ⟨host, rfl⟩

/-- If encryption is required and something is wrong with a certificate, that is the verdict, unless
the loops do not run. -/
lemma verdict_of_flawed {host : IpAddress} {role : CertificateRole} {e : NetworkError}
    (hadmission : admission config.violations config.bindHost = .ok host)
    (hrequired : config.requireTls = true) (hflaw : firstFlaw? system config = some (role, e)) :
    verdict system config w =
        .error (.refused (match LoopPool.fault? config.threadCount system.startLoop with
          | some source => .io source
          | none => e)) ∧
      report system config w = (w, match LoopPool.fault? config.threadCount system.startLoop with
        | some _ => []
        | none => [loadFailed role e]) := by
  simp only [verdict, report, hadmission, loopVerdict, loopReport, loadVerdict, loadReport,
    materials_eq, hrequired, hflaw]
  cases LoopPool.fault? config.threadCount system.startLoop <;> exact ⟨rfl, rfl⟩

/-- What is reported of ports is not about certificates. -/
lemma reports_bindFailed (role : CertificateRole) (failures : List NetworkError) :
    Note.reports "manager" ("load " ++ role.name ++ " certificate") (failures.map bindFailed) =
      [] := by
  refine Note.reports_eq_nil fun call hcall => ?_
  obtain ⟨e, -, he⟩ := List.mem_map.mp (Note.mem_callbacks.mp hcall)
  obtain rfl := Note.callback.inj he
  rfl

/-- Settings are right without certificates if they are with them. -/
lemma violations_withoutCertificates (hvalid : config.violations = []) :
    (withoutCertificates config).violations = [] := by
  simp only [withoutCertificates, TcpConfig.violations, List.append_eq_nil_iff] at hvalid ⊢
  exact ⟨⟨hvalid.1.1, trivial⟩, trivial⟩

/-- If encryption is not required, the verdict is the same with certificates as without. -/
lemma verdict_withoutCertificates (hvalid : config.violations = [])
    (hplain : config.requireTls = false) (w : ω) :
    verdict system config w = verdict system (withoutCertificates config) w := by
  obtain ⟨host, hadmission⟩ := exists_admission hvalid
  have hadmission' : admission (withoutCertificates config).violations config.bindHost =
      .ok host := by
    rw [violations_withoutCertificates hvalid, ← hadmission, hvalid]
  rw [verdict_of_usable hadmission (.inl hplain), verdict_of_usable hadmission' (.inl hplain)]
  rfl

/-- A start of a stopped manager with right settings screens its certificates. -/
lemma screens (hvalid : config.violations = []) (hstopped : m.Stands .stopped)
    (system : System ω) (w : ω) : Screens m system config w := by
  obtain ⟨host, hadmission⟩ := exists_admission hvalid
  obtain ⟨hanswer, hstands⟩ := hstopped.start_stopped system config w
  have hreports := hstopped.reports_stopped system config w
  have hhand : ∀ engine, engine? entering = some engine → Equipped system config engine :=
    fun engine hno => by cases hno
  have hknown : ∀ engine, m.engine = some engine → Equipped system config engine :=
    fun engine hno => by cases hstopped.nothing.1.symm.trans hno
  have hequipped := equipped_drive (w := w) hhand hknown
  constructor
  case refused =>
    intro hrequired hloops role e hflaw
    obtain ⟨hverdict, hreport⟩ := verdict_of_flawed (w := w) hadmission hrequired hflaw
    rw [hanswer, hreports, hverdict, hreport, hloops]
    exact ⟨rfl, rfl⟩
  case barred =>
    intro hrequired role e hflaw
    obtain ⟨role', e', hfirst⟩ := exists_firstFlaw? hflaw
    obtain ⟨hverdict, hreport⟩ := verdict_of_flawed (w := w) hadmission hrequired hfirst
    rw [hverdict] at hanswer hstands
    refine ⟨⟨_, hanswer, fun source hloops => by rw [hloops]⟩, fun fuel => ?_,
      by rw [hreports, hreport], hstands⟩
    refine Option.eq_none_iff_forall_ne_some.mpr fun engine hengine => ?_
    rcases ((hequipped fuel).1 engine hengine).usable with hno | hno
    · rw [hrequired] at hno
      cases hno
    · rw [hfirst] at hno
      cases hno
  case reported =>
    intro hplain hloops role
    rw [hreports, report_of_usable hadmission (.inl hplain) hloops, Noted.andThen,
      Note.reports_append, reports_flaws]
    split
    · exact List.append_nil _
    · rw [portReport, reports_bindFailed, List.append_nil]
  case tolerated =>
    intro hplain plain
    obtain ⟨hanswer', hstands'⟩ := hstopped.start_stopped system plain w
    rw [← verdict_withoutCertificates hvalid hplain] at hanswer' hstands'
    exact ⟨hanswer.trans hanswer'.symm, hstands.outlook.trans hstands'.outlook.symm⟩
  case equipped =>
    intro fuel engine now hengine
    exact hengine.elim ((hequipped fuel).1 engine) ((hequipped fuel).2 engine)

end Startup

/-! ### Starts and stops side by side -/

/-- The engines that are around while starts and stops go on: each start has one that its own
settings account for, and the manager has that of some start. -/
structure Call.Accounted {ω : Type} (system : System ω) (x : Interleaving (Manager × ω) Call) :
    Prop where
  /-- The engine of a start is equipped as its settings say. -/
  hand : ∀ {config stage engine}, .starting config stage ∈ x.calls →
    stage.engine? = some engine → Startup.Equipped system config engine
  /-- The engine of the manager is equipped as the settings of some start say. -/
  known : ∀ {engine}, x.shared.1.engine = some engine →
    ∃ config stage, .starting config stage ∈ x.calls ∧ Startup.Equipped system config engine

namespace Call

variable {ω : Type} {system : System ω} {x : Interleaving (Manager × ω) Call}

/-- A start stays among the calls, wherever it has got to. -/
lemma exists_starting_set {i : Nat} {call call' : Call} (hcall : x.calls[i]? = some call)
    (hsame : ∀ {config stage}, call = starting config stage →
      ∃ stage', call' = starting config stage')
    {config : TcpConfig} {stage : Startup} (h : starting config stage ∈ x.calls) :
    ∃ stage', starting config stage' ∈ x.calls.set i call' := by
  obtain ⟨j, hj⟩ := List.mem_iff_getElem?.mp h
  by_cases hij : i = j
  · subst hij
    obtain ⟨stage', rfl⟩ := hsame (Option.some.inj (hcall.symm.trans hj))
    exact ⟨stage', List.mem_set (List.getElem?_eq_some_iff.mp hcall).1 _⟩
  · exact ⟨stage, List.mem_of_getElem? ((List.getElem?_set_ne hij).trans hj)⟩

/-- A step of one call leaves the engines accounted for. -/
lemma Accounted.advance (h : Accounted system x) (i : Nat) :
    Accounted system (x.step (step system) (.advance i)).1 := by
  cases hcall : x.calls[i]? with
  | none => simpa [Interleaving.step, hcall] using h
  | some call =>
    have hmem : call ∈ x.calls := List.mem_of_getElem? hcall
    have hset : ∀ {config stage}, starting config stage ∈
        x.calls.set i (call.step system x.shared).1 →
        starting config stage ∈ x.calls ∨ starting config stage = (call.step system x.shared).1 :=
      fun hin => List.mem_or_eq_of_mem_set hin
    simp only [Interleaving.step, hcall]
    cases call with
    | starting config stage =>
      have hstep := Startup.handsOn_step system config stage x.shared.1 x.shared.2
      have hstays : ∀ {config' stage'}, starting config' stage' ∈ x.calls →
          ∃ stage'', starting config' stage'' ∈
            x.calls.set i ((starting config stage).step system x.shared).1 :=
        exists_starting_set hcall fun hsame => ⟨_, by cases hsame; rfl⟩
      refine ⟨fun hin hhand => ?_, fun hknown => ?_⟩
      · rcases hset hin with hold | hnew
        · exact h.hand hold hhand
        · cases hnew
          exact (hstep.hand_cases hhand).elim (h.hand hmem) id
      · rcases hstep.known_cases hknown with hold | hhand
        · obtain ⟨config', stage', hin, hequipped⟩ := h.known hold
          obtain ⟨stage'', hin'⟩ := hstays hin
          exact ⟨config', stage'', hin', hequipped⟩
        · obtain ⟨stage'', hin'⟩ := hstays hmem
          exact ⟨config, stage'', hin', h.hand hmem hhand⟩
    | stopping stage =>
      refine ⟨fun hin hhand => ?_, fun {engine} hknown => ?_⟩
      · exact h.hand ((hset hin).resolve_right (by simp [step])) hhand
      · have hold : x.shared.1.engine = some engine := by
          cases stage with
          | engine => cases hknown
          | _ => exact hknown
        obtain ⟨config, stage', hin, hequipped⟩ := h.known hold
        obtain ⟨stage'', hin'⟩ := exists_starting_set hcall (fun hno => by cases hno) hin
        exact ⟨config, stage'', hin', hequipped⟩

/-- In whatever order starts and stops go on, the engines are accounted for. -/
lemma accounted_run (h : Accounted system x) (es : List (Interleaving.Event Call))
    (begun : ∀ call, .start call ∈ es → call = stop ∨ ∃ config, call = start config) :
    Accounted system (interleave system x es).1 := by
  induction es using List.reverseRecOn with
  | nil => exact h
  | append_singleton es e ih =>
    have hbefore := ih fun call hcall => begun call (List.mem_append_left _ hcall)
    rw [interleave, Interleaving.run_concat]
    cases e with
    | advance i => exact hbefore.advance i
    | start call =>
      refine ⟨fun hin hhand => ?_, fun hknown => ?_⟩
      · rcases List.mem_append.mp hin with hold | hnew
        · exact hbefore.hand hold hhand
        · -- a call that has just begun has no engine in hand
          rw [List.mem_singleton] at hnew
          rcases begun call (by simp) with rfl | ⟨config, rfl⟩ <;> cases hnew
          cases hhand
      · obtain ⟨config, stage, hin, hequipped⟩ := hbefore.known hknown
        exact ⟨config, stage, List.mem_append_left _ hin, hequipped⟩

end Call

end Switchboard.Tcp
