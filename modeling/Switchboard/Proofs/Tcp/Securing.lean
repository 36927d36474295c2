import Switchboard.Proofs.Gate.Arrivals
import Switchboard.Proofs.Tcp.Equipping
import Switchboard.Proofs.Tcp.Stalling

/-!
# No connection is less secure than it should be

Whether connections are encrypted is decided once for each role, when a start equips its engine, and
is acted upon later in two places: where a gate opens an accepted connection, and where an engine
establishes an outbound one.  Either encrypts a connection exactly if the engine has the material
for it, and either gives a connection up whose handshake fails, or whose server has no name that
could be checked (`Gate.openArrival_eq`, `Engine.establish_eq`).

So connections are announced to the service only if they are as secure as they should be
(`Engine.Admits`, `Manager.Connects`), and stay so.  `no_silent_downgrade` puts this together with
what starts make of their certificates.
-/

namespace Switchboard.Tcp

/-! ### Accepted connections -/

/-- What is wrong with securing an accepted connection: its handshake, if there is to be one. -/
def Engine.rejection? (engine : Engine) (handshake : Except SystemError Unit) :
    Option SystemError :=
  match engine.acceptor, handshake with
  | some _, .error e => some e
  | _, _ => none

/-- Nothing is wrong if connections are not encrypted, or if the handshake succeeds. -/
lemma Engine.rejection?_eq_none_iff {engine : Engine} {handshake : Except SystemError Unit} :
    engine.rejection? handshake = none ↔
      (engine.acceptor.isSome = true → handshake = .ok ()) := by
  unfold rejection?
  cases engine.acceptor <;> cases handshake <;> simp

namespace Gate

variable {g : Gate} {n : Nat} {port : Port} {loop : EventLoop} {e : Event}

/-- A connection that is given up is gone, and one that is not goes on encrypted if the engine has
what it takes. -/
lemma openArrival_eq (ha : g.arrivals.get? n = some ⟨port, loop, .preparing⟩) (id : ConnectionId)
    (handshake : Except SystemError Unit) (ends : Except SystemError (Endpoint × Endpoint)) :
    g.openArrival n id handshake ends =
      match g.engine.rejection? handshake with
      | some e => (g.forget n, handshakeFailed e.code e.message)
      | none =>
        let opened := g.engine.runConnection id .anonymous g.engine.acceptor.isSome ends
          (.accepted port)
        (g.settle n (opened.1.map fun d => ⟨port, loop, .driven d⟩), opened.2) := by
  unfold openArrival Engine.rejection?
  rw [ha]
  cases g.engine.acceptor with
  | none => cases ends <;> rfl
  | some material => cases handshake <;> cases ends <;> rfl

/-- Nothing that happens changes what the listeners share. -/
lemma engine_step (g : Gate) (e : Event) : (g.step e).1.engine = g.engine := by
  have hmove := g.move_step e
  generalize g.step e = r at hmove
  cases hmove with
  | visit _ _ _ next => cases next <;> rfl
  | _ => rfl

/-- A connection that its loop has taken over gets a driver by being opened, if nothing is wrong
with its handshake. -/
lemma opened_step {d : TcpDriver} (ha : g.arrivals.get? n = some ⟨port, loop, .preparing⟩)
    (hdriven : (g.step e).1.arrivals.get? n = some ⟨port, loop, .driven d⟩) :
    ∃ id handshake ends, e = .openArrival n id handshake ends ∧
      g.engine.rejection? handshake = none ∧
      d.id = id ∧ d.connection.encrypted = g.engine.acceptor.isSome := by
  have habout : e.arrival? = some n := by
    rcases g.get?_step e n with ⟨hget, -⟩ | ⟨_, habout, -⟩ | ⟨-, -, _, _, stage, hget, hearly⟩
    · rw [hget, ha] at hdriven
      cases hdriven
    · exact habout
    · rw [hget] at hdriven
      cases hdriven
      simp at hearly
  cases e with
  | openArrival m id handshake ends =>
    obtain rfl : m = n := Option.some.inj habout
    refine ⟨id, handshake, ends, rfl, ?_⟩
    rw [step, openArrival_eq ha] at hdriven
    cases hrejection : g.engine.rejection? handshake with
    | some e =>
      rw [hrejection] at hdriven
      cases ((get?_settle g m m none).trans (if_pos rfl)).symm.trans hdriven
    | none =>
      simp only [hrejection, get?_settle, if_true, Option.map_eq_some_iff] at hdriven
      obtain ⟨d', hd', hsame⟩ := hdriven
      cases hsame
      exact ⟨rfl, Engine.runConnection_spec hd'⟩
  | arrive m registered =>
    obtain rfl : m = n := Option.some.inj habout
    simp [step, arrive, ha] at hdriven
  | drive m f =>
    obtain rfl : m = n := Option.some.inj habout
    simp [step, drive, ha] at hdriven
  | dropArrival m =>
    obtain rfl : m = n := Option.some.inj habout
    have hgone : (g.forget m).arrivals.get? m = none := (get?_settle g m m none).trans (if_pos rfl)
    simp [step, dropArrival, ha, hgone] at hdriven
  | _ => cases habout

/-- All driven connections are as secure as they should be. -/
def Secured (g : Gate) : Prop :=
  ∀ n port loop d, g.arrivals.get? n = some ⟨port, loop, .driven d⟩ →
    d.connection.encrypted = g.engine.acceptor.isSome

/-- Whatever happens, they stay so, and others become so. -/
lemma Secured.step (h : g.Secured) (e : Event) : (g.step e).1.Secured := by
  intro n port loop d hdriven
  rw [engine_step]
  rcases g.get?_step e n with ⟨hget, -⟩ | ⟨a, habout, ha, hgoes⟩ | ⟨-, -, _, _, stage, hget, hearly⟩
  · exact h n port loop d (hget ▸ hdriven)
  · rw [hdriven] at hgoes
    generalize (g.step e).2 = notes at hgoes
    cases hgoes with
    | announced =>
      obtain ⟨id, handshake, ends, -, -, -, hencrypted⟩ := opened_step ha hdriven
      exact hencrypted
    | driven _ _ d' f =>
      have hkept := d'.encrypted_run [f]
      exact hkept.trans (h n port loop d' ha)
  · rw [hget] at hdriven
    cases hdriven
    simp at hearly

/-- Along every run all driven connections are as secure as they should be. -/
lemma secured_run (engine : Engine) (limit : Nat) (es : List Event) :
    ((start engine limit).run es).1.Secured ∧ ((start engine limit).run es).1.engine = engine := by
  induction es using List.reverseRecOn with
  | nil => exact ⟨fun _ _ _ _ hno => (by cases hno), rfl⟩
  | append_singleton es e ih =>
    rw [run_concat]
    exact ⟨ih.1.step e, (engine_step _ e).trans ih.2⟩

/-- A connection with whose handshake something is wrong is gone, and that is all that the service
is ever told of it. -/
lemma rejected_run {engine : Engine} {limit : Nat} {es : List Event} {source : SystemError}
    {handshake : Except SystemError Unit}
    (ha : ((start engine limit).run es).1.arrivals.get? n = some ⟨port, loop, .preparing⟩)
    (hrejection : engine.rejection? handshake = some source) (id : ConnectionId)
    (ends : Except SystemError (Endpoint × Endpoint)) (fs : List Event) :
    let all := es ++ .openArrival n id handshake ends :: fs
    ((start engine limit).run all).1.arrivals.get? n = none ∧
      (start engine limit).callsFor n all =
        [.error "connection" "handshake" source.code source.message] := by
  intro all
  have hengine := (secured_run engine limit es).2
  have hstep : ((start engine limit).run es).1.step (.openArrival n id handshake ends) =
      (((start engine limit).run es).1.forget n,
        handshakeFailed source.code source.message) := by
    rw [step, openArrival_eq ha, hengine, hrejection]
  have hgone : (((start engine limit).run es).1.forget n).arrivals.get? n = none :=
    (get?_settle _ n n none).trans (if_pos rfl)
  have hpast := (sound_run engine limit es).numbered n (mem_keys_of_get? ha)
  obtain ⟨hlater, hquiet⟩ := gone_run hgone hpast fs
  have hbefore : (start engine limit).callsFor n es = [] :=
    (ha ▸ (story_run engine limit es n).1).silent
  constructor
  · rw [run_append, Noted.andThen, run, hstep]
    exact hlater
  · rw [callsFor_append, hbefore, callsFor, hstep, hquiet]
    simp [Event.arrival?, handshakeFailed, Note.callbacks]

/-- A step that announces a connection gives it its driver. -/
lemma driven_of_announced {id : ConnectionId}
    (hcoherent : ∀ n port loop d, g.arrivals.get? n = some ⟨port, loop, .driven d⟩ → d.Coherent)
    (hcall : .accept id port ∈ Note.callbacks (g.step e).2) :
    ∃ n loop d, g.arrivals.get? n = some ⟨port, loop, .preparing⟩ ∧
      (g.step e).1.arrivals.get? n = some ⟨port, loop, .driven d⟩ ∧ d.id = id := by
  have hlater (d : TcpDriver) (hd : d.Coherent) (f : TcpDriver.Event) :
      .accept id port ∉ Note.callbacks (d.step f).2 := fun hno => by
    rcases hd.calls ⟨[f], by simpa [TcpDriver.run, Noted.andThen] using hno⟩ with
      (hno | hno) | hno <;> cases hno
  have hmove := g.move_step e
  generalize g.step e = r at hmove hcall ⊢
  cases hmove with
  | visit _ n a next notes about arrival goes =>
    cases goes with
    | taken => cases hcall
    | lost port' loop stage _ early calls =>
      rcases calls with hnone | ⟨code, message, hfailed⟩
      · simp [hnone] at hcall
      · simp [hfailed] at hcall
    | announced port' loop d _ coherent phase calls =>
      rw [calls, List.mem_singleton] at hcall
      cases hcall
      exact ⟨n, loop, d, arrival, (get?_settle g n n _).trans (if_pos rfl), rfl⟩
    | driven port' loop d f phase =>
      exact absurd hcall (hlater d (hcoherent n port' loop d arrival) f)
    | parted port' loop d f phase =>
      exact absurd hcall (hlater d (hcoherent n port' loop d arrival) f)
  | pause => simp [Note.callbacks] at hcall
  | _ => cases hcall

end Gate

/-- How listeners that share an engine let connections in, whatever has happened so far, given
whether accepted connections are to be encrypted. -/
structure Engine.Admits (engine : Engine) (limit : Nat) (es : List Gate.Event) (secret : Prop) :
    Prop where
  /-- Connections with a driver are encrypted exactly if they are to be. -/
  driven : ∀ {n port loop d},
    ((Gate.start engine limit).run es).1.arrivals.get? n = some ⟨port, loop, .driven d⟩ →
      (d.connection.encrypted = true ↔ secret)
  /-- A connection is announced as it gets its driver, after a handshake that succeeded if there was
  to be one. -/
  announced : ∀ {e id port}, let g := ((Gate.start engine limit).run es).1
    .accept id port ∈ Note.callbacks (g.step e).2 →
      ∃ n handshake ends loop d, e = .openArrival n id handshake ends ∧
        (g.step e).1.arrivals.get? n = some ⟨port, loop, .driven d⟩ ∧ d.id = id ∧
        (d.connection.encrypted = true ↔ secret) ∧ (secret → handshake = .ok ())
  /-- A connection whose handshake failed is gone, and that is all that the service is ever told of
  it. -/
  rejected : secret → ∀ {n port loop},
    ((Gate.start engine limit).run es).1.arrivals.get? n = some ⟨port, loop, .preparing⟩ →
      ∀ id e ends fs, let all := es ++ .openArrival n id (.error e) ends :: fs
        ((Gate.start engine limit).run all).1.arrivals.get? n = none ∧
          (Gate.start engine limit).callsFor n all =
            [.error "connection" "handshake" e.code e.message]

/-- Listeners let connections in as secure as their engine has it. -/
lemma Engine.admits {engine : Engine} {secret : Prop}
    (hsecret : engine.acceptor.isSome = true ↔ secret) (limit : Nat) (es : List Gate.Event) :
    engine.Admits limit es secret := by
  obtain ⟨hsecured, hengine⟩ := Gate.secured_run engine limit es
  have hstory := fun n => (Gate.story_run engine limit es n).1
  constructor
  case driven =>
    intro n port loop d hdriven
    rw [hsecured n port loop d hdriven, hengine]
    exact hsecret
  case announced =>
    intro e id port g hcall
    have hcoherent : ∀ n port loop d, g.arrivals.get? n = some ⟨port, loop, .driven d⟩ →
        d.Coherent := by
      intro n port loop d hdriven
      exact (hdriven ▸ hstory n).coherent
    obtain ⟨n, loop, d, ha, hdriven, rfl⟩ := Gate.driven_of_announced hcoherent hcall
    obtain ⟨id, handshake, ends, he, hsound, rfl, hencrypted⟩ := Gate.opened_step ha hdriven
    rw [show g.engine = engine from hengine] at hencrypted hsound
    exact ⟨n, handshake, ends, loop, d, he, hdriven, rfl, hencrypted ▸ hsecret,
      fun h => rejection?_eq_none_iff.mp hsound (hsecret.mpr h)⟩
  case rejected =>
    intro hsecure n port loop ha id e ends
    refine Gate.rejected_run ha ?_ id ends
    obtain ⟨material, hmaterial⟩ := Option.isSome_iff_exists.mp (hsecret.mpr hsecure)
    simp only [rejection?, hmaterial]

/-! ### Outbound connections -/

/-- Something is wrong with securing a connection to the host of a request: its name, or the
handshake. -/
def Journey.Fails (journey : Journey) (request : Connect.Request) : Prop :=
  (∃ e, Tls.ServerName.ofHost request.host = .error e) ∨ ∃ e, journey.handshake = .error e

/-- How a manager makes an outbound connection, given whether outbound connections are to be
encrypted. -/
structure Manager.Connects (m : Manager) (journey : Journey) (id : ConnectionId)
    (request : Connect.Request) (secret : Prop) : Prop where
  /-- A connection with a driver is encrypted exactly if it is to be, and stays so. -/
  driven : ∀ {d}, (m.createConnection journey id request).1.passage.driver = some d →
    ∀ es, (d.run es).1.connection.encrypted = true ↔ secret
  /-- A connection is told of when it has its driver, after its server's name was checked and a
  handshake succeeded if there was to be one. -/
  announced : ∀ {connection identity}, .connect (some connection) identity ∈
      Note.callbacks (m.createConnection journey id request).1.notes →
    (∃ d, (m.createConnection journey id request).1.passage.driver = some d ∧
      d.id = connection) ∧ (secret → ¬journey.Fails request)
  /-- Its driver does not tell of it, or of another connection, later. -/
  later : ∀ {d}, (m.createConnection journey id request).1.passage.driver = some d →
    ∀ es connection identity, .connect connection identity ∉ Note.callbacks (d.run es).2
  /-- Of a connection that could not be secured, once a candidate was reached, nothing is told but
  that something failed, and there is no driver. -/
  rejected : secret → journey.Fails request → ∀ {bind},
    bindEndpoint request.bindIp request.bindPort = .ok bind → journey.Reached request bind →
      (m.createConnection journey id request).1.passage.driver = none ∧
        ∀ connection identity, .connect connection identity ∉
          Note.callbacks (m.createConnection journey id request).1.notes

/-- Something is wrong with securing a connection exactly if it is to be secured and that fails. -/
lemma Engine.fault?_ne_none_iff {engine : Engine} {journey : Journey} {request : Connect.Request} :
    engine.fault? journey request.host ≠ none ↔
      engine.connector.isSome = true ∧ journey.Fails request := by
  rw [Ne, fault?_eq_none_iff, Journey.Fails]
  cases engine.connector with
  | none => simp
  | some material =>
    cases Tls.ServerName.ofHost request.host <;> cases journey.handshake <;> simp

namespace Manager

variable {m : Manager} {engine : Engine} {journey : Journey} {id : ConnectionId}
  {request : Connect.Request} {secret : Prop}

/-- A request that is lost makes no connection. -/
lemma Connects.ofLost (hdriver : (m.createConnection journey id request).1.passage.driver = none)
    (hnotes : (m.createConnection journey id request).1.notes = []) :
    m.Connects journey id request secret where
  driven hd := by cases hdriver.symm.trans hd
  announced hcall := by
    rw [hnotes] at hcall
    cases hcall
  later hd := by cases hdriver.symm.trans hd
  rejected _ _ _ _ _ := ⟨hdriver, by simp [hnotes]⟩

/-- A request that is settled makes a connection as secure as the engine has it. -/
lemma Connects.ofSettled {bind : Option Endpoint}
    (hsecret : engine.connector.isSome = true ↔ secret)
    (hbind : bindEndpoint request.bindIp request.bindPort = .ok bind)
    (hdrives : engine.Drives id (m.createConnection journey id request).1.passage.driver)
    (hsettles : engine.Settles journey id request (journey.Reached request bind)
      ((m.createConnection journey id request).1.passage,
        (m.createConnection journey id request).1.notes)) :
    m.Connects journey id request secret := by
  constructor
  case driven =>
    intro d hd es
    rw [TcpDriver.encrypted_run, (hdrives d hd).2]
    exact hsecret
  case announced =>
    intro connection identity hcall
    obtain ⟨rfl, hreached, hsound, hreported⟩ := hsettles.of_connect hcall
    obtain ⟨d, hd⟩ := Option.isSome_iff_exists.mp
      (hsettles.driven.mpr ⟨hreached, hsound, hreported⟩)
    refine ⟨⟨d, hd, (hdrives d hd).1⟩, fun hsecure hfails => ?_⟩
    exact Engine.fault?_ne_none_iff.mpr ⟨hsecret.mpr hsecure, hfails⟩ hsound
  case later =>
    intro d hd es connection identity hcall
    rcases hsettles.quiet hd ⟨es, hcall⟩ with (hno | hno) | hno <;> cases hno
  case rejected =>
    intro hsecure hfails bind' hbind' hreached
    obtain rfl : bind = bind' := Except.ok.inj (hbind.symm.trans hbind')
    have hfault := Engine.fault?_ne_none_iff.mpr ⟨hsecret.mpr hsecure, hfails⟩
    obtain ⟨⟨code, message⟩, hsome⟩ := Option.ne_none_iff_exists'.mp hfault
    have hnone : ¬(m.createConnection journey id request).1.passage.driver.isSome = true :=
      fun hdriven => hfault (hsettles.driven.mp hdriven).2.1
    refine ⟨Option.not_isSome_iff_eq_none.mp hnone, fun connection identity => ?_⟩
    rw [hsettles.unsecured hreached hsome]
    simp

/-- A manager makes connections as secure as its engine has it. -/
lemma connects (hengine : m.engine = some engine)
    (hsecret : engine.connector.isSome = true ↔ secret) (journey : Journey) (id : ConnectionId)
    (request : Connect.Request) : m.Connects journey id request secret := by
  rcases createConnection_cases hengine journey id request with
    ⟨hdriver, hnotes⟩ | ⟨hdrives, bind, hbind, hsettles⟩
  · exact .ofLost hdriver hnotes
  · exact .ofSettled hsecret hbind hdrives hsettles

end Manager

/-! ### Both roles -/

/-- **No connection is downgraded silently.**  A start of a stopped manager with right settings
screens its certificates: one that cannot be loaded fails it if encryption is required, before any
port is asked for, and otherwise is reported once and does nothing to the start.  In whatever order
starts and stops go on, every engine around is equipped for each role with what could be loaded for
that role.  With such an engine accepted connections are encrypted exactly if the server's
certificate is configured and can be loaded, and outbound ones exactly if the client's is; and none
whose handshake failed, or whose server has no name that could be checked, is ever announced. -/
theorem no_silent_downgrade {ω : Type} (system : System ω) (config : TcpConfig) :
    (config.violations = [] → ∀ (m : Manager) (w : ω), m.Stands .stopped →
        Startup.Screens m system config w) ∧
      (∀ (m : Manager) (w : ω) es, m.engine = none →
        (∀ call, .start call ∈ es → call = Call.stop ∨ ∃ config, call = Call.start config) →
          Call.Accounted system (Call.interleave system ⟨(m, w), []⟩ es).1) ∧
      ∀ engine, Startup.Equipped system config engine →
        (∀ limit es, engine.Admits limit es
          (Startup.Loads system.serverMaterial config.serverCertificate)) ∧
        ∀ m : Manager, m.engine = some engine → ∀ journey id request,
          m.Connects journey id request
            (Startup.Loads system.clientMaterial config.clientCertificate) := by
  refine ⟨fun hvalid m w hstopped => Startup.screens hvalid hstopped system w, ?_, ?_⟩
  · intro m w es hnone begun
    refine Call.accounted_run ⟨fun hno => (by cases hno), fun hknown => ?_⟩ es begun
    cases hnone.symm.trans hknown
  · intro engine hequipped
    have hserver : engine.acceptor.isSome = true ↔ _ :=
      hequipped.acceptor ▸ Startup.isSome_loaded?_iff
    have hclient : engine.connector.isSome = true ↔ _ :=
      hequipped.connector ▸ Startup.isSome_loaded?_iff
    exact ⟨Engine.admits hserver, fun m hengine => Manager.connects hengine hclient⟩

/-- A system that can load every certificate of a client but none of a server, and has every port
free. -/
def System.lopsided : System Unit where
  serverMaterial _ := .error .notInitialized
  clientMaterial _ := .ok { anchors := [], own := none }
  listen w endpoint := (.ok endpoint.port, w)

/-- Settings with a certificate for each role. -/
def withBoth : TcpConfig :=
  { ports := [80], threadCount := 1
    serverCertificate := some { cert := some "", key := some "" }
    clientCertificate := some { ca := some "" } }

/-- A host that is reached, but with which no handshake succeeds. -/
def Journey.untrusted : Journey where
  resolver _ _ := .ok [⟨.v4 0x7f000001, 7001⟩]
  attempt _ _ _ := .ok ()
  ends := .ok (⟨.v4 0x7f000001, 5001⟩, ⟨.v4 0x7f000001, 7001⟩)
  handshake := .error (.os 104)

/-- If encryption is required, the server's certificate fails the start.  If it is not, that is
reported, accepted connections are plain, and an outbound connection is still given up over its
handshake. -/
theorem no_silent_downgrade_one_role :
    let strict := ({} : Manager).init .lopsided { withBoth with requireTls := true } ()
    let lax := ({} : Manager).init .lopsided withBoth ()
    let request : Connect.Request :=
      { host := "here", service := "7001", sync := true, identity := ⟨7⟩ }
    let outcome := (lax.2.1.createConnection .untrusted ⟨1⟩ request).1
    strict.1 = .error (.refused .notInitialized) ∧
      Note.reports "manager" "load server certificate" lax.2.2.2 =
        [.error "manager" "load server certificate" NetworkError.notInitialized.code
          NetworkError.notInitialized.message] ∧
      Note.reports "manager" "load client certificate" lax.2.2.2 = [] ∧
      ∃ engine, lax.2.1.engine = some engine ∧
        (∀ limit es n port loop d,
          ((Gate.start engine limit).run es).1.arrivals.get? n = some ⟨port, loop, .driven d⟩ →
            d.connection.encrypted ≠ true) ∧
        outcome.passage.driver = none ∧
        ∀ connection identity, .connect connection identity ∉ Note.callbacks outcome.notes := by
  intro strict lax request outcome
  obtain ⟨hstrict, -, -⟩ := no_silent_downgrade .lopsided { withBoth with requireTls := true }
  obtain ⟨hlax, -, hengines⟩ := no_silent_downgrade .lopsided withBoth
  have hrefused := hstrict (by decide +kernel) {} () Manager.stands_fresh
  have hscreens := hlax (by decide +kernel) {} () Manager.stands_fresh
  obtain ⟨engine, hengine⟩ : ∃ engine, lax.2.1.engine = some engine :=
    Option.isSome_iff_exists.mp (by decide +kernel)
  obtain ⟨hadmits, hconnects⟩ := hengines engine
    (hscreens.equipped (Startup.steps withBoth) engine (.inr hengine))
  have hserver : ¬Startup.Loads System.lopsided.serverMaterial withBoth.serverCertificate := by
    rintro ⟨c, material, -, hno⟩
    cases hno
  have hclient : Startup.Loads System.lopsided.clientMaterial withBoth.clientCertificate :=
    ⟨_, _, rfl, rfl⟩
  have hreached : Journey.untrusted.Reached request none :=
    ⟨_, rfl, ⟨0, _, (), rfl, rfl⟩, fun _ => rfl⟩
  exact ⟨(hrefused.refused rfl (by decide) rfl).1,
    hscreens.reported rfl (by decide) .server, hscreens.reported rfl (by decide) .client, engine,
    hengine,
    fun limit es n port loop d hdriven => mt ((hadmits limit es).driven hdriven).mp hserver,
    (hconnects _ hengine .untrusted ⟨1⟩ request).rejected hclient (.inr ⟨_, rfl⟩)
      (by decide +kernel) hreached⟩

end Switchboard.Tcp
