import Switchboard.Proofs.Tcp.Outbound
import Switchboard.Proofs.Udp.Outbound

/-!
# Requests for connections

What a manager owes to a request for an outbound connection, for managers of streams
(`Tcp.Manager.Settles`) and of datagrams (`Udp.Manager.Settles`): one that runs on loops that run
has its service told of one outcome, and is ready for the next request; a request that is refused is
not heard of.  `Connect.told_once` is the whole of it, from the start of a manager on.
-/

namespace Switchboard

namespace Tcp

/-- What becomes of a request for a stream connection. -/
structure Manager.Settles (m : Manager) (journey : Journey) (id : ConnectionId)
    (request : Connect.Request) : Prop where
  /-- A manager that is ready stays so. -/
  kept : m.Ready → (m.createConnection journey id request).2.Ready
  /-- The service of such a manager is told of one outcome. -/
  answered : ∀ {engine bind}, m.Ready → m.engine = some engine →
    bindEndpoint request.bindIp request.bindPort = .ok bind →
    engine.Settles journey id request (journey.Reached request bind)
      ((m.createConnection journey id request).1.passage,
        (m.createConnection journey id request).1.notes)
  /-- The service hears nothing of a request that is refused, and there is no driver for it. -/
  refused : ((m.createConnection journey id request).1.answer = .error .notInitialized ∨
      ∃ e, bindEndpoint request.bindIp request.bindPort = .error e) →
    (m.createConnection journey id request).1.passage.driver = none ∧
      (m.createConnection journey id request).1.notes = []

lemma Manager.settles (m : Manager) (journey : Journey) (id : ConnectionId)
    (request : Connect.Request) : m.Settles journey id request where
  kept hready := hready.createConnection journey id request
  answered hready hengine hbind := hready.settles hengine journey id hbind
  refused := m.silent_of_refused journey id request

end Tcp

namespace Udp

/-- What becomes of a request for a datagram connection. -/
structure Manager.Settles (m : Manager) (journey : Journey) (id : ConnectionId)
    (request : Connect.Request) : Prop where
  /-- A manager that is ready stays so. -/
  kept : m.Ready → (m.createConnection journey id request).2.Ready
  /-- The service of such a manager is told of one outcome. -/
  answered : ∀ {bind}, m.Ready → bindEndpoint request.bindIp request.bindPort = .ok bind →
    Engine.Settles journey id request (journey.Reached request bind)
      ((m.createConnection journey id request).1.passage,
        (m.createConnection journey id request).1.notes)
  /-- The service hears nothing of a request that is refused, and there is no driver for it. -/
  refused : ((m.createConnection journey id request).1.answer = .error .notInitialized ∨
      ∃ e, bindEndpoint request.bindIp request.bindPort = .error e) →
    (m.createConnection journey id request).1.passage.driver = none ∧
      (m.createConnection journey id request).1.notes = []

lemma Manager.settles (m : Manager) (journey : Journey) (id : ConnectionId)
    (request : Connect.Request) : m.Settles journey id request where
  kept hready := hready.createConnection journey id request
  answered hready hbind := hready.settles journey id hbind
  refused := m.silent_of_refused journey id request

end Udp

/-- **A request for a connection has one outcome.**  A manager that was started is ready, and stays
so from request to request.  Whatever the resolver, the attempts and the handshake answer, and
whether the caller waits or not, the service of a manager that is ready is told of a request as
follows:

* of one connection attempt that came to its end, with a connection exactly if some candidate was
  connected to, a loop took the socket over, the connection could be secured if it is to be, and the
  socket told its ends;
* before that of an error, if and only if the host could not be resolved;
* of an error only, if the connection could not be secured: if the host has no name to present, or
  the handshake fails.

Only a connection has a driver, which does not announce it again.  The service hears nothing of a
request that is refused because the manager does not run or the local end is not valid. -/
theorem Connect.told_once :
    (∀ {ω : Type} (m : Tcp.Manager) (system : Tcp.System ω) (config : TcpConfig) (w : ω),
        (m.init system config w).1 = .ok () → (m.init system config w).2.1.Ready) ∧
      (∀ {ω : Type} (m : Udp.Manager) (system : Udp.System ω) (config : UdpConfig) (w : ω),
        (m.init system config w).1 = .ok () → (m.init system config w).2.1.Ready) ∧
      (∀ (m : Tcp.Manager) (journey : Tcp.Journey) (id : ConnectionId) (request : Request),
        m.Settles journey id request) ∧
      (∀ (m : Udp.Manager) (journey : Udp.Journey) (id : ConnectionId) (request : Request),
        m.Settles journey id request) ∧
      ∀ (engine : Tcp.Engine) (journey : Tcp.Journey) (host : String),
        engine.fault? journey host = none ↔ engine.connector = none ∨
          (∃ name, Tls.ServerName.ofHost host = .ok name) ∧ journey.handshake = .ok () := by
  refine ⟨?_, ?_, ?_, ?_, ?_⟩
  · intro ω m system config w hok
    exact m.ready_of_init system config w hok
  · intro ω m system config w hok
    exact m.ready_of_init system config w hok
  · intro m journey id request
    exact m.settles journey id request
  · intro m journey id request
    exact m.settles journey id request
  · intro engine journey host
    exact engine.fault?_eq_none_iff

/-- A system that refuses every certificate and has every port free. -/
def Tcp.System.bare : Tcp.System Unit where
  serverMaterial _ := .error .notInitialized
  clientMaterial _ := .error .notInitialized
  listen w endpoint := (.ok endpoint.port, w)

/-- A system that has every port free. -/
def Udp.System.bare : Udp.System Unit where
  openSocket w endpoint := (.ok endpoint.port, w)

/-- A host with two endpoints, of which the second can be connected to. -/
def Tcp.Journey.detour : Tcp.Journey where
  resolver _ _ := .ok [⟨.v4 0x7f000001, 7001⟩, ⟨.v4 0x7f000001, 7002⟩]
  attempt _ made _ := if made = 0 then .error (.os 111) else .ok ()
  ends := .ok (⟨.v4 0x7f000001, 5001⟩, ⟨.v4 0x7f000001, 7002⟩)

/-- A host that cannot be resolved. -/
def Udp.Journey.astray : Udp.Journey where
  resolver _ _ := .error (.os 2)
  attempt _ _ _ := .ok ()
  host := .ok ⟨.v4 0x7f000001, 5001⟩
  peer := .ok ⟨.v4 0x7f000001, 7001⟩

/-- A started manager of streams connects to the second endpoint of a host, one of datagrams tells
of a host that it cannot resolve, and a manager that was not started tells of nothing. -/
theorem Connect.told_once_detour :
    let request : Request := { host := "here", service := "7001", sync := true, identity := ⟨7⟩ }
    let streams := ({} : Tcp.Manager).init .bare { threadCount := 1 } ()
    let datagrams := ({} : Udp.Manager).init .bare { threadCount := 1 } ()
    streams.1 = .ok () ∧ datagrams.1 = .ok () ∧
      .connect (some ⟨1⟩) ⟨7⟩ ∈ Note.callbacks
        (streams.2.1.createConnection .detour ⟨1⟩ request).1.notes ∧
      Note.callbacks (datagrams.2.1.createConnection .astray ⟨1⟩ request).1.notes =
        [.error "connection" "resolve" (SystemError.os 2).code (SystemError.os 2).message,
          .connect none ⟨7⟩] ∧
      (({} : Tcp.Manager).createConnection .detour ⟨1⟩ request).1.notes = [] := by
  intro request streams datagrams
  obtain ⟨hstreams, hdatagrams, htcp, hudp, hsecured⟩ := Connect.told_once
  have hstarted : streams.1 = .ok () := by decide +kernel
  have hstarted' : datagrams.1 = .ok () := by decide +kernel
  have hbind : bindEndpoint request.bindIp request.bindPort = .ok none := by decide +kernel
  have hready := hstreams {} .bare { threadCount := 1 } () hstarted
  have hready' := hdatagrams {} .bare { threadCount := 1 } () hstarted'
  obtain ⟨engine, hengine, -⟩ := id hready
  have hconnector : engine.connector = none := by
    have hplain : streams.2.1.engine.bind Tcp.Engine.connector = none := by decide +kernel
    rwa [hengine] at hplain
  have hanswered := (htcp streams.2.1 .detour ⟨1⟩ request).answered hready hengine hbind
  have hreached : Tcp.Journey.detour.Reached request none :=
    ⟨_, rfl, ⟨1, _, (), rfl, rfl⟩, fun _ => rfl⟩
  have hfault : engine.fault? .detour request.host = none :=
    (hsecured engine .detour request.host).mpr (.inl hconnector)
  refine ⟨hstarted, hstarted', ?_, ?_, ?_⟩
  · exact hanswered.connected.mpr ⟨hreached, hfault, _, _, rfl⟩
  · exact ((hudp datagrams.2.1 .astray ⟨1⟩ request).answered hready' hbind).unresolved rfl
  · exact ((htcp {} .detour ⟨1⟩ request).refused (.inl rfl)).2

end Switchboard
