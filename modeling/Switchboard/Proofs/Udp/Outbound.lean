import Switchboard.Proofs.Connect.Outcome
import Switchboard.Proofs.Connect.Readiness
import Switchboard.Proofs.Udp.Active

/-!
# Outbound datagram connections

The account of a request is that of a stream connection, but for the encryption, which datagrams do
not have: what an engine does with it settles it (`Udp.Engine.Settles`), a caller that waits comes
to the same as one that does not (`Udp.Engine.attend_eq_connect`), and a manager that is ready hands
requests over to its engine.
-/

namespace Switchboard

/-- A call that a driver makes in some run. -/
def UdpDriver.Calls (d : UdpDriver) (call : Callback) : Prop :=
  ∃ es, call ∈ Note.callbacks (d.run es).2

namespace Udp

namespace Journey

/-- A socket is bound to some candidate, and the loop takes it over if the caller has made it. -/
def Reached (journey : Journey) (request : Connect.Request) (bind : Option Endpoint) : Prop :=
  Connect.Reached (journey.resolver request.host request.service) (journey.tryCandidate bind)
    (request.sync = true → journey.register = .ok ())

/-- The socket tells its ends. -/
def Reported (journey : Journey) : Prop :=
  (∃ host, journey.host = .ok host) ∧ ∃ peer, journey.peer = .ok peer

end Journey

namespace Engine

variable {engine : Engine} {journey : Journey} {id : ConnectionId} {request : Connect.Request}
  {bind : Option Endpoint} {candidates tried : List Endpoint} {reached : Prop}

/-- What an engine owes to a request, given whether a candidate was reached; datagrams are not
secured. -/
def Settles (journey : Journey) (id : ConnectionId) (request : Connect.Request) (reached : Prop)
    (s : Noted Passage) : Prop :=
  Connect.Answered UdpDriver.Calls id request.identity
    (journey.resolver request.host request.service) reached none journey.Reported s.1.driver
    (Note.callbacks s.2)

/-- A host that cannot be resolved is told of. -/
lemma settles_resolveFailed {e : SystemError}
    (hresolver : journey.resolver request.host request.service = .error e) (hreached : ¬reached) :
    Settles journey id request reached ({}, resolveFailed request.identity e) := by
  unfold Settles
  rw [hresolver]
  exact .ofUnresolved hreached

/-- Candidates that are used up, or a socket that no loop takes over, are told of. -/
lemma settles_connectFailed
    (hresolver : journey.resolver request.host request.service = .ok candidates)
    (hreached : ¬reached) :
    Settles journey id request reached ({ tried }, connectFailed request.identity) := by
  unfold Settles
  rw [hresolver]
  exact .ofUnreached hreached

/-- A socket becomes a connection if it tells its ends. -/
lemma settles_runConnection (engine : Engine)
    (hresolver : journey.resolver request.host request.service = .ok candidates)
    (hreached : reached) :
    Settles journey id request reached
      ({ tried, driver := (engine.runConnection journey id request.identity).1 },
        (engine.runConnection journey id request.identity).2) := by
  unfold Settles runConnection
  rw [hresolver]
  cases hhost : journey.host with
  | error e =>
    refine .ofLost ?_
    rintro ⟨⟨host, hok⟩, -⟩
    rw [hhost] at hok
    cases hok
  | ok host =>
    cases hpeer : journey.peer with
    | error e =>
      refine .ofLost ?_
      rintro ⟨-, peer, hok⟩
      rw [hpeer] at hok
      cases hok
    | ok peer =>
      let c : UdpConnection :=
        { id, direction := .active, identity := request.identity, host, peer }
      obtain ⟨hcoherent, -, -⟩ :=
        UdpDriver.started_ofConnection c engine.maxDatagram [] (by simp)
      refine .ofConnected hreached ⟨⟨host, hhost⟩, peer, hpeer⟩ ?_
      rintro call ⟨es, hcall⟩
      exact UdpDriver.calls_run hcoherent es hcall

/-- A caller that waits comes to the same as one that does not, if a loop takes the socket over. -/
theorem attend_eq_connect (hregister : journey.register = .ok ()) :
    (engine.attend journey id request bind).2 = engine.connect journey id request bind := by
  unfold attend connect
  cases journey.resolver request.host request.service with
  | error e => rfl
  | ok candidates =>
    simp only [Connect.connectStepwise_eq, hregister]
    rcases Connect.connectBlocking (journey.tryCandidate bind) candidates with ⟨_ | _, tried⟩
    · rfl
    · rfl

/-- What is done on a loop settles a request. -/
lemma settles_connect (engine : Engine) (journey : Journey) (id : ConnectionId)
    (request : Connect.Request) (bind : Option Endpoint)
    (htaken : request.sync = true → journey.register = .ok ()) :
    Settles journey id request (journey.Reached request bind)
      (engine.connect journey id request bind) := by
  unfold connect
  cases hresolver : journey.resolver request.host request.service with
  | error e => exact settles_resolveFailed hresolver (Connect.not_reached_of_unresolved hresolver)
  | ok candidates =>
    simp only [Connect.connectStepwise_eq]
    rcases hsearch : Connect.connectBlocking (journey.tryCandidate bind) candidates with
      ⟨⟨value, endpoint⟩ | ⟨attempts, e⟩, tried⟩
    · have hreached : journey.Reached request bind :=
        Connect.reached_of_connected hresolver hsearch htaken
      exact engine.settles_runConnection hresolver hreached
    · exact settles_connectFailed hresolver (Connect.not_reached_of_exhausted hresolver hsearch)

/-- What is done in the time of the caller, and on a loop after that, settles a request. -/
lemma settles_attend (engine : Engine) (journey : Journey) (id : ConnectionId)
    (request : Connect.Request) (bind : Option Endpoint) (hsync : request.sync = true) :
    Settles journey id request (journey.Reached request bind)
      (engine.attend journey id request bind).2 := by
  cases hregister : journey.register with
  | ok =>
    rw [attend_eq_connect hregister]
    exact engine.settles_connect journey id request bind fun _ => hregister
  | error e =>
    have hreached : ¬journey.Reached request bind := by
      rintro ⟨candidates, -, -, htaken⟩
      rw [htaken hsync] at hregister
      cases hregister
    unfold attend
    cases hresolver : journey.resolver request.host request.service with
    | error e => exact settles_resolveFailed hresolver hreached
    | ok candidates =>
      simp only [hregister]
      rcases Connect.connectBlocking (journey.tryCandidate bind) candidates with ⟨_ | _, tried⟩
      · exact settles_connectFailed hresolver hreached
      · exact settles_connectFailed hresolver hreached

/-- A caller that waits is never told that the manager does not run. -/
lemma attend_initialized (engine : Engine) (journey : Journey) (id : ConnectionId)
    (request : Connect.Request) (bind : Option Endpoint) :
    (engine.attend journey id request bind).1 ≠ .error .notInitialized := by
  unfold attend
  cases journey.resolver request.host request.service with
  | error e => simp
  | ok candidates =>
    dsimp only
    rcases Connect.connectBlocking (journey.tryCandidate bind) candidates with ⟨_ | _, tried⟩
    · cases journey.register <;> simp
    · simp

end Engine

namespace Manager

variable {m : Manager} {engine : Engine}

/-- A manager without an engine refuses every request, and is what it was. -/
lemma createConnection_of_stopped (hengine : m.engine = none) (journey : Journey)
    (id : ConnectionId) (request : Connect.Request) :
    m.createConnection journey id request = ({ answer := .error .notInitialized }, m) := by
  simp [createConnection, hengine]

/-- A request moves at most a rotation on. -/
lemma manager_createConnection (m : Manager) (journey : Journey) (id : ConnectionId)
    (request : Connect.Request) :
    (m.createConnection journey id request).2 = m ∨
      ∃ s, (m.createConnection journey id request).2 = { m with pool := (m.pool.next s).2 } := by
  unfold createConnection
  split
  · exact .inl rfl
  · rename_i engine hengine
    split
    · exact .inl rfl
    · right
      refine ⟨engine.loops, ?_⟩
      split
      · rename_i hnext
        rw [hnext, hengine]
      · rename_i hnext
        rw [hnext, hengine]
        dsimp only
        split
        · split <;> rfl
        · split <;> rfl

/-- A manager that is ready has its engine handle a request, in the time of the caller if it waits,
and deals out the next loop for it. -/
lemma createConnection_eq_of_ready (hengine : m.engine = some engine)
    (hruns : m.pool.Runs engine.loops) (journey : Journey) (id : ConnectionId)
    {request : Connect.Request} {bind : Option Endpoint}
    (hbind : bindEndpoint request.bindIp request.bindPort = .ok bind) :
    m.createConnection journey id request =
      let handled := if request.sync then engine.attend journey id request bind
        else (.ok (), engine.connect journey id request bind)
      ({ answer := handled.1, passage := handled.2.1, notes := handled.2.2 },
        { m with pool := (m.pool.next engine.loops).2 }) := by
  obtain ⟨l, hl, hrunning, -⟩ := hruns.next
  unfold createConnection
  simp only [hengine, hbind]
  generalize m.pool.next engine.loops = next at hl hrunning
  obtain ⟨dealt, pool⟩ := next
  obtain rfl : dealt = some l := hl
  dsimp only at hrunning ⊢
  cases request.sync with
  | true => simp only [if_true, LoopPool.runOn, hrunning, Bool.false_eq_true, if_false]
  | false => simp only [LoopPool.runOn, hrunning, Bool.false_eq_true, if_false]

/-- A manager that is ready hands a request over to its engine, and stays ready. -/
lemma createConnection_of_ready (hengine : m.engine = some engine)
    (hruns : m.pool.Runs engine.loops) (journey : Journey) (id : ConnectionId)
    {request : Connect.Request} {bind : Option Endpoint}
    (hbind : bindEndpoint request.bindIp request.bindPort = .ok bind) :
    (m.createConnection journey id request).2.Ready ∧
      ((m.createConnection journey id request).1.passage,
          (m.createConnection journey id request).1.notes) =
        if request.sync then (engine.attend journey id request bind).2
        else engine.connect journey id request bind := by
  obtain ⟨l, -, -, hstill⟩ := hruns.next
  rw [createConnection_eq_of_ready hengine hruns journey id hbind]
  refine ⟨⟨engine, hengine, hstill⟩, ?_⟩
  cases request.sync <;> rfl

/-- A manager that is ready is so for the next request. -/
lemma Ready.createConnection (h : m.Ready) (journey : Journey) (id : ConnectionId)
    (request : Connect.Request) : (m.createConnection journey id request).2.Ready := by
  obtain ⟨engine, hengine, hruns⟩ := h
  cases hbind : bindEndpoint request.bindIp request.bindPort with
  | error e =>
    simp only [Manager.createConnection, hengine, hbind]
    exact ⟨engine, hengine, hruns⟩
  | ok bind => exact (createConnection_of_ready hengine hruns journey id hbind).1

/-- A manager that is ready refuses no request for want of an engine. -/
lemma Ready.initialized (h : m.Ready) (journey : Journey) (id : ConnectionId)
    (request : Connect.Request) :
    (m.createConnection journey id request).1.answer ≠ .error .notInitialized := by
  obtain ⟨engine, hengine, hruns⟩ := h
  cases hbind : bindEndpoint request.bindIp request.bindPort with
  | error e =>
    have hother := bindEndpoint_ne_notInitialized request.bindIp request.bindPort
    simpa [Manager.createConnection, hengine, hbind] using hother
  | ok bind =>
    rw [createConnection_eq_of_ready hengine hruns journey id hbind]
    cases request.sync with
    | true => exact engine.attend_initialized journey id request bind
    | false => simp

/-- What the engine of a manager that is ready does with a request settles it. -/
lemma Ready.settles (h : m.Ready) (journey : Journey) (id : ConnectionId)
    {request : Connect.Request} {bind : Option Endpoint}
    (hbind : bindEndpoint request.bindIp request.bindPort = .ok bind) :
    Engine.Settles journey id request (journey.Reached request bind)
      ((m.createConnection journey id request).1.passage,
        (m.createConnection journey id request).1.notes) := by
  obtain ⟨engine, hengine, hruns⟩ := h
  rw [(createConnection_of_ready hengine hruns journey id hbind).2]
  cases hsync : request.sync with
  | true => exact engine.settles_attend journey id request bind hsync
  | false => exact engine.settles_connect journey id request bind (by simp [hsync])

/-- The service hears nothing of a request that is refused. -/
lemma silent_of_refused (m : Manager) (journey : Journey) (id : ConnectionId)
    (request : Connect.Request)
    (hrefused : (m.createConnection journey id request).1.answer = .error .notInitialized ∨
      ∃ e, bindEndpoint request.bindIp request.bindPort = .error e) :
    (m.createConnection journey id request).1.passage.driver = none ∧
      (m.createConnection journey id request).1.notes = [] := by
  unfold createConnection at hrefused ⊢
  cases hengine : m.engine with
  | none => exact ⟨rfl, rfl⟩
  | some engine =>
    cases hbind : bindEndpoint request.bindIp request.bindPort with
    | error e => exact ⟨rfl, rfl⟩
    | ok bind =>
      have hattend := engine.attend_initialized journey id request bind
      simp only [hengine, hbind] at hrefused ⊢
      generalize m.pool.next engine.loops = next at hrefused ⊢
      obtain ⟨_ | l, pool⟩ := next
      · exact ⟨rfl, rfl⟩
      · -- a call that got a loop is answered otherwise
        exfalso
        obtain hanswer | ⟨e, hinvalid⟩ := hrefused
        · dsimp only at hanswer
          split at hanswer
          · split at hanswer
            · exact hattend hanswer
            · exact hattend hanswer
          · split at hanswer <;> cases hanswer
        · cases hinvalid

end Manager

end Udp

end Switchboard
