import Switchboard.Proofs.Connect.Outcome
import Switchboard.Proofs.Connect.Readiness
import Switchboard.Proofs.Tcp.Calls

/-!
# Outbound stream connections

What an engine does with a request settles it: the service is told of one outcome, and a driver is
left exactly if there is a connection (`Tcp.Engine.Settles`).  A caller that waits comes to the same
as one that does not, unless no loop takes the socket over (`Tcp.Engine.attend_eq_connect`), so one
account covers both.  A manager that is ready hands every request with a valid local end over to its
engine and stays ready; of a request that is refused the service hears nothing.
-/

namespace Switchboard

/-- A call that a driver makes in some run. -/
def TcpDriver.Calls (d : TcpDriver) (call : Callback) : Prop :=
  ∃ es, call ∈ Note.callbacks (d.run es).2

/-- A started driver tells the service of bytes and of the end, and of nothing else. -/
lemma TcpDriver.Coherent.calls {d : TcpDriver} (h : d.Coherent) {call : Callback}
    (hcall : d.Calls call) : call.tells d.id ∨ call = .close d.id .closed := by
  obtain ⟨es, hcall⟩ := hcall
  obtain ⟨calls, htells, hcalls⟩ := callbacks_run h es
  rw [hcalls, List.mem_append] at hcall
  rcases hcall with hcall | hcall
  · exact .inl (htells call hcall)
  · unfold farewell at hcall
    split at hcall
    · exact .inr (List.mem_singleton.mp hcall)
    · cases hcall

namespace Tcp

namespace Journey

/-- Some candidate is connected to, and the loop takes the socket over if the caller has made it. -/
def Reached (journey : Journey) (request : Connect.Request) (bind : Option Endpoint) : Prop :=
  Connect.Reached (journey.resolver request.host request.service) (journey.attempt bind)
    (request.sync = true → journey.register = .ok ())

/-- The connected socket tells its ends. -/
def Reported (journey : Journey) : Prop := ∃ host peer, journey.ends = .ok (host, peer)

end Journey

namespace Engine

variable {engine : Engine} {journey : Journey} {id : ConnectionId} {request : Connect.Request}
  {bind : Option Endpoint} {candidates tried : List Endpoint} {reached : Prop}

/-- What is wrong with securing a connection to a host: its name, or the handshake. -/
def fault? (engine : Engine) (journey : Journey) (host : String) : Option (Nat × String) :=
  match engine.connector with
  | none => none
  | some _ =>
    match Tls.ServerName.ofHost host with
    | .error e => some (e.code, e.message)
    | .ok _ =>
      match journey.handshake with
      | .error e => some (e.code, e.message)
      | .ok () => none

/-- Nothing is wrong if connections are not encrypted, or if the host has a name and the handshake
succeeds. -/
lemma fault?_eq_none_iff {host : String} :
    engine.fault? journey host = none ↔ engine.connector = none ∨
      (∃ name, Tls.ServerName.ofHost host = .ok name) ∧ journey.handshake = .ok () := by
  unfold fault?
  cases engine.connector with
  | none => simp
  | some material =>
    cases Tls.ServerName.ofHost host with
    | error e => simp
    | ok name => cases journey.handshake <;> simp

/-- A driver that was just started is that of its connection, which is encrypted as it was to be. -/
lemma runConnection_spec {identity : Identity} {encrypted : Bool}
    {ends : Except SystemError (Endpoint × Endpoint)} {opening : Opening} {d : TcpDriver}
    (h : (engine.runConnection id identity encrypted ends opening).1 = some d) :
    d.id = id ∧ d.connection.encrypted = encrypted := by
  cases ends with
  | error e => cases h
  | ok ends =>
    cases h
    exact ⟨rfl, rfl⟩

/-- What an engine owes to a request, given whether a candidate was reached. -/
def Settles (engine : Engine) (journey : Journey) (id : ConnectionId) (request : Connect.Request)
    (reached : Prop) (s : Noted Passage) : Prop :=
  Connect.Answered TcpDriver.Calls id request.identity
    (journey.resolver request.host request.service) reached
    (engine.fault? journey request.host) journey.Reported s.1.driver (Note.callbacks s.2)

/-- A host that cannot be resolved is told of. -/
lemma settles_resolveFailed {e : SystemError}
    (hresolver : journey.resolver request.host request.service = .error e) (hreached : ¬reached) :
    Settles engine journey id request reached ({}, resolveFailed request.identity e) := by
  unfold Settles
  rw [hresolver]
  exact .ofUnresolved hreached

/-- Candidates that are used up, or a socket that no loop takes over, are told of. -/
lemma settles_connectFailed
    (hresolver : journey.resolver request.host request.service = .ok candidates)
    (hreached : ¬reached) :
    Settles engine journey id request reached ({ tried }, connectFailed request.identity) := by
  unfold Settles
  rw [hresolver]
  exact .ofUnreached hreached

/-- A socket that need not be secured, or was so, becomes a connection if it tells its ends. -/
lemma settles_runConnection
    (hresolver : journey.resolver request.host request.service = .ok candidates)
    (hreached : reached) (hfault : engine.fault? journey request.host = none) (encrypted : Bool) :
    Settles engine journey id request reached
      ({ tried, driver :=
          (engine.runConnection id request.identity encrypted journey.ends .connected).1 },
        (engine.runConnection id request.identity encrypted journey.ends .connected).2) := by
  unfold Settles runConnection
  rw [hresolver, hfault]
  cases hends : journey.ends with
  | error e =>
    refine .ofLost ?_
    rintro ⟨host, peer, hok⟩
    rw [hends] at hok
    cases hok
  | ok ends =>
    obtain ⟨host, peer⟩ := ends
    let c : TcpConnection :=
      { id, direction := Opening.connected.direction, identity := request.identity, encrypted
        host, peer }
    obtain ⟨hcoherent, -, hcalls⟩ := TcpDriver.started_ofConnection c .connected engine.chunkSize
      engine.closeLinger [] (by simp)
    exact .ofConnected hreached ⟨host, peer, hends⟩ fun call hcall => hcoherent.calls hcall

/-- A connected socket is given up if its connection cannot be secured, and goes on if it can or
need not be; it is encrypted if the engine has what it takes. -/
lemma establish_eq (engine : Engine) (journey : Journey) (id : ConnectionId)
    (request : Connect.Request) :
    engine.establish journey id request =
      match engine.fault? journey request.host with
      | some (code, message) => (none, handshakeFailed code message)
      | none => engine.runConnection id request.identity engine.connector.isSome journey.ends
          .connected := by
  unfold fault? establish
  cases engine.connector with
  | none => rfl
  | some material =>
    cases Tls.ServerName.ofHost request.host with
    | error e => rfl
    | ok name => cases journey.handshake <;> rfl

/-- A connected socket is secured, and given a driver, or what is wrong is told of. -/
lemma settles_establish
    (hresolver : journey.resolver request.host request.service = .ok candidates)
    (hreached : reached) :
    Settles engine journey id request reached
      ({ tried, driver := (engine.establish journey id request).1 },
        (engine.establish journey id request).2) := by
  rw [establish_eq]
  cases hfault : engine.fault? journey request.host with
  | some fault =>
    unfold Settles
    rw [hresolver, hfault]
    exact .ofUnsecured hreached
  | none => exact settles_runConnection hresolver hreached hfault engine.connector.isSome

/-- A caller that waits comes to the same as one that does not, if a loop takes the socket over. -/
theorem attend_eq_connect (hregister : journey.register = .ok ()) :
    (engine.attend journey id request bind).2 = engine.connect journey id request bind := by
  unfold attend connect
  cases journey.resolver request.host request.service with
  | error e => rfl
  | ok candidates =>
    simp only [Connect.connectStepwise_eq, hregister]
    rcases Connect.connectBlocking (journey.attempt bind) candidates with ⟨_ | _, tried⟩ <;> rfl

/-- What is done on a loop settles a request. -/
lemma settles_connect (engine : Engine) (journey : Journey) (id : ConnectionId)
    (request : Connect.Request) (bind : Option Endpoint)
    (htaken : request.sync = true → journey.register = .ok ()) :
    Settles engine journey id request (journey.Reached request bind)
      (engine.connect journey id request bind) := by
  unfold connect
  cases hresolver : journey.resolver request.host request.service with
  | error e => exact settles_resolveFailed hresolver (Connect.not_reached_of_unresolved hresolver)
  | ok candidates =>
    simp only [Connect.connectStepwise_eq]
    rcases hsearch : Connect.connectBlocking (journey.attempt bind) candidates with
      ⟨⟨value, endpoint⟩ | ⟨attempts, e⟩, tried⟩
    · have hreached : journey.Reached request bind :=
        Connect.reached_of_connected hresolver hsearch htaken
      exact settles_establish hresolver hreached
    · exact settles_connectFailed hresolver (Connect.not_reached_of_exhausted hresolver hsearch)

/-- What is done in the time of the caller, and on a loop after that, settles a request. -/
lemma settles_attend (engine : Engine) (journey : Journey) (id : ConnectionId)
    (request : Connect.Request) (bind : Option Endpoint) (hsync : request.sync = true) :
    Settles engine journey id request (journey.Reached request bind)
      (engine.attend journey id request bind).2 := by
  cases hregister : journey.register with
  | ok =>
    rw [attend_eq_connect hregister]
    exact engine.settles_connect journey id request bind fun _ => hregister
  | error e =>
    have hreached : ¬journey.Reached request bind := by
      rintro ⟨candidates, -, -, htaken⟩
      rw [htaken hsync] at hregister
      cases hregister
    unfold attend
    cases hresolver : journey.resolver request.host request.service with
    | error e => exact settles_resolveFailed hresolver hreached
    | ok candidates =>
      simp only [hregister]
      rcases Connect.connectBlocking (journey.attempt bind) candidates with ⟨_ | _, tried⟩
      · exact settles_connectFailed hresolver hreached
      · exact settles_connectFailed hresolver hreached

/-- The driver of a connection is that of the connection asked for, which is encrypted if the engine
has what it takes. -/
def Drives (engine : Engine) (id : ConnectionId) (driver : Option TcpDriver) : Prop :=
  ∀ d, driver = some d → d.id = id ∧ d.connection.encrypted = engine.connector.isSome

lemma drives_none : engine.Drives id none := fun _ hno => by cases hno

lemma drives_establish (engine : Engine) (journey : Journey) (id : ConnectionId)
    (request : Connect.Request) :
    engine.Drives id (engine.establish journey id request).1 := by
  rw [establish_eq]
  cases engine.fault? journey request.host with
  | some fault => exact drives_none
  | none => exact fun d hd => runConnection_spec hd

lemma drives_connect (engine : Engine) (journey : Journey) (id : ConnectionId)
    (request : Connect.Request) (bind : Option Endpoint) :
    engine.Drives id (engine.connect journey id request bind).1.driver := by
  unfold connect
  cases journey.resolver request.host request.service with
  | error e => exact drives_none
  | ok candidates =>
    dsimp only
    rcases Connect.connectStepwise (journey.attempt bind) candidates with ⟨_ | _, tried⟩
    · exact engine.drives_establish journey id request
    · exact drives_none

lemma drives_attend (engine : Engine) (journey : Journey) (id : ConnectionId)
    (request : Connect.Request) (bind : Option Endpoint) :
    engine.Drives id (engine.attend journey id request bind).2.1.driver := by
  unfold attend
  cases journey.resolver request.host request.service with
  | error e => exact drives_none
  | ok candidates =>
    dsimp only
    rcases Connect.connectBlocking (journey.attempt bind) candidates with ⟨_ | _, tried⟩
    · cases journey.register with
      | error e => exact drives_none
      | ok => exact engine.drives_establish journey id request
    · exact drives_none

/-- A caller that waits is never told that the manager does not run. -/
lemma attend_initialized (engine : Engine) (journey : Journey) (id : ConnectionId)
    (request : Connect.Request) (bind : Option Endpoint) :
    (engine.attend journey id request bind).1 ≠ .error .notInitialized := by
  unfold attend
  cases journey.resolver request.host request.service with
  | error e => simp
  | ok candidates =>
    dsimp only
    rcases Connect.connectBlocking (journey.attempt bind) candidates with ⟨_ | _, tried⟩
    · cases journey.register <;> simp
    · simp

end Engine

namespace Manager

variable {m : Manager} {engine : Engine}

/-- A manager without an engine refuses every request, and is what it was. -/
lemma createConnection_of_stopped (hengine : m.engine = none) (journey : Journey)
    (id : ConnectionId) (request : Connect.Request) :
    m.createConnection journey id request = ({ answer := .error .notInitialized }, m) := by
  simp [createConnection, hengine]

/-- A request moves at most a rotation on. -/
lemma manager_createConnection (m : Manager) (journey : Journey) (id : ConnectionId)
    (request : Connect.Request) :
    (m.createConnection journey id request).2 = m ∨
      ∃ s, (m.createConnection journey id request).2 = { m with pool := (m.pool.next s).2 } := by
  unfold createConnection
  split
  · exact .inl rfl
  · rename_i engine hengine
    split
    · exact .inl rfl
    · right
      refine ⟨engine.loops, ?_⟩
      split
      · rename_i hnext
        rw [hnext, hengine]
      · rename_i hnext
        rw [hnext, hengine]
        dsimp only
        split
        · split <;> rfl
        · split <;> rfl

/-- A manager that is ready has its engine handle a request, in the time of the caller if it waits,
and deals out the next loop for it. -/
lemma createConnection_eq_of_ready (hengine : m.engine = some engine)
    (hruns : m.pool.Runs engine.loops) (journey : Journey) (id : ConnectionId)
    {request : Connect.Request} {bind : Option Endpoint}
    (hbind : bindEndpoint request.bindIp request.bindPort = .ok bind) :
    m.createConnection journey id request =
      let handled := if request.sync then engine.attend journey id request bind
        else (.ok (), engine.connect journey id request bind)
      ({ answer := handled.1, passage := handled.2.1, notes := handled.2.2 },
        { m with pool := (m.pool.next engine.loops).2 }) := by
  obtain ⟨l, hl, hrunning, -⟩ := hruns.next
  unfold createConnection
  simp only [hengine, hbind]
  generalize m.pool.next engine.loops = next at hl hrunning
  obtain ⟨dealt, pool⟩ := next
  obtain rfl : dealt = some l := hl
  dsimp only at hrunning ⊢
  cases request.sync with
  | true => simp only [if_true, LoopPool.runOn, hrunning, Bool.false_eq_true, if_false]
  | false => simp only [LoopPool.runOn, hrunning, Bool.false_eq_true, if_false]

/-- A manager that is ready hands a request over to its engine, and stays ready. -/
lemma createConnection_of_ready (hengine : m.engine = some engine)
    (hruns : m.pool.Runs engine.loops) (journey : Journey) (id : ConnectionId)
    {request : Connect.Request} {bind : Option Endpoint}
    (hbind : bindEndpoint request.bindIp request.bindPort = .ok bind) :
    (m.createConnection journey id request).2.Ready ∧
      ((m.createConnection journey id request).1.passage,
          (m.createConnection journey id request).1.notes) =
        if request.sync then (engine.attend journey id request bind).2
        else engine.connect journey id request bind := by
  obtain ⟨l, -, -, hstill⟩ := hruns.next
  rw [createConnection_eq_of_ready hengine hruns journey id hbind]
  refine ⟨⟨engine, hengine, hstill⟩, ?_⟩
  cases request.sync <;> rfl

/-- A manager that is ready is so for the next request. -/
lemma Ready.createConnection (h : m.Ready) (journey : Journey) (id : ConnectionId)
    (request : Connect.Request) : (m.createConnection journey id request).2.Ready := by
  obtain ⟨engine, hengine, hruns⟩ := h
  cases hbind : bindEndpoint request.bindIp request.bindPort with
  | error e =>
    simp only [Manager.createConnection, hengine, hbind]
    exact ⟨engine, hengine, hruns⟩
  | ok bind => exact (createConnection_of_ready hengine hruns journey id hbind).1

/-- A manager that is ready refuses no request for want of an engine. -/
lemma Ready.initialized (h : m.Ready) (journey : Journey) (id : ConnectionId)
    (request : Connect.Request) :
    (m.createConnection journey id request).1.answer ≠ .error .notInitialized := by
  obtain ⟨engine, hengine, hruns⟩ := h
  cases hbind : bindEndpoint request.bindIp request.bindPort with
  | error e =>
    have hother := bindEndpoint_ne_notInitialized request.bindIp request.bindPort
    simpa [Manager.createConnection, hengine, hbind] using hother
  | ok bind =>
    rw [createConnection_eq_of_ready hengine hruns journey id hbind]
    cases request.sync with
    | true => exact engine.attend_initialized journey id request bind
    | false => simp

/-- What the engine of a manager that is ready does with a request settles it. -/
lemma Ready.settles (h : m.Ready) (hengine : m.engine = some engine) (journey : Journey)
    (id : ConnectionId) {request : Connect.Request} {bind : Option Endpoint}
    (hbind : bindEndpoint request.bindIp request.bindPort = .ok bind) :
    engine.Settles journey id request (journey.Reached request bind)
      ((m.createConnection journey id request).1.passage,
        (m.createConnection journey id request).1.notes) := by
  obtain ⟨engine', hengine', hruns⟩ := h
  obtain rfl := Option.some.inj (hengine'.symm.trans hengine)
  rw [(createConnection_of_ready hengine hruns journey id hbind).2]
  cases hsync : request.sync with
  | true => exact engine'.settles_attend journey id request bind hsync
  | false => exact engine'.settles_connect journey id request bind (by simp [hsync])

/-- A request is lost, or what the engine of the manager does with it settles it. -/
lemma createConnection_cases (hengine : m.engine = some engine) (journey : Journey)
    (id : ConnectionId) (request : Connect.Request) :
    let o := (m.createConnection journey id request).1
    o.passage.driver = none ∧ o.notes = [] ∨
      engine.Drives id o.passage.driver ∧ ∃ bind,
        bindEndpoint request.bindIp request.bindPort = .ok bind ∧
          engine.Settles journey id request (journey.Reached request bind)
            (o.passage, o.notes) := by
  unfold createConnection
  simp only [hengine]
  cases hbind : bindEndpoint request.bindIp request.bindPort with
  | error e => exact .inl ⟨rfl, rfl⟩
  | ok bind =>
    dsimp only
    split
    · exact .inl ⟨rfl, rfl⟩
    · rename_i eventLoop pool hnext
      cases hsync : request.sync with
      | true =>
        simp only [if_true, LoopPool.runOn]
        cases pool.isStopped eventLoop with
        | true => exact .inl ⟨rfl, rfl⟩
        | false =>
          exact .inr ⟨engine.drives_attend journey id request bind, bind, rfl,
            engine.settles_attend journey id request bind hsync⟩
      | false =>
        simp only [Bool.false_eq_true, if_false, LoopPool.runOn]
        cases pool.isStopped eventLoop with
        | true => exact .inl ⟨rfl, rfl⟩
        | false =>
          exact .inr ⟨engine.drives_connect journey id request bind, bind, rfl,
            engine.settles_connect journey id request bind (by simp [hsync])⟩

/-- The service hears nothing of a request that is refused. -/
lemma silent_of_refused (m : Manager) (journey : Journey) (id : ConnectionId)
    (request : Connect.Request)
    (hrefused : (m.createConnection journey id request).1.answer = .error .notInitialized ∨
      ∃ e, bindEndpoint request.bindIp request.bindPort = .error e) :
    (m.createConnection journey id request).1.passage.driver = none ∧
      (m.createConnection journey id request).1.notes = [] := by
  unfold createConnection at hrefused ⊢
  cases hengine : m.engine with
  | none => exact ⟨rfl, rfl⟩
  | some engine =>
    cases hbind : bindEndpoint request.bindIp request.bindPort with
    | error e => exact ⟨rfl, rfl⟩
    | ok bind =>
      have hattend := engine.attend_initialized journey id request bind
      simp only [hengine, hbind] at hrefused ⊢
      generalize m.pool.next engine.loops = next at hrefused ⊢
      obtain ⟨_ | l, pool⟩ := next
      · exact ⟨rfl, rfl⟩
      · -- a call that got a loop is answered otherwise
        exfalso
        obtain hanswer | ⟨e, hinvalid⟩ := hrefused
        · dsimp only at hanswer
          split at hanswer
          · split at hanswer
            · exact hattend hanswer
            · exact hattend hanswer
          · split at hanswer <;> cases hanswer
        · cases hinvalid

end Manager

end Tcp

end Switchboard
