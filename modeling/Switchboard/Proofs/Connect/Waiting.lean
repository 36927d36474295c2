import Switchboard.Proofs.Connect.Requests

/-!
# Callers that wait, and callers that do not

A caller that waits has its host resolved and its candidates tried in its own time, in one go; for
one that does not wait a loop does the same, attempt by attempt.  The service cannot tell the two
apart: the same endpoints are tried, it is told the same, and the manager is the same afterwards
(`Connect.Agrees`).  The callers can.  One that does not wait only learns that its request was taken
on, while one that waits learns whether a connection could be tried for and made, and
`Connect.Reply` says what it is told.

A request whose local end is not valid is refused before the two ways part, so neither caller has
its request taken on.
-/

namespace Switchboard

namespace Connect

/-! ### What a caller that waits is told -/

variable {α : Type} {resolution : Except SystemError (List Endpoint)}
  {attempt : Nat → Endpoint → Except SystemError α} {request : Request}

/-- What a caller that waits is answered, and what was tried for it, given what came of resolving
the host and what comes of each attempt. -/
structure Reply (resolution : Except SystemError (List Endpoint))
    (attempt : Nat → Endpoint → Except SystemError α) (request : Request)
    (answer : Except NetworkError Unit) (tried : List Endpoint) : Prop where
  /-- A host that cannot be resolved has nothing tried. -/
  unresolved : ∀ {e}, resolution = .error e →
    answer = .error (.resolve request.host request.service e) ∧ tried = []
  /-- If no candidate can be connected to, all are tried, and their number and the error of the last
  one are told. -/
  unreached : ∀ {candidates}, resolution = .ok candidates → ¬Reachable attempt candidates →
    tried = candidates ∧ ∃ e,
      answer = .error (.connect request.host request.service tried.length e.summarized) ∧
      (candidates = [] → e = noCandidates) ∧
      ∀ endpoint, candidates.getLast? = some endpoint →
        attempt (candidates.length - 1) endpoint = .error e
  /-- Otherwise the candidates are tried up to the one that is connected to. -/
  reached : ∀ {candidates}, resolution = .ok candidates → Reachable attempt candidates →
    answer = .ok () ∧ ∃ i endpoint value, candidates[i]? = some endpoint ∧
      attempt i endpoint = .ok value ∧ tried = candidates.take (i + 1)

/-- A caller that waits is told of an error exactly if the host could not be resolved or no
candidate could be connected to. -/
lemma Reply.error_iff {answer : Except NetworkError Unit} {tried : List Endpoint}
    (h : Reply resolution attempt request answer tried) :
    answer ≠ .ok () ↔ (∃ e, resolution = .error e) ∨
      ∃ candidates, resolution = .ok candidates ∧ ¬Reachable attempt candidates := by
  cases hresolution : resolution with
  | error e => simp [(h.unresolved hresolution).1]
  | ok candidates =>
    by_cases hreachable : Reachable attempt candidates
    · simp [(h.reached hresolution hreachable).1, hreachable]
    · obtain ⟨-, e, hanswer, -⟩ := h.unreached hresolution hreachable
      simp [hanswer, hreachable]

/-! ### What both callers come to -/

/-- What a request came to: the caller's answer, the endpoints that were tried, the driver of the
connection, and what was noted on the loop. -/
structure Result (δ : Type) where
  /-- The caller's answer. -/
  answer : Except NetworkError Unit
  /-- The endpoints that were tried, in order. -/
  tried : List Endpoint := []
  /-- The driver, if there is a connection. -/
  driver : Option δ := none
  /-- What was noted on the loop. -/
  notes : List Note := []

/-- What a request comes to for a caller that waits and for one that does not: `ask true` and
`ask false`, with the manager that they leave. -/
structure Agrees {δ μ : Type} (resolution : Except SystemError (List Endpoint))
    (attempt : Option Endpoint → Nat → Endpoint → Except SystemError α) (request : Request)
    (ask : Bool → Result δ × μ) : Prop where
  /-- The same endpoints are tried in the same order. -/
  tried : (ask true).1.tried = (ask false).1.tried
  /-- The same driver is left. -/
  driver : (ask true).1.driver = (ask false).1.driver
  /-- The service is told the same, and the same is measured. -/
  notes : (ask true).1.notes = (ask false).1.notes
  /-- The manager is the same afterwards. -/
  manager : (ask true).2 = (ask false).2
  /-- With a valid local end the request of a caller that does not wait is taken on. -/
  granted : ∀ {bind}, bindEndpoint request.bindIp request.bindPort = .ok bind →
    (ask false).1.answer = .ok ()
  /-- With a valid local end a caller that waits is told what came of it. -/
  reply : ∀ {bind}, bindEndpoint request.bindIp request.bindPort = .ok bind →
    Reply resolution (attempt bind) request (ask true).1.answer (ask true).1.tried
  /-- So it is told of an error exactly if the host could not be resolved or no candidate could be
  connected to. -/
  failed : ∀ {bind}, bindEndpoint request.bindIp request.bindPort = .ok bind →
    ((ask true).1.answer ≠ .ok () ↔ (∃ e, resolution = .error e) ∨
      ∃ candidates, resolution = .ok candidates ∧ ¬Reachable (attempt bind) candidates)
  /-- Without a valid local end both are refused alike, and nothing is tried or told. -/
  refused : ∀ {e}, bindEndpoint request.bindIp request.bindPort = .error e → ∀ waits,
    (ask waits).1 = { answer := .error e }

namespace Agrees

variable {δ μ : Type} {attempt : Option Endpoint → Nat → Endpoint → Except SystemError α}
  {ask : Bool → Result δ × μ}

/-- A local end that is not valid is found out first. -/
lemma ofInvalid {e : NetworkError} (m : μ)
    (hbind : bindEndpoint request.bindIp request.bindPort = .error e)
    (hask : ∀ waits, ask waits = ({ answer := .error e }, m)) :
    Agrees resolution attempt request ask where
  tried := by rw [hask, hask]
  driver := by rw [hask, hask]
  notes := by rw [hask, hask]
  manager := by rw [hask, hask]
  granted hvalid := by simp [hbind] at hvalid
  reply hvalid := by simp [hbind] at hvalid
  failed hvalid := by simp [hbind] at hvalid
  refused hinvalid waits := by
    obtain rfl := Except.error.inj (hbind.symm.trans hinvalid)
    rw [hask]

/-- With a valid local end only the answers differ. -/
lemma ofValid {bind : Option Endpoint} {answer : Except NetworkError Unit} {tried : List Endpoint}
    {driver : Option δ} {notes : List Note} {m : μ}
    (hbind : bindEndpoint request.bindIp request.bindPort = .ok bind)
    (hask : ∀ waits, ask waits = (⟨if waits then answer else .ok (), tried, driver, notes⟩, m))
    (hreply : Reply resolution (attempt bind) request answer tried) :
    Agrees resolution attempt request ask where
  tried := by rw [hask, hask]
  driver := by rw [hask, hask]
  notes := by rw [hask, hask]
  manager := by rw [hask, hask]
  granted _ := by
    rw [hask]
    rfl
  reply hvalid := by
    obtain rfl := Except.ok.inj (hbind.symm.trans hvalid)
    rw [hask]
    exact hreply
  failed hvalid := by
    obtain rfl := Except.ok.inj (hbind.symm.trans hvalid)
    rw [hask]
    exact hreply.error_iff
  refused hinvalid := by simp [hbind] at hinvalid

end Agrees

end Connect

/-! ### Stream connections -/

namespace Tcp

/-- What a caller that waits for a stream connection is told. -/
lemma Engine.reply_attend (engine : Engine) (journey : Journey) (id : ConnectionId)
    (request : Connect.Request) (bind : Option Endpoint) :
    Connect.Reply (journey.resolver request.host request.service) (journey.attempt bind) request
      (engine.attend journey id request bind).1
      (engine.attend journey id request bind).2.1.tried := by
  unfold attend
  refine ⟨fun hresolution => ?_, fun hresolution hreachable => ?_, fun hresolution hreachable => ?_⟩
  · simp [hresolution]
  · obtain ⟨e, hsearch, hnone, hlast⟩ := Connect.exhausted_of_not_reachable hreachable
    simp only [hresolution, hsearch]
    exact ⟨trivial, e, rfl, hnone, hlast⟩
  · obtain ⟨i, endpoint, value, hi, hvalue, hsearch⟩ := Connect.connected_of_reachable hreachable
    simp only [hresolution, hsearch]
    cases journey.register <;> exact ⟨rfl, i, endpoint, value, hi, hvalue, rfl⟩

namespace Manager

/-- What a request for a stream connection comes to for a caller that waits or does not. -/
def ask (m : Manager) (journey : Journey) (id : ConnectionId) (request : Connect.Request)
    (waits : Bool) : Connect.Result TcpDriver × Manager :=
  let (outcome, m) := m.createConnection journey id { request with sync := waits }
  ({ answer := outcome.answer, tried := outcome.passage.tried, driver := outcome.passage.driver
     notes := outcome.notes }, m)

/-- A manager that is ready does the same for both callers, if a loop takes a connected socket
over. -/
lemma Ready.agrees {m : Manager} (h : m.Ready) {journey : Journey}
    (hregister : journey.register = .ok ()) (id : ConnectionId) (request : Connect.Request) :
    Connect.Agrees (journey.resolver request.host request.service) journey.attempt request
      (m.ask journey id request) := by
  obtain ⟨engine, hengine, hruns⟩ := h
  cases hbind : bindEndpoint request.bindIp request.bindPort with
  | error e =>
    refine .ofInvalid m hbind fun waits => ?_
    simp only [ask, Manager.createConnection, hengine, hbind]
  | ok bind =>
    -- what is left to a loop for a caller that waits is what is done for the other one
    have hsame : (engine.attend journey id request bind).2 =
        engine.connect journey id request bind := Engine.attend_eq_connect hregister
    have hreply := engine.reply_attend journey id request bind
    rw [hsame] at hreply
    have hask (waits : Bool) : m.ask journey id request waits =
        (⟨if waits then (engine.attend journey id request bind).1 else .ok (),
          (engine.connect journey id request bind).1.tried,
          (engine.connect journey id request bind).1.driver,
          (engine.connect journey id request bind).2⟩,
          { m with pool := (m.pool.next engine.loops).2 }) := by
      have hvalid : bindEndpoint ({ request with sync := waits } : Connect.Request).bindIp
          ({ request with sync := waits } : Connect.Request).bindPort = .ok bind := hbind
      rw [ask, createConnection_eq_of_ready hengine hruns journey id hvalid]
      cases waits with
      | false => rfl
      | true =>
        rw [← hsame]
        rfl
    exact .ofValid hbind hask hreply

end Manager

end Tcp

/-! ### Datagram connections -/

namespace Udp

/-- What a caller that waits for a datagram connection is told. -/
lemma Engine.reply_attend (engine : Engine) (journey : Journey) (id : ConnectionId)
    (request : Connect.Request) (bind : Option Endpoint) :
    Connect.Reply (journey.resolver request.host request.service) (journey.tryCandidate bind)
      request
      (engine.attend journey id request bind).1
      (engine.attend journey id request bind).2.1.tried := by
  unfold attend
  refine ⟨fun hresolution => ?_, fun hresolution hreachable => ?_, fun hresolution hreachable => ?_⟩
  · simp [hresolution]
  · obtain ⟨e, hsearch, hnone, hlast⟩ := Connect.exhausted_of_not_reachable hreachable
    simp only [hresolution, hsearch]
    exact ⟨trivial, e, rfl, hnone, hlast⟩
  · obtain ⟨i, endpoint, value, hi, hvalue, hsearch⟩ := Connect.connected_of_reachable hreachable
    simp only [hresolution, hsearch]
    cases journey.register <;> exact ⟨rfl, i, endpoint, value, hi, hvalue, rfl⟩

namespace Manager

/-- What a request for a datagram connection comes to for a caller that waits or does not. -/
def ask (m : Manager) (journey : Journey) (id : ConnectionId) (request : Connect.Request)
    (waits : Bool) : Connect.Result UdpDriver × Manager :=
  let (outcome, m) := m.createConnection journey id { request with sync := waits }
  ({ answer := outcome.answer, tried := outcome.passage.tried, driver := outcome.passage.driver
     notes := outcome.notes }, m)

/-- A manager that is ready does the same for both callers, if a loop takes a connected socket
over. -/
lemma Ready.agrees {m : Manager} (h : m.Ready) {journey : Journey}
    (hregister : journey.register = .ok ()) (id : ConnectionId) (request : Connect.Request) :
    Connect.Agrees (journey.resolver request.host request.service) journey.tryCandidate request
      (m.ask journey id request) := by
  obtain ⟨engine, hengine, hruns⟩ := h
  cases hbind : bindEndpoint request.bindIp request.bindPort with
  | error e =>
    refine .ofInvalid m hbind fun waits => ?_
    simp only [ask, Manager.createConnection, hengine, hbind]
  | ok bind =>
    have hsame : (engine.attend journey id request bind).2 =
        engine.connect journey id request bind := Engine.attend_eq_connect hregister
    have hreply := engine.reply_attend journey id request bind
    rw [hsame] at hreply
    have hask (waits : Bool) : m.ask journey id request waits =
        (⟨if waits then (engine.attend journey id request bind).1 else .ok (),
          (engine.connect journey id request bind).1.tried,
          (engine.connect journey id request bind).1.driver,
          (engine.connect journey id request bind).2⟩,
          { m with pool := (m.pool.next engine.loops).2 }) := by
      have hvalid : bindEndpoint ({ request with sync := waits } : Connect.Request).bindIp
          ({ request with sync := waits } : Connect.Request).bindPort = .ok bind := hbind
      rw [ask, createConnection_eq_of_ready hengine hruns journey id hvalid]
      cases waits with
      | false => rfl
      | true =>
        rw [← hsame]
        rfl
    exact .ofValid hbind hask hreply

end Manager

end Udp

/-! ### Waiting makes no difference -/

/-- A manager that was started is ready, and stays so from request to request.  If a loop takes a
connected socket over, such a manager does the same for a caller that waits and for one that does
not, whatever the resolver, the attempts, the handshake and the socket answer: it tries the same
endpoints in the same order, leaves the same driver, and tells and measures the same.  The answers
are those of `Connect.Agrees`: with a valid local end one caller has its request taken on, and the
other learns of an error exactly if the host could not be resolved or no candidate could be
connected to; with another local end both are refused alike, and nothing is tried or told. -/
theorem Connect.agrees_of_ready :
    (∀ {ω : Type} (m : Tcp.Manager) (system : Tcp.System ω) (config : TcpConfig) (w : ω),
        (m.init system config w).1 = .ok () → (m.init system config w).2.1.Ready) ∧
      (∀ {ω : Type} (m : Udp.Manager) (system : Udp.System ω) (config : UdpConfig) (w : ω),
        (m.init system config w).1 = .ok () → (m.init system config w).2.1.Ready) ∧
      (∀ (m : Tcp.Manager) (journey : Tcp.Journey) (id : ConnectionId) (request : Request),
        m.Ready → (m.createConnection journey id request).2.Ready ∧
          (journey.register = .ok () →
            Agrees (journey.resolver request.host request.service) journey.attempt request
              (m.ask journey id request))) ∧
      ∀ (m : Udp.Manager) (journey : Udp.Journey) (id : ConnectionId) (request : Request),
        m.Ready → (m.createConnection journey id request).2.Ready ∧
          (journey.register = .ok () →
            Agrees (journey.resolver request.host request.service) journey.tryCandidate request
              (m.ask journey id request)) := by
  refine ⟨?_, ?_, ?_, ?_⟩
  · intro ω m system config w hok
    exact m.ready_of_init system config w hok
  · intro ω m system config w hok
    exact m.ready_of_init system config w hok
  · intro m journey id request hready
    exact ⟨hready.createConnection journey id request,
      fun hregister => hready.agrees hregister id request⟩
  · intro m journey id request hready
    exact ⟨hready.createConnection journey id request,
      fun hregister => hready.agrees hregister id request⟩

/-- A started manager of streams connects to the second endpoint of a host, and one of datagrams
cannot resolve a host; only the caller that waits learns of that. -/
theorem Connect.agrees_of_ready_detour :
    let request : Request := { host := "here", service := "7001", identity := ⟨7⟩ }
    let streams := ({} : Tcp.Manager).init .bare { threadCount := 1 } ()
    let datagrams := ({} : Udp.Manager).init .bare { threadCount := 1 } ()
    streams.1 = .ok () ∧ datagrams.1 = .ok () ∧ Tcp.Journey.detour.register = .ok () ∧
      Udp.Journey.astray.register = .ok () ∧
      (streams.2.1.ask .detour ⟨1⟩ request true).1.notes =
        (streams.2.1.ask .detour ⟨1⟩ request false).1.notes ∧
      (streams.2.1.ask .detour ⟨1⟩ request true).1.answer = .ok () ∧
      (datagrams.2.1.ask .astray ⟨1⟩ request true).1.answer =
        .error (.resolve "here" "7001" (.os 2)) ∧
      (datagrams.2.1.ask .astray ⟨1⟩ request false).1.answer = .ok () := by
  intro request streams datagrams
  obtain ⟨hstreams, hdatagrams, htcp, hudp⟩ := Connect.agrees_of_ready
  have hstarted : streams.1 = .ok () := by decide +kernel
  have hstarted' : datagrams.1 = .ok () := by decide +kernel
  have hready := hstreams {} .bare { threadCount := 1 } () hstarted
  have hready' := hdatagrams {} .bare { threadCount := 1 } () hstarted'
  have hbind : bindEndpoint request.bindIp request.bindPort = .ok none := by decide +kernel
  have hagrees := (htcp streams.2.1 .detour ⟨1⟩ request hready).2 rfl
  have hagrees' := (hudp datagrams.2.1 .astray ⟨1⟩ request hready').2 rfl
  have hreachable : Reachable (Tcp.Journey.detour.attempt none)
      [⟨.v4 0x7f000001, 7001⟩, ⟨.v4 0x7f000001, 7002⟩] := ⟨1, _, (), rfl, rfl⟩
  exact ⟨hstarted, hstarted', rfl, rfl, hagrees.notes,
    ((hagrees.reply hbind).reached rfl hreachable).1, ((hagrees'.reply hbind).unresolved rfl).1,
    hagrees'.granted hbind⟩

/-- A caller that does not wait is refused as well if it asks for a local end that is none. -/
theorem Connect.refused_without_waiting :
    let request : Request := { host := "127.0.0.1", service := "80", bindIp := "nowhere" }
    let streams := ({} : Tcp.Manager).init .bare { threadCount := 1 } ()
    streams.1 = .ok () ∧ Tcp.Journey.detour.register = .ok () ∧
      (streams.2.1.createConnection .detour ⟨1⟩ { request with sync := false }).1.answer =
        .error (.config "invalid bind address 'nowhere'") := by
  decide +kernel

end Switchboard
