import Switchboard.Proofs.Udp.Active
import Switchboard.Proofs.Udp.Stale
import Switchboard.Proofs.Udp.Stopping

/-!
# The calls of datagram connections

Passive datagram connections share an acceptor, active ones have a driver each, and their services
are called in the same order: a connection is opened, its service is told of data any number of
times, and at last it is told once that the connection is over.

An acceptor makes at most one call in a step, of one connection (`Acceptor.Speaks`), so the calls
about each of its connections are told apart from the others by the id (`Acceptor.Attends`).  A
connection may be ended for its own sake (`Acceptor.Ends`) or because the acceptor stops
(`Acceptor.Winding`); what an acceptor and a driver owe to a service is `Acceptor.Serves` and
`UdpDriver.Serves`, and `Udp.announced_and_closed_once` is that they keep to it.
-/

namespace Switchboard

namespace Acceptor

variable {a : Acceptor} {id : ConnectionId}

/-! ### One step -/

/-- What the service is called for in a step, and what becomes of the connections. -/
inductive Speaks (a : Acceptor) : Noted Acceptor → Prop where
  /-- Nobody is called. -/
  | silent {r : Noted Acceptor} (same : r.1.connections = a.connections)
      (none : Note.callbacks r.2 = []) : Speaks a r
  /-- A new connection is announced. -/
  | opens {r : Noted Acceptor} (c : UdpConnection) (running : c.state = .running)
      (new : r.1.connections = a.connections.put a.nextId c)
      (one : Note.callbacks r.2 = [.accept a.nextId a.port]) : Speaks a r
  /-- The service of a registered connection is told of data. -/
  | tells {r : Noted Acceptor} {peer : Endpoint} {p : Peer} {call : Callback}
      (registered : a.peers.get? peer = some p) (told : call.tells p.id)
      (same : r.1.connections = a.connections) (one : Note.callbacks r.2 = [call]) : Speaks a r
  /-- A registered connection is ended. -/
  | ends {r : Noted Acceptor} {peer : Endpoint} {p : Peer}
      (registered : a.peers.get? peer = some p) (retired : r.1.connections = a.retired p.id)
      (one : Note.callbacks r.2 = [.close p.id .closed]) : Speaks a r
  /-- A failure is reported. -/
  | reports {r : Noted Acceptor} (e : SystemError) (same : r.1.connections = a.connections)
      (one : Note.callbacks r.2 = [.error "acceptor" "recv" e.code e.message]) : Speaks a r

/-- An acceptor makes at most one call in a step. -/
lemma speaks_step (h : a.Sound) (e : Event) : a.Speaks (a.step e) := by
  have hclosing {a₀ : Acceptor} {peers : List Endpoint} {r : Noted Acceptor}
      (closing : Closing a₀ peers r) (first : Note) (hfirst : Note.callbacks [first] = [])
      (hconnections : a₀.connections = a.connections) (hpeers : a₀.peers = a.peers) :
      a.Speaks (r.1, first :: r.2) := by
    have hcalls : Note.callbacks (first :: r.2) = Note.callbacks r.2 := by
      rw [← List.singleton_append, Note.callbacks_append, hfirst, List.nil_append]
    cases closing with
    | next skipped peer rest p gone registered =>
      rw [hpeers] at registered
      exact .ends registered (by simp [dismissed, retired, hconnections]) hcalls
    | finished peers gone => exact .silent hconnections hcalls
  have hmove := a.move_step e
  generalize a.step e = r at hmove
  cases hmove with
  | stay | post | postClose | postStop | enqueue | ignoreSend | ignoreClose | sendOne | sendStale
  | loseStale | keep | part | recover | remove => exact .silent rfl rfl
  | tell peer datagram p waits unasked registered => exact .tells registered (.inl rfl) rfl rfl
  | welcome peer datagram p phase registered => exact .tells registered (.inl rfl) rfl rfl
  | sendLast out p waits unasked front registered => exact .tells registered (.inr rfl) rfl rfl
  | meet peer datagram => exact .opens _ rfl rfl rfl
  | report e => exact .reports e rfl rfl
  | obey peer rest p waits posted registered => exact .ends registered rfl rfl
  | lose source out p waits unasked front registered => exact .ends registered rfl rfl
  | refuse peer p phase registered => exact .ends registered rfl rfl
  | goOn keep rest r phase closing => exact hclosing closing _ rfl rfl rfl
  | quit e mailbox r why first closing => exact hclosing closing _ rfl rfl rfl
  | vanish e mailbox why again => simp [h.first why] at again

/-- A connection whose end is announced is over. -/
lemma Speaks.gone (h : a.Sound) {r : Noted Acceptor} (speaks : a.Speaks r)
    {state : ConnectionState} (hclose : .close id state ∈ Note.callbacks r.2) :
    state = .closed ∧ r.1.Gone id := by
  cases speaks with
  | silent same none => simp [none] at hclose
  | opens c running new one => simp [one] at hclose
  | tells registered told same one =>
    rcases told with rfl | rfl <;> simp [one] at hclose
  | reports e same one => simp [one] at hclose
  | @ends peer p registered retired one =>
    have hcall : id = p.id ∧ state = .closed := by simpa [one] using hclose
    obtain ⟨rfl, rfl⟩ := hcall
    have hid : a.idOf? peer = some p.id := by simp [idOf?, registered]
    obtain ⟨c, hc, -, -⟩ := h.registered hid
    refine ⟨rfl, c.withState .closed, ?_, rfl⟩
    rw [retired, get?_retired, if_pos rfl, hc]
    rfl

/-! ### The calls about one connection -/

/-- The calls about a connection over a history. -/
def callsOf (id : ConnectionId) (history : List Note) : List Callback :=
  Note.callbacks (Note.own id history)

lemma callsOf_silent (id : ConnectionId) (history : List Note) {notes : List Note}
    (hnone : Note.callbacks notes = []) : callsOf id (history ++ notes) = callsOf id history := by
  rw [callsOf, Note.callbacks_own, Note.callbacks_append, hnone, List.append_nil, callsOf,
    Note.callbacks_own]

lemma callsOf_one (id : ConnectionId) (history : List Note) {notes : List Note} {call : Callback}
    (hone : Note.callbacks notes = [call]) : callsOf id (history ++ notes) =
      callsOf id history ++ if call.connection? = some id then [call] else [] := by
  rw [callsOf, Note.callbacks_own, Note.callbacks_append, hone, List.filter_append, callsOf,
    Note.callbacks_own]
  by_cases hid : call.connection? = some id <;> simp [hid]

/-- The services of the connections of an acceptor were called in order. -/
structure Attends (a : Acceptor) (history : List Note) : Prop where
  /-- The life of a connection goes on until it is closed. -/
  lives : ∀ {id c}, a.connections.get? id = some c →
    Callback.Life (.accept id a.port) id (decide (c.state = .closed)) (callsOf id history)
  /-- There is no call about a connection that there is not. -/
  unknown : ∀ {id}, a.connections.get? id = none → callsOf id history = []

/-- The local end of an acceptor stays the same. -/
lemma host_step (a : Acceptor) (e : Event) : (a.step e).1.host = a.host := by
  have hclosing {a₀ : Acceptor} {peers : List Endpoint} {r : Noted Acceptor}
      (closing : Closing a₀ peers r) : r.1.host = a₀.host := by
    cases closing <;> rfl
  have hmove := a.move_step e
  generalize a.step e = r at hmove
  cases hmove with
  | goOn keep rest r phase closing => exact (hclosing closing :)
  | quit e mailbox r why first closing => exact (hclosing closing :)
  | _ => rfl

lemma host_run (a : Acceptor) (es : List Event) : (a.run es).1.host = a.host := by
  induction es using List.reverseRecOn with
  | nil => rfl
  | append_singleton es e ih => rw [run_concat, host_step, ih]

/-- The calls go on in order if at most one is made, of a connection that is not over. -/
lemma Attends.go_on {a' : Acceptor} {history notes : List Note} (k : a.Attends history)
    (hport : a'.port = a.port) {i : ConnectionId}
    (hothers : ∀ {id}, id ≠ i → a'.connections.get? id = a.connections.get? id ∧
      callsOf id (history ++ notes) = callsOf id history)
    (hone : ∃ c, a'.connections.get? i = some c ∧
      Callback.Life (.accept i a.port) i (decide (c.state = .closed))
        (callsOf i (history ++ notes))) : a'.Attends (history ++ notes) where
  lives {id c} hc := by
    rw [hport]
    by_cases hid : id = i
    · obtain ⟨c', hc', life⟩ := hone
      subst hid
      obtain rfl := Option.some.inj (hc.symm.trans hc')
      exact life
    · obtain ⟨hsame, hcalls⟩ := hothers hid
      rw [hcalls]
      exact k.lives (hsame ▸ hc)
  unknown {id} hnone := by
    by_cases hid : id = i
    · obtain ⟨c', hc', -⟩ := hone
      rw [hid, hc'] at hnone
      cases hnone
    · obtain ⟨hsame, hcalls⟩ := hothers hid
      rw [hcalls]
      exact k.unknown (hsame ▸ hnone)

/-- The calls stay in order if none is made of any connection. -/
lemma Attends.silent {a' : Acceptor} {history notes : List Note} (k : a.Attends history)
    (hport : a'.port = a.port) (hsame : a'.connections = a.connections)
    (hcalls : ∀ id, callsOf id (history ++ notes) = callsOf id history) :
    a'.Attends (history ++ notes) where
  lives {id c} hc := by
    rw [hport, hcalls]
    exact k.lives (hsame ▸ hc)
  unknown {id} hnone := by
    rw [hcalls]
    exact k.unknown (hsame ▸ hnone)

/-- Each step goes on with the calls in order. -/
lemma Attends.step (h : a.Sound) {history : List Note} (k : a.Attends history) (e : Event) :
    (a.step e).1.Attends (history ++ (a.step e).2) := by
  have hport : (a.step e).1.port = a.port := congrArg Endpoint.port (a.host_step e)
  have hspeaks := speaks_step h e
  generalize a.step e = r at hspeaks hport
  -- a registered connection runs, so its life goes on
  have hrunning {peer : Endpoint} {p : Peer} (registered : a.peers.get? peer = some p) :
      ∃ c, a.connections.get? p.id = some c ∧ c.state = .running ∧
        Callback.Life (.accept p.id a.port) p.id false (callsOf p.id history) := by
    have hid : a.idOf? peer = some p.id := by simp [idOf?, registered]
    obtain ⟨c, hc, -, hstate⟩ := h.registered hid
    have life := k.lives hc
    rw [hstate] at life
    exact ⟨c, hc, hstate, life⟩
  cases hspeaks with
  | silent same none => exact k.silent hport same fun id => callsOf_silent id history none
  | reports e same one =>
    refine k.silent hport same fun id => ?_
    rw [callsOf_one id history one]
    simp [Callback.connection?]
  | opens c running new one =>
    have hnew : a.connections.get? a.nextId = none := by
      by_contra hsome
      obtain ⟨c', hc'⟩ := Option.ne_none_iff_exists'.mp hsome
      exact Nat.lt_irrefl _ (h.named hc').2
    refine k.go_on hport (i := a.nextId) (fun {id} hid => ⟨?_, ?_⟩) ⟨c, ?_, ?_⟩
    · rw [new, Table.get?_put, if_neg hid]
    · rw [callsOf_one id history one, if_neg (by simpa [Callback.connection?] using Ne.symm hid),
        List.append_nil]
    · rw [new, Table.get?_put, if_pos rfl]
    · have howner : (Callback.accept a.nextId a.port).connection? = some a.nextId := rfl
      rw [callsOf_one _ history one, if_pos howner, k.unknown hnew, running]
      exact .start
  | @tells peer p call registered told same one =>
    obtain ⟨c, hc, hstate, life⟩ := hrunning registered
    have howner : call.connection? = some p.id := by rcases told with rfl | rfl <;> rfl
    refine k.go_on hport (i := p.id) (fun {id} hid => ⟨by rw [same], ?_⟩) ⟨c, by rw [same, hc], ?_⟩
    · rw [callsOf_one id history one, if_neg (by simpa [howner] using Ne.symm hid),
        List.append_nil]
    · rw [callsOf_one _ history one, if_pos howner, hstate]
      exact life.tell told
  | @ends peer p registered retired one =>
    obtain ⟨c, hc, -, life⟩ := hrunning registered
    refine k.go_on hport (i := p.id) (fun {id} hid => ⟨?_, ?_⟩) ⟨c.withState .closed, ?_, ?_⟩
    · rw [retired, get?_retired, if_neg hid]
    · rw [callsOf_one id history one, if_neg (by simpa [Callback.connection?] using Ne.symm hid),
        List.append_nil]
    · rw [retired, get?_retired, if_pos rfl, hc]
      rfl
    · have howner : (Callback.close p.id .closed).connection? = some p.id := rfl
      rw [callsOf_one _ history one, if_pos howner]
      exact life.stop

/-- The calls of a new acceptor are in order at every moment. -/
theorem attends_run (host : Endpoint) (maxDatagram : Nat) (nextId : ConnectionId)
    (es : List Event) :
    ((bind host maxDatagram nextId).run es).1.Attends
      ((bind host maxDatagram nextId).run es).2 := by
  induction es using List.reverseRecOn with
  | nil => exact ⟨fun hc => by simp [run, bind] at hc, fun _ => rfl⟩
  | append_singleton es e ih =>
    rw [run_concat]
    exact ih.step (sound_run (sound_bind host maxDatagram nextId) es) e

/-! ### Ends -/

/-- Why a single connection is ended. -/
inductive Ends (a : Acceptor) (id : ConnectionId) : Event → Prop where
  /-- The service does not want it, or does not want to go on with it. -/
  | refused (peer : Endpoint) (phase : a.phase.peer? = some peer)
      (registered : a.idOf? peer = some id) : Ends a id (.returned false)
  /-- It was asked to close. -/
  | asked (peer : Endpoint) (rest : List AcceptorCommand) (waits : a.waits = true)
      (posted : a.mailbox.posted = .close peer id :: rest)
      (registered : a.idOf? peer = some id) : Ends a id .command
  /-- A datagram of it could not be sent. -/
  | lost (source : SystemError) (out : Outgoing) (waits : a.waits = true)
      (unasked : a.mailbox.posted = []) (front : a.queue.front? = some out) (same : out.id = id)
      (registered : a.idOf? out.peer = some id) : Ends a id (.sendDone (.error source))

/-- The end of a registered connection is announced. -/
lemma callbacks_remove {peer : Endpoint} (registered : a.idOf? peer = some id)
    (following : Option (List Endpoint)) :
    Note.callbacks (a.remove peer following).2 = [.close id .closed] := by
  obtain ⟨p, hp, rfl⟩ := Option.map_eq_some_iff.mp registered
  rw [remove_of_registered hp]
  rfl

/-- When a connection is ended for its own sake its service is told so at once, and nobody else is
told anything. -/
lemma Ends.callbacks {e : Event} (why : a.Ends id e) :
    Note.callbacks (a.step e).2 = [.close id .closed] := by
  cases why with
  | refused peer phase registered =>
    have hstep : a.step (.returned false) = a.remove peer none := by
      cases hphase : a.phase <;> simp_all [step, returned, AcceptorPhase.peer?]
    rw [hstep]
    exact callbacks_remove registered none
  | asked peer rest waits posted registered =>
    have hstep : a.step .command =
        ({ a with mailbox := { a.mailbox with posted := rest } } : Acceptor).remove peer none := by
      simp only [step, waits, if_true, takeCommand, Mailbox.take?, posted]
      exact if_pos registered
    rw [hstep]
    exact callbacks_remove (a := { a with mailbox := { a.mailbox with posted := rest } })
      registered none
  | lost source out waits unasked front same registered =>
    have hstep : a.step (.sendDone (.error source)) =
        Noted.andThen ({ a with queue := a.queue.pop }, [.lost out.id out.data])
          fun a => a.remove out.peer none := by
      simp only [step, waits, unasked, List.isEmpty_nil, Bool.and_self, if_true, sent, front,
        Noted.andThen]
      rw [if_pos (same ▸ registered)]
    rw [hstep]
    exact callbacks_remove (a := { a with queue := a.queue.pop }) registered none

/-- Nothing can be sent on behalf of a connection that is over. -/
lemma Gone.request (g : a.Gone id) {data : Bytes} (hdata : data ≠ []) :
    a.request id (.ofChunk data) = (false, a, []) := by
  obtain ⟨c, hc, hclosed⟩ := g
  simp [Acceptor.request, connection?, hc, SendRequest.ofChunk, hdata, UdpConnection.screen,
    UdpConnection.isRunning, hclosed]

/-! ### Failures that leave the socket usable -/

/-- A failure was reported, and no connection has changed. -/
structure Spared (a : Acceptor) (e : SystemError) (s : Noted Acceptor) : Prop where
  /-- The report is the only call. -/
  calls : Note.callbacks s.2 = [.error "acceptor" "recv" e.code e.message]
  /-- All connections are as they were. -/
  connections : s.1.connections = a.connections
  /-- The same connections are registered. -/
  registered : ∀ peer, s.1.idOf? peer = a.idOf? peer

/-- A failure that tells of an earlier datagram is reported, and the acceptor waits for the answer
whatever else happens. -/
lemma spared_run (waits : a.waits = true) (unasked : a.mailbox.posted = []) {e : SystemError}
    (hfault : isPeerFault e = true) (gs : List Event) (hgs : answers gs = []) :
    a.Spared e (a.run (.receiveFailed e :: gs)) ∧
      (a.run (.receiveFailed e :: gs)).1.phase = .reporting false := by
  induction gs using List.reverseRecOn with
  | nil =>
    have hrun : a.run [.receiveFailed e] = ({ a with phase := .reporting false },
        [.callback (.error "acceptor" "recv" e.code e.message)]) := by
      simp [run, step, waits, unasked, hfault, Noted.andThen]
    rw [hrun]
    exact ⟨⟨rfl, rfl, fun _ => rfl⟩, rfl⟩
  | append_singleton gs g ih =>
    have hnone : answers gs = [] ∧ g.answer? = none := by
      simpa [answers, List.filterMap_append] using hgs
    obtain ⟨k, hphase⟩ := ih hnone.1
    have hbusy : (a.run (.receiveFailed e :: gs)).1.phase ≠ .idle := by simp [hphase]
    obtain ⟨hphase', hconnections, hcalls, -, hids, -⟩ := step_of_busy hbusy hnone.2
    rw [← List.cons_append, run_concat]
    refine ⟨⟨?_, hconnections.trans k.connections,
      fun peer => (hids peer).trans (k.registered peer)⟩, hphase'.trans hphase⟩
    rw [Note.callbacks_append, hcalls, List.append_nil, k.calls]

/-- When the service has answered the acceptor goes on. -/
lemma spared_answered (waits : a.waits = true) (unasked : a.mailbox.posted = []) {e : SystemError}
    (hfault : isPeerFault e = true) (gs : List Event) (hgs : answers gs = []) (keep : Bool) :
    a.Spared e (a.run (.receiveFailed e :: gs ++ [.returned keep])) ∧
      (a.run (.receiveFailed e :: gs ++ [.returned keep])).1.phase = .idle := by
  obtain ⟨k, hphase⟩ := spared_run waits unasked hfault gs hgs
  have hstep : (a.run (.receiveFailed e :: gs)).1.step (.returned keep) =
      ({ (a.run (.receiveFailed e :: gs)).1 with phase := .idle }, []) := by
    simp [step, returned, hphase]
  rw [run_concat, hstep]
  exact ⟨⟨by rw [List.append_nil, k.calls], k.connections, k.registered⟩, rfl⟩

/-! ### What an acceptor owes to a service -/

/-- What a service can rely on at a moment of the life of an acceptor, and from there on. -/
structure Serves (port : Port) (s : Noted Acceptor) : Prop where
  /-- A connection was announced, then its service was told of data, and at last once of the end if
  it is over. -/
  lives : ∀ {id c}, s.1.connections.get? id = some c →
    Callback.Life (.accept id port) id (decide (c.state = .closed)) (callsOf id s.2)
  /-- Nobody is told of a connection that there is not. -/
  unknown : ∀ {id}, s.1.connections.get? id = none → callsOf id s.2 = []
  /-- When the service is told of the end of a connection it is over, and nothing can be sent from
  then on. -/
  closes : ∀ {e id state}, .close id state ∈ Note.callbacks (s.1.step e).2 →
    state = .closed ∧ ∀ fs, ((s.1.step e).1.run fs).1.Gone id ∧ ∀ data, data ≠ [] →
      ((s.1.step e).1.run fs).1.request id (.ofChunk data) =
        (false, ((s.1.step e).1.run fs).1, [])
  /-- Why ever a single connection is ended, its service is told so there and then. -/
  ends : ∀ {e id}, s.1.Ends id e → Note.callbacks (s.1.step e).2 = [.close id .closed]
  /-- Why ever the acceptor stops, it releases its socket first and then ends all that are
  registered, one after the other; when the service has answered the last call nothing is left. -/
  stops : ∀ {e mailbox}, s.1.Quits e mailbox → ∀ gs,
    Winding s.1.peers (answers gs).length (s.1.run (e :: gs)) ∧
      (s.1.peers.length ≤ (answers gs).length →
        Note.callbacks (s.1.run (e :: gs)).2 = lastCalls s.1.peers ∧
          (s.1.run (e :: gs)).1.peers = [] ∧ (s.1.run (e :: gs)).1.queue.entries = [] ∧
          (s.1.run (e :: gs)).1.task = .ended)
  /-- When the task has ended all connections are over. -/
  ended : s.1.task = .ended → ∀ {id c}, s.1.connections.get? id = some c → c.state = .closed
  /-- A failed receive that tells of an earlier datagram is reported once and ends no connection. -/
  spares : s.1.waits = true → s.1.mailbox.posted = [] → ∀ {e}, isPeerFault e = true →
    ∀ gs, answers gs = [] → ∀ keep,
      s.1.Spared e (s.1.run (.receiveFailed e :: gs ++ [.returned keep])) ∧
        (s.1.run (.receiveFailed e :: gs ++ [.returned keep])).1.phase = .idle

/-- An acceptor serves at every moment of each of its runs. -/
theorem serves_run (host : Endpoint) (maxDatagram : Nat) (nextId : ConnectionId)
    (es : List Event) : Serves host.port ((bind host maxDatagram nextId).run es) := by
  have hsound := sound_run (sound_bind host maxDatagram nextId) es
  have horderly := orderly_run (sound_bind host maxDatagram nextId)
    (orderly_bind host maxDatagram nextId) es
  have hattends := attends_run host maxDatagram nextId es
  have hport : ((bind host maxDatagram nextId).run es).1.port = host.port :=
    congrArg Endpoint.port (host_run (bind host maxDatagram nextId) es)
  generalize (bind host maxDatagram nextId).run es = s at hsound horderly hattends hport
  constructor
  case lives => exact fun hc => hport ▸ hattends.lives hc
  case unknown => exact hattends.unknown
  case closes =>
    intro e id state hclose
    obtain ⟨hstate, hgone⟩ := (speaks_step hsound e).gone hsound hclose
    refine ⟨hstate, fun fs => ?_⟩
    have hstill := hgone.run (sound_step hsound e) fs
    exact ⟨hstill, fun data hdata => hstill.request hdata⟩
  case ends => exact fun why => why.callbacks
  case stops =>
    intro e mailbox why gs
    have hwinding := winding_run hsound horderly why gs
    exact ⟨hwinding, hwinding.finished (orderly_run hsound horderly _)⟩
  case ended =>
    intro hended id c hc
    by_contra hlive
    have hid := hsound.live hc hlive
    rw [idOf?, (horderly.ended hended).2.1] at hid
    cases hid
  case spares =>
    intro waits unasked e hfault gs hgs keep
    exact spared_answered waits unasked hfault gs hgs keep

end Acceptor

namespace UdpDriver

/-- What a service can rely on at a moment of the life of the driver of an active connection, and
from there on. -/
structure Serves (c : UdpConnection) (s : Noted UdpDriver) : Prop where
  /-- The connection was announced, then its service was told of data, and at last once of the end
  if it is over. -/
  life : Callback.Life (.connect (some c.id) c.identity) c.id
    (decide (s.1.connection.state = .closed)) (Note.callbacks s.2)
  /-- When the service is told of the end the connection is over, and nothing can be sent from then
  on. -/
  closes : ∀ {e id state}, .close id state ∈ Note.callbacks (s.1.step e).2 →
    id = c.id ∧ state = .closed ∧ ∀ fs,
      ((s.1.step e).1.run fs).1.connection.state = .closed ∧ ∀ data, data ≠ [] →
        ((s.1.step e).1.run fs).1.request (.ofChunk data) =
          (false, ((s.1.step e).1.run fs).1, [])
  /-- Why ever the driver ends, its service is told so there and then. -/
  ends : ∀ {e d'}, s.1.Ends e d' → Note.callbacks (s.1.step e).2 = [.close c.id .closed]

/-- A driver serves at every moment from its start on. -/
theorem serves_run (c : UdpConnection) (maxDatagram : Nat) (before after : List Event)
    (hbefore : ∀ e ∈ before, e ≠ .start ∧ e ≠ .abort) :
    Serves c ((ofConnection c maxDatagram).run (before ++ .start :: after)) := by
  obtain ⟨hcoherent, hid, hlife⟩ := life_ofConnection c maxDatagram before after hbefore
  generalize (ofConnection c maxDatagram).run (before ++ .start :: after) = s at *
  constructor
  case life =>
    have hover : decide (s.1.connection.state = .closed) = s.1.phase.isOver := by
      rw [hcoherent.state]
      cases s.1.phase.isOver <;> rfl
    rw [hover]
    exact hlife
  case closes =>
    intro e id state hclose
    rw [← hid]
    obtain ⟨hsame, hstate, hover⟩ := over_of_close hcoherent.started hclose
    refine ⟨hsame, hstate, fun fs => ?_⟩
    have hstill := isOver_run (hcoherent.step e) hover fs
    have hco := (hcoherent.step e).run fs
    exact ⟨by rw [hco.state, if_pos hstill], fun data hdata => request_of_isOver hco hstill hdata⟩
  case ends =>
    intro e d' why
    rw [← hid]
    exact why.callbacks.1

end UdpDriver

/-! ### The whole of it -/

/-- **The service of a datagram connection is told of it in order, and of its end once.**  At each
moment of the life of an acceptor, and of the driver of an active connection from its start on:

* the calls about a connection are its announcement, then any number of calls about received and
  sent data, and one last call exactly if it is closed, and no connection that there is not is
  called about;
* when the service is told of the end of a connection it is closed, it stays so, and nothing can be
  sent on its behalf from then on;
* a connection that the service declines, that is asked to close, that a datagram cannot be sent
  for, and an active one that nothing can be received for any more or that its loop drops, ends
  there and then; an acceptor that is asked to stop, that is dropped or whose socket fails releases
  the socket first and then ends each registered connection once, until none is left and nothing is
  queued;
* a failed receive of an acceptor that only tells of an earlier datagram is reported once and ends
  no connection. -/
theorem Udp.announced_and_closed_once (host : Endpoint) (maxDatagram : Nat) (nextId : ConnectionId)
    (es : List Acceptor.Event) (c : UdpConnection) (before after : List UdpDriver.Event)
    (hbefore : ∀ e ∈ before, e ≠ .start ∧ e ≠ .abort) :
    Acceptor.Serves host.port ((Acceptor.bind host maxDatagram nextId).run es) ∧
      UdpDriver.Serves c
        ((UdpDriver.ofConnection c maxDatagram).run (before ++ .start :: after)) :=
  ⟨Acceptor.serves_run host maxDatagram nextId es,
    UdpDriver.serves_run c maxDatagram before after hbefore⟩

/-- Two endpoints send a datagram each, and both are welcome. -/
def Acceptor.visitors : List Acceptor.Event :=
  [.arrive ⟨.v4 0x7f000001, 5001⟩ [1], .returned true, .returned true,
    .arrive ⟨.v4 0x7f000001, 5002⟩ [2], .returned true, .returned true]

/-- An acceptor with two connections goes on after a failure that tells of an earlier datagram, and
ends both connections when it is dropped; so does the driver of an active one with its own. -/
theorem Udp.announced_and_closed_once_visitors :
    let s := (Acceptor.bind ⟨.v4 0x7f000001, 9000⟩ 100 .first).run Acceptor.visitors
    let c : UdpConnection :=
      { id := ⟨3⟩, direction := .active, identity := .anonymous
        host := ⟨.v4 0x7f000001, 6000⟩, peer := ⟨.v4 0x7f000001, 5003⟩ }
    let d := (UdpDriver.ofConnection c 100).run
      ([.request (.chunk [7])] ++ .start :: [.returned true, .command])
    (∀ e ∈ [UdpDriver.Event.request (.chunk [7])], e ≠ .start ∧ e ≠ .abort) ∧
      s.1.Spared (.os 111) (s.1.run [.receiveFailed (.os 111), .returned true]) ∧
      Note.callbacks (s.1.run [.abort, .returned true, .returned true]).2 =
        [.close ⟨1⟩ .closed, .close ⟨2⟩ .closed] ∧
      (s.1.run [.abort, .returned true, .returned true]).1.task = .ended ∧
      Note.callbacks (d.1.step .abort).2 = [.close ⟨3⟩ .closed] := by
  intro s c d
  have hbefore : ∀ e ∈ [UdpDriver.Event.request (.chunk [7])], e ≠ .start ∧ e ≠ .abort := by simp
  have hwaits : s.1.waits = true := by decide +kernel
  have hposted : s.1.mailbox.posted = [] := by decide +kernel
  have hlast : Acceptor.lastCalls s.1.peers = [.close ⟨1⟩ .closed, .close ⟨2⟩ .closed] := by
    decide +kernel
  have hcount : s.1.peers.length ≤ 2 := by decide +kernel
  have hphase : d.1.phase = .waiting := by decide +kernel
  obtain ⟨hserves, hserves'⟩ := Udp.announced_and_closed_once ⟨.v4 0x7f000001, 9000⟩ 100 .first
    Acceptor.visitors c [.request (.chunk [7])] [.returned true, .command] hbefore
  have hspared := hserves.spares hwaits hposted (e := .os 111) (by decide +kernel) [] rfl true
  obtain ⟨hcalls, -, -, hended⟩ :=
    (hserves.stops (.dropped hwaits) [.returned true, .returned true]).2 hcount
  exact ⟨hbefore, hspared.1, hcalls.trans hlast, hended, hserves'.ends (.dropped hphase)⟩

end Switchboard
