import Switchboard.Proofs.Udp.Moves

/-!
# Who is registered with an acceptor

An acceptor keeps all connections it ever made, and for each endpoint the one that is live.  The two
tables, the phase and the state of the task are set in different places; `Acceptor.Sound` says how
they go together.  A connection is live exactly if it is registered for its endpoint, so an endpoint
has at most one, and the connection that the service is being told about is registered.

Moves come in three kinds here: those that leave the registered connections alone, the end of one,
and a new one.  That the tables agree is proved once for each kind (`Acceptor.Sound.ofSame`,
`Acceptor.Sound.dismiss`, `Acceptor.Sound.meet`).
-/

namespace Switchboard

/-- The endpoint whose connection the service is being told about. -/
def AcceptorPhase.peer? : AcceptorPhase → Option Endpoint
  | accepting peer _ | receiving peer | drained peer => some peer
  | _ => none

namespace Acceptor

variable {a a' : Acceptor}

/-- The parts of an acceptor agree with each other. -/
structure Sound (a : Acceptor) : Prop where
  /-- Connections go by their ids, which were given out. -/
  named : ∀ {id c}, a.connections.get? id = some c → c.id = id ∧ id.number < a.nextId.number
  /-- A registered connection runs and is one of its endpoint. -/
  registered : ∀ {peer id}, a.idOf? peer = some id →
    ∃ c, a.connections.get? id = some c ∧ c.peer = peer ∧ c.state = .running
  /-- A connection that is not closed is registered for its endpoint. -/
  live : ∀ {id c}, a.connections.get? id = some c → c.state ≠ .closed → a.idOf? c.peer = some id
  /-- The connection that the service is being told about is registered. -/
  serving : ∀ {peer}, a.phase.peer? = some peer → a.idOf? peer ≠ none
  /-- Only a task that ends or has ended was stopped. -/
  halted : a.stopped = true ↔ a.task ≠ .running
  /-- Only a running task calls the service for something else than an end. -/
  engaged : a.phase.peer? ≠ none ∨ (∃ fatal, a.phase = .reporting fatal) → a.task = .running

/-- A new acceptor knows nobody. -/
lemma sound_bind (host : Endpoint) (maxDatagram : Nat) (nextId : ConnectionId) :
    (bind host maxDatagram nextId).Sound where
  named h := by simp [bind] at h
  registered h := by simp [bind, idOf?] at h
  live h := by simp [bind] at h
  serving h := by simp [bind, AcceptorPhase.peer?] at h
  halted := by simp [bind]
  engaged _ := rfl

/-! ### The kinds of moves -/

/-- An endpoint whose peer is given another record with the same id has the same connection. -/
lemma map_id_put {peers : Table Endpoint Peer} {peer : Endpoint} {p p' : Peer}
    (registered : peers.get? peer = some p) (same : p'.id = p.id) (peer' : Endpoint) :
    ((peers.put peer p').get? peer').map Peer.id = (peers.get? peer').map Peer.id := by
  rw [Table.get?_put]
  split
  · rename_i he
    rw [he, registered]
    exact congrArg some same
  · rfl

/-- Moves may change everything but the connections and who is registered. -/
lemma Sound.ofSame (h : a.Sound) (hconnections : a'.connections = a.connections)
    (hnext : a'.nextId = a.nextId) (hids : ∀ peer, a'.idOf? peer = a.idOf? peer)
    (hserving : ∀ peer, a'.phase.peer? = some peer → a.idOf? peer ≠ none)
    (hhalted : a'.stopped = true ↔ a'.task ≠ .running)
    (hengaged : a'.phase.peer? ≠ none ∨ (∃ fatal, a'.phase = .reporting fatal) →
      a'.task = .running) : a'.Sound where
  named hc := by
    rw [hconnections] at hc
    rw [hnext]
    exact h.named hc
  registered hid := by
    rw [hids] at hid
    rw [hconnections]
    exact h.registered hid
  live hc hlive := by
    rw [hconnections] at hc
    rw [hids]
    exact h.live hc hlive
  serving hphase := by
    rw [hids]
    exact hserving _ hphase
  halted := hhalted
  engaged := hengaged

/-- A connection may be ended. -/
lemma Sound.dismiss (h : a.Sound) {peer : Endpoint} {p : Peer}
    (registered : a.peers.get? peer = some p) (following : Option (List Endpoint)) :
    (a.dismissed peer p following).Sound := by
  have hid : a.idOf? peer = some p.id := by simp [idOf?, registered]
  have hids (peer' : Endpoint) : (a.dismissed peer p following).idOf? peer' =
      if peer' = peer then none else a.idOf? peer' := by
    simp only [idOf?, dismissed, Table.get?_erase]
    split <;> rfl
  constructor
  case named =>
    intro id c hc
    rw [dismissed, get?_retired] at hc
    split at hc
    · obtain ⟨c', hc', rfl⟩ := Option.map_eq_some_iff.mp hc
      exact ⟨(h.named hc').1, (h.named hc').2⟩
    · exact h.named hc
  case registered =>
    intro peer' id hid'
    rw [hids] at hid'
    split at hid'
    · cases hid'
    · rename_i hne
      obtain ⟨c, hc, hpeer, hrunning⟩ := h.registered hid'
      refine ⟨c, ?_, hpeer, hrunning⟩
      rw [dismissed, get?_retired, if_neg, hc]
      -- one connection is not registered for two endpoints
      rintro rfl
      obtain ⟨c', hc', hpeer', -⟩ := h.registered hid
      obtain rfl := Option.some.inj (hc.symm.trans hc')
      exact hne (hpeer.symm.trans hpeer')
  case live =>
    intro id c hc hlive
    rw [dismissed, get?_retired] at hc
    split at hc
    · obtain ⟨c', -, rfl⟩ := Option.map_eq_some_iff.mp hc
      exact absurd rfl hlive
    · rename_i hne
      have hlisted := h.live hc hlive
      rw [hids, if_neg, hlisted]
      intro he
      rw [he, hid] at hlisted
      exact hne (Option.some.inj hlisted).symm
  case serving => intro peer' hphase; cases hphase
  case halted => exact h.halted
  case engaged =>
    rintro (hphase | ⟨fatal, hphase⟩) <;> simp [dismissed, AcceptorPhase.peer?] at hphase

/-- An unknown endpoint may be given a connection. -/
lemma Sound.meet (h : a.Sound) {peer : Endpoint} (unknown : a.peers.get? peer = none)
    (hrunning : a.task = .running) (datagram : Bytes) : (a.met peer datagram).Sound := by
  have hids (peer' : Endpoint) : (a.met peer datagram).idOf? peer' =
      if peer' = peer then some a.nextId else a.idOf? peer' := by
    simp only [idOf?, met, Table.get?_put]
    split <;> rfl
  have hunlisted : a.idOf? peer = none := by simp [idOf?, unknown]
  have hnew {id : ConnectionId} {c : UdpConnection} (hc : a.connections.get? id = some c) :
      id ≠ a.nextId := by
    rintro rfl
    exact Nat.lt_irrefl _ (h.named hc).2
  constructor
  case named =>
    intro id c hc
    simp only [met, Table.get?_put] at hc ⊢
    split at hc
    · rename_i he
      obtain rfl := Option.some.inj hc
      exact ⟨he.symm, by simp [he, ConnectionId.next]⟩
    · obtain ⟨hid, hlt⟩ := h.named hc
      exact ⟨hid, Nat.lt_succ_of_lt hlt⟩
  case registered =>
    intro peer' id hid
    rw [hids] at hid
    split at hid
    · rename_i he
      obtain rfl := Option.some.inj hid
      exact ⟨_, by rw [met, Table.get?_put, if_pos rfl], he.symm, rfl⟩
    · obtain ⟨c, hc, hpeer, hstate⟩ := h.registered hid
      refine ⟨c, ?_, hpeer, hstate⟩
      simp only [met, Table.get?_put, if_neg (hnew hc), hc]
  case live =>
    intro id c hc hlive
    simp only [met, Table.get?_put] at hc
    split at hc
    · rename_i he
      obtain rfl := Option.some.inj hc
      rw [hids, if_pos rfl, he]
    · have hlisted := h.live hc hlive
      rw [hids, if_neg, hlisted]
      intro he
      simp [he, hunlisted] at hlisted
  case serving =>
    intro peer' hphase
    obtain rfl := Option.some.inj hphase
    rw [hids, if_pos rfl]
    simp
  case halted => exact h.halted
  case engaged => exact fun _ => hrunning

/-- The connections of a task that ends may be ended. -/
lemma Sound.closing (h : a.Sound) {peers : List Endpoint} {r : Noted Acceptor}
    (closing : Closing a peers r) : r.1.Sound := by
  cases closing with
  | next skipped peer rest p gone registered => exact h.dismiss registered (some rest)
  | finished _ gone =>
    refine h.ofSame rfl rfl (fun _ => rfl) (fun _ hphase => by cases hphase) ?_ ?_
    · dsimp only
      split
      · rename_i hending
        rw [h.halted, hending]
        simp
      · exact h.halted
    · rintro (hphase | ⟨fatal, hphase⟩) <;> simp [AcceptorPhase.peer?] at hphase

/-- A task ends only once. -/
lemma Sound.first (h : a.Sound) {e : Event} {mailbox : Mailbox AcceptorCommand}
    (why : Quits a e mailbox) : a.stopped = false := by
  have hrunning : a.task = .running := by
    cases why with
    | asked rest waits posted => exact (idle_of_waits waits).2
    | dropped waits => exact (idle_of_waits waits).2
    | failed keep phase => exact h.engaged (.inr ⟨true, phase⟩)
  rw [Bool.eq_false_iff]
  intro hstopped
  exact h.halted.mp hstopped hrunning

/-! ### Steps and runs -/

/-- No step takes the parts of an acceptor apart. -/
theorem sound_step (h : a.Sound) (e : Event) : (a.step e).1.Sound := by
  -- neither the phase nor the task change
  have hcalm {a' : Acceptor} (hconnections : a'.connections = a.connections)
      (hnext : a'.nextId = a.nextId) (hids : ∀ peer, a'.idOf? peer = a.idOf? peer)
      (hphase : a'.phase = a.phase) (htask : a'.task = a.task) (hstopped : a'.stopped = a.stopped) :
      a'.Sound := by
    refine h.ofSame hconnections hnext hids (fun peer hpeer => h.serving (hphase ▸ hpeer)) ?_ ?_
    · rw [hstopped, htask]
      exact h.halted
    · rw [hphase, htask]
      exact h.engaged
  -- the service is told of nothing any more
  have hidle {a' : Acceptor} (hconnections : a'.connections = a.connections)
      (hnext : a'.nextId = a.nextId) (hids : ∀ peer, a'.idOf? peer = a.idOf? peer)
      (hphase : a'.phase = .idle) (hhalted : a'.stopped = true ↔ a'.task ≠ .running) :
      a'.Sound := by
    refine h.ofSame hconnections hnext hids (fun peer hpeer => ?_) hhalted ?_
    · simp [hphase, AcceptorPhase.peer?] at hpeer
    · rintro (hcall | ⟨fatal, hcall⟩) <;> simp [hphase, AcceptorPhase.peer?] at hcall
  have htell {peer : Endpoint} {p : Peer} (registered : a.peers.get? peer = some p)
      (hrunning : a.task = .running) (datagram : Bytes) : (a.told peer p datagram).Sound := by
    refine h.ofSame rfl rfl (map_id_put registered rfl) (fun peer' hpeer => ?_) h.halted
      fun _ => hrunning
    obtain rfl := Option.some.inj hpeer
    simp [idOf?, registered]
  have hmove := a.move_step e
  generalize a.step e = r at hmove
  cases hmove with
  | stay => exact h
  | post | postClose | postStop => exact hcalm rfl rfl (fun _ => rfl) rfl rfl rfl
  | ignoreSend | ignoreClose => exact hcalm rfl rfl (fun _ => rfl) rfl rfl rfl
  | sendStale | loseStale => exact hcalm rfl rfl (fun _ => rfl) rfl rfl rfl
  | enqueue peer data rest p waits posted registered =>
    exact hcalm rfl rfl (map_id_put registered rfl) rfl rfl rfl
  | sendOne out p waits unasked front registered =>
    exact hcalm rfl rfl (map_id_put registered rfl) rfl rfl rfl
  | remove e peer p datagram rest phase registered =>
    exact hcalm rfl rfl (map_id_put registered rfl) rfl rfl rfl
  | obey peer rest p waits posted registered =>
    have hrest : ({ a with mailbox := { a.mailbox with posted := rest } } : Acceptor).Sound :=
      hcalm rfl rfl (fun _ => rfl) rfl rfl rfl
    exact hrest.dismiss registered none
  | lose source out p waits unasked front registered =>
    have hrest : ({ a with queue := a.queue.pop } : Acceptor).Sound :=
      hcalm rfl rfl (fun _ => rfl) rfl rfl rfl
    exact hrest.dismiss registered none
  | tell peer datagram p waits unasked registered =>
    exact htell registered (idle_of_waits waits).2 _
  | welcome peer datagram p phase registered =>
    exact htell registered (h.engaged (.inl (by simp [phase, AcceptorPhase.peer?]))) _
  | meet peer datagram waits unasked unknown =>
    exact h.meet unknown (idle_of_waits waits).2 _
  | report e waits unasked =>
    exact h.ofSame rfl rfl (fun _ => rfl) (fun _ hphase => by cases hphase) h.halted
      fun _ => (idle_of_waits waits).2
  | sendLast out p waits unasked front registered =>
    refine h.ofSame rfl rfl (map_id_put registered rfl) (fun peer' hpeer => ?_) h.halted
      fun _ => (idle_of_waits waits).2
    obtain rfl := Option.some.inj hpeer
    simp [idOf?, registered]
  | refuse peer p phase registered => exact h.dismiss registered none
  | keep | part | recover => exact hidle rfl rfl (fun _ => rfl) rfl h.halted
  | goOn keep rest r phase closing =>
    have hrest : ({ a with phase := .idle } : Acceptor).Sound :=
      hidle rfl rfl (fun _ => rfl) rfl h.halted
    exact (hrest.closing closing :)
  | quit e mailbox r why first closing =>
    have hrest : ({ a with
        phase := .idle, mailbox, task := .ending, stopped := true
        socketOpen := false } : Acceptor).Sound :=
      hidle rfl rfl (fun _ => rfl) rfl (by simp)
    exact (hrest.closing closing :)
  | vanish e mailbox why again => simp [h.first why] at again

/-- A run is an iteration of steps. -/
lemma run_eq_iterate (a : Acceptor) (es : List Event) : a.run es = Noted.iterate step a es := by
  induction es generalizing a with
  | nil => rfl
  | cons e es ih => simp [run, Noted.iterate, Noted.andThen, ih]

/-- A run with one more event. -/
lemma run_concat (a : Acceptor) (es : List Event) (e : Event) :
    a.run (es ++ [e]) = (((a.run es).1.step e).1, (a.run es).2 ++ ((a.run es).1.step e).2) := by
  simp only [run_eq_iterate]
  exact Noted.iterate_concat step a es e

/-- A sound acceptor stays sound. -/
theorem sound_run (h : a.Sound) (es : List Event) : (a.run es).1.Sound := by
  induction es using List.reverseRecOn with
  | nil => exact h
  | append_singleton es e ih =>
    rw [run_concat]
    exact sound_step ih e

/-- Being registered and being live are the same. -/
lemma Sound.idOf?_eq_some_iff (h : a.Sound) {peer : Endpoint} {id : ConnectionId} :
    a.idOf? peer = some id ↔
      ∃ c, a.connections.get? id = some c ∧ c.peer = peer ∧ c.state ≠ .closed := by
  constructor
  · intro hid
    obtain ⟨c, hc, hpeer, hrunning⟩ := h.registered hid
    exact ⟨c, hc, hpeer, by simp [hrunning]⟩
  · rintro ⟨c, hc, rfl, hlive⟩
    exact h.live hc hlive

/-- Two endpoints do not share a connection. -/
lemma Sound.eq_of_idOf? (h : a.Sound) {peer peer' : Endpoint} {id : ConnectionId}
    (hid : a.idOf? peer = some id) (hid' : a.idOf? peer' = some id) : peer = peer' := by
  obtain ⟨c, hc, hpeer, -⟩ := h.registered hid
  obtain ⟨c', hc', hpeer', -⟩ := h.registered hid'
  obtain rfl := Option.some.inj (hc.symm.trans hc')
  exact hpeer.symm.trans hpeer'

end Acceptor

end Switchboard
