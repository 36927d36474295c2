import Mathlib.Data.List.Infix
import Switchboard.Proofs.Udp.Registry

/-!
# Handles of connections that are over

Whoever was given a connection may keep it for as long as they like, and an endpoint whose
connection is over may be given another one.  So a request, or a datagram in the queue, may be of a
connection that is over, and name an endpoint at which there is another one by then.

A connection that is over stays so (`Acceptor.Gone`), and every request and every datagram in the
queue names the id of its connection.  What is of a connection that is over is therefore told from
what is of the one that is registered, and is dropped.
-/

namespace Switchboard

/-- The connection that a request is about. -/
def AcceptorCommand.id? : AcceptorCommand → Option ConnectionId
  | send _ id _ | close _ id => some id
  | stop => none

namespace Acceptor

variable {a : Acceptor} {id : ConnectionId}

/-! ### What is over -/

/-- A connection that there was and that is over. -/
def Gone (a : Acceptor) (id : ConnectionId) : Prop :=
  ∃ c, a.connections.get? id = some c ∧ c.state = .closed

/-- A connection that is not registered for its endpoint any more is over. -/
lemma Sound.gone (h : a.Sound) {c : UdpConnection} (hc : a.connections.get? id = some c)
    (hstale : a.idOf? c.peer ≠ some id) : a.Gone id := by
  refine ⟨c, hc, ?_⟩
  by_contra hlive
  exact hstale (h.live hc hlive)

/-- A connection that is over is registered for no endpoint. -/
lemma Gone.unregistered (h : a.Sound) (g : a.Gone id) (peer : Endpoint) :
    a.idOf? peer ≠ some id := by
  intro hid
  obtain ⟨c, hc, -, hrunning⟩ := h.registered hid
  obtain ⟨c', hc', hclosed⟩ := g
  obtain rfl := Option.some.inj (hc.symm.trans hc')
  rw [hrunning] at hclosed
  cases hclosed

/-- A connection that is over has another id than a registered one. -/
lemma Gone.ne_of_registered (h : a.Sound) (g : a.Gone id) {peer : Endpoint} {p : Peer}
    (registered : a.peers.get? peer = some p) : p.id ≠ id := by
  intro he
  exact g.unregistered h peer (by simp [idOf?, registered, he])

/-- Nothing becomes of a connection but that it is closed. -/
lemma connection_step (h : a.Sound) {c : UdpConnection} (hc : a.connections.get? id = some c)
    (e : Event) : (a.step e).1.connections.get? id = some c ∨
      (a.step e).1.connections.get? id = some (c.withState .closed) := by
  have hretired (gone : ConnectionId) : (a.retired gone).get? id = some c ∨
      (a.retired gone).get? id = some (c.withState .closed) := by
    rw [get?_retired]
    split
    · exact .inr (by rw [hc]; rfl)
    · exact .inl hc
  have hclosing {a₀ : Acceptor} {peers : List Endpoint} {r : Noted Acceptor}
      (closing : Closing a₀ peers r) (hconnections : a₀.connections = a.connections) :
      r.1.connections.get? id = some c ∨ r.1.connections.get? id = some (c.withState .closed) := by
    cases closing with
    | next skipped peer rest p gone registered =>
      simpa [dismissed, retired, hconnections] using hretired p.id
    | finished peers gone => exact .inl (by rw [hconnections]; exact hc)
  have hmove := a.move_step e
  generalize a.step e = r at hmove
  cases hmove with
  | meet peer datagram =>
    have hold : id ≠ a.nextId := by
      rintro rfl
      exact Nat.lt_irrefl _ (h.named hc).2
    exact .inl (by simp only [met, Table.get?_put, if_neg hold, hc])
  | obey peer rest p => exact hretired p.id
  | lose source out p => exact hretired p.id
  | refuse peer p => exact hretired p.id
  | goOn keep rest r phase closing => exact (hclosing closing rfl :)
  | quit e mailbox r why first closing => exact (hclosing closing rfl :)
  | _ => exact .inl hc

/-- A connection that is over stays so. -/
lemma Gone.step (h : a.Sound) (g : a.Gone id) (e : Event) : (a.step e).1.Gone id := by
  obtain ⟨c, hc, hclosed⟩ := g
  rcases connection_step h hc e with hsame | hover
  · exact ⟨c, hsame, hclosed⟩
  · exact ⟨_, hover, rfl⟩

lemma Gone.run (h : a.Sound) (g : a.Gone id) (es : List Event) : (a.run es).1.Gone id := by
  induction es using List.reverseRecOn with
  | nil => exact g
  | append_singleton es e ih =>
    rw [run_concat]
    exact ih.step (sound_run h es) e

/-! ### What is of a connection that is over -/

/-- A request of a connection that is over is dropped. -/
lemma Gone.command (h : a.Sound) (g : a.Gone id) (waits : a.waits = true)
    {command : AcceptorCommand} {rest : List AcceptorCommand}
    (posted : a.mailbox.posted = command :: rest) (hid : command.id? = some id) :
    a.step .command = ({ a with mailbox := { a.mailbox with posted := rest } }, []) := by
  have hstep : a.step .command = a.takeCommand := by simp [Acceptor.step, waits]
  rw [hstep]
  simp only [takeCommand, Mailbox.take?, posted]
  cases command with
  | send peer id' data =>
    obtain rfl := Option.some.inj hid
    dsimp only
    unfold enqueue
    cases registered : a.peers.get? peer with
    | none => rfl
    | some p => simp only [if_neg (g.ne_of_registered h registered)]
  | close peer id' =>
    obtain rfl := Option.some.inj hid
    exact if_neg (g.unregistered h peer)
  | stop => cases hid

/-- A queued datagram of a connection that is over is sent, or is lost, and that is all. -/
lemma Gone.sendDone (h : a.Sound) {out : Outgoing} (g : a.Gone out.id) (waits : a.waits = true)
    (unasked : a.mailbox.posted = []) {rest : List Outgoing}
    (hentries : a.queue.entries = out :: rest) (outcome : Except SystemError Unit) :
    (a.step (.sendDone outcome)).1 = { a with queue := a.queue.pop } ∧
      Note.callbacks (a.step (.sendDone outcome)).2 = [] := by
  have hfront : a.queue.front? = some out := by simp [SendQueue.front?, hentries]
  have hstep : a.step (.sendDone outcome) = a.sent outcome := by
    simp [Acceptor.step, waits, unasked]
  rw [hstep]
  unfold sent
  simp only [hfront]
  cases outcome with
  | ok =>
    cases registered : a.peers.get? out.peer with
    | none => exact ⟨rfl, rfl⟩
    | some p =>
      have hother : p.id ≠ out.id := g.ne_of_registered h registered
      simp only [if_neg hother]
      exact ⟨trivial, rfl⟩
  | error source =>
    have hid : ({ a with queue := a.queue.pop } : Acceptor).idOf? out.peer ≠ some out.id :=
      g.unregistered h out.peer
    simp only [Noted.andThen, if_neg hid]
    exact ⟨trivial, rfl⟩

/-- The queued datagrams of a connection. -/
def queuedOf (a : Acceptor) (id : ConnectionId) : List Outgoing :=
  a.queue.entries.filter fun out => out.id = id

/-- No datagram of a connection that is over joins the queue. -/
lemma Gone.queued_step (h : a.Sound) (g : a.Gone id) (e : Event) :
    Note.data .queued id (a.step e).2 = [] ∧ (a.step e).1.queuedOf id <:+ a.queuedOf id := by
  have htail : (a.queue.pop.entries.filter fun out => out.id = id) <:+ a.queuedOf id :=
    (List.tail_suffix _).filter _
  have hclosing {a₀ : Acceptor} {peers : List Endpoint} {r : Noted Acceptor}
      (closing : Closing a₀ peers r) (hqueue : a₀.queue = a.queue) :
      Note.data .queued id r.2 = [] ∧ r.1.queuedOf id <:+ a.queuedOf id := by
    cases closing with
    | next => exact ⟨rfl, by simp [queuedOf, dismissed, hqueue]⟩
    | finished => exact ⟨rfl, List.nil_suffix⟩
  have hmove := a.move_step e
  generalize a.step e = r at hmove
  cases hmove with
  | enqueue peer data rest p waits posted registered =>
    have hother : p.id ≠ id := g.ne_of_registered h registered
    exact ⟨by simp [Note.data_cons, Note.datum?, hother], by simp [queuedOf, hother]⟩
  | sendLast | sendOne | sendStale | lose | loseStale => exact ⟨rfl, htail⟩
  | goOn keep rest r phase closing => exact (hclosing closing rfl :)
  | quit e mailbox r why first closing => exact (hclosing closing rfl :)
  | vanish e mailbox why again => simp [h.first why] at again
  | _ => exact ⟨rfl, List.suffix_refl _⟩

/-- The queued datagrams of a connection that is over only leave the queue. -/
lemma Gone.queued_run (h : a.Sound) (g : a.Gone id) (es : List Event) :
    Note.data .queued id (a.run es).2 = [] ∧ (a.run es).1.queuedOf id <:+ a.queuedOf id := by
  induction es using List.reverseRecOn with
  | nil => exact ⟨rfl, List.suffix_refl _⟩
  | append_singleton es e ih =>
    obtain ⟨hnone, hsuffix⟩ := ih
    obtain ⟨hnone', hsuffix'⟩ := (g.run h es).queued_step (sound_run h es) e
    rw [run_concat]
    exact ⟨by rw [Note.data_append, hnone, hnone', List.append_nil], hsuffix'.trans hsuffix⟩

/-! ### The whole of it -/

/-- **Nothing comes of a connection that is over.**  Once a connection is not registered for its
endpoint any more, whoever is registered there later, at each later moment

* it is registered for no endpoint;
* a request of it is taken out of the mailbox when it is taken up, and a queued datagram of it is
  taken out of the queue when it has been sent or could not be sent, and nothing else of the
  acceptor changes and nobody is called;
* no datagram of it has joined the queue since. -/
theorem nothing_of_stale_handles (host : Endpoint) (maxDatagram : Nat) (nextId : ConnectionId)
    (es fs : List Event) (id : ConnectionId) (c : UdpConnection) :
    let a := ((bind host maxDatagram nextId).run es).1
    let b := (a.run fs).1
    a.connections.get? id = some c → a.idOf? c.peer ≠ some id →
    (∀ peer, b.idOf? peer ≠ some id) ∧
    (∀ command rest, b.waits = true → b.mailbox.posted = command :: rest →
      command.id? = some id →
      b.step .command = ({ b with mailbox := { b.mailbox with posted := rest } }, [])) ∧
    (∀ out rest outcome, b.waits = true → b.mailbox.posted = [] →
      b.queue.entries = out :: rest → out.id = id →
      (b.step (.sendDone outcome)).1 = { b with queue := b.queue.pop } ∧
        Note.callbacks (b.step (.sendDone outcome)).2 = []) ∧
    Note.data .queued id (a.run fs).2 = [] ∧ b.queuedOf id <:+ a.queuedOf id := by
  intro a b hc hstale
  have ha : a.Sound := sound_run (sound_bind host maxDatagram nextId) es
  have hb : b.Sound := sound_run ha fs
  have hgone : a.Gone id := ha.gone hc hstale
  have hstill : b.Gone id := hgone.run ha fs
  refine ⟨hstill.unregistered hb, ?_, ?_, hgone.queued_run ha fs⟩
  · intro command rest waits posted hid
    exact hstill.command hb waits posted hid
  · rintro out rest outcome waits unasked hentries rfl
    exact hstill.sendDone hb waits unasked hentries outcome

/-- A connection is closed with a datagram in the queue. -/
def departure : List Event :=
  [.arrive ⟨.v4 0x7f000001, 5001⟩ [1], .returned true, .returned true,
    .request ⟨1⟩ (.chunk [7]), .command, .requestClose ⟨1⟩, .command, .returned true]

/-- The endpoint of it comes back, and whoever has the handle of the old connection asks for its end
before the new one is told of its first datagram. -/
def reappearance : List Event :=
  [.arrive ⟨.v4 0x7f000001, 5001⟩ [2], .requestClose ⟨1⟩, .returned true, .returned true]

/-- The new connection of the endpoint survives the request and a failure to send what was queued
for the old one. -/
theorem nothing_of_stale_handles_reappearance :
    let a := ((bind ⟨.v4 0x7f000001, 9000⟩ 100 .first).run departure).1
    let b := (a.run reappearance).1
    let d := (a.run (reappearance ++ [.command])).1
    b.mailbox.posted = [.close ⟨.v4 0x7f000001, 5001⟩ ⟨1⟩] ∧
      d.idOf? ⟨.v4 0x7f000001, 5001⟩ = some ⟨2⟩ ∧
      b.step .command = ({ b with mailbox := { b.mailbox with posted := [] } }, []) ∧
      (d.step (.sendDone (.error (.os 1)))).1 = { d with queue := d.queue.pop } := by
  intro a b d
  have hknown : (a.connections.get? ⟨1⟩).isSome = true := by decide +kernel
  have hpeers : a.peers = [] := by decide +kernel
  have hposted : b.mailbox.posted = [.close ⟨.v4 0x7f000001, 5001⟩ ⟨1⟩] := by decide +kernel
  have hwaits : b.waits = true ∧ d.waits = true ∧ d.mailbox.posted = [] := by decide +kernel
  have hid : d.idOf? ⟨.v4 0x7f000001, 5001⟩ = some ⟨2⟩ := by decide +kernel
  have hentries : d.queue.entries = [⟨⟨.v4 0x7f000001, 5001⟩, ⟨1⟩, [7]⟩] := by decide +kernel
  obtain ⟨c, hc⟩ := Option.isSome_iff_exists.mp hknown
  have hstale : a.idOf? c.peer ≠ some ⟨1⟩ := by simp [idOf?, hpeers]
  obtain ⟨-, hcommand, -⟩ := nothing_of_stale_handles ⟨.v4 0x7f000001, 9000⟩ 100 .first departure
    reappearance ⟨1⟩ c hc hstale
  obtain ⟨-, -, hsend, -⟩ := nothing_of_stale_handles ⟨.v4 0x7f000001, 9000⟩ 100 .first departure
    (reappearance ++ [.command]) ⟨1⟩ c hc hstale
  have hdropped := hcommand _ _ hwaits.1 hposted rfl
  have hlost := hsend _ _ (.error (.os 1)) hwaits.2.1 hwaits.2.2 hentries rfl
  exact ⟨hposted, hid, hdropped, hlost.1⟩

end Acceptor

end Switchboard
