import Switchboard.Proofs.Udp.Stopping

/-!
# Counting what is queued

All connections of an acceptor send through one queue, and each counts its own datagrams there.  The
counts are changed one at a time, when a datagram joins the queue and when it is sent; connections
come and go meanwhile, and what they queued stays behind them.  `Acceptor.Counted` says that the
counts are right all the same.

So the service is told that everything is sent exactly when it is: `Acceptor.drained?` says this
without the counts, by a look at what is left in the queue.
-/

namespace Switchboard

/-- The connection that a call tells is done with sending. -/
def Callback.sent? : Callback → Option ConnectionId
  | sent id => some id
  | _ => none

/-- The connections that are told to be done with sending, in order. -/
def Note.sentCalls (history : List Note) : List ConnectionId :=
  (callbacks history).filterMap Callback.sent?

@[simp] lemma Note.sentCalls_nil : sentCalls [] = [] := rfl

@[simp] lemma Note.sentCalls_append (h k : List Note) :
    sentCalls (h ++ k) = sentCalls h ++ sentCalls k := by
  simp [sentCalls]

/-- How many of some datagrams are sent for a connection of an endpoint. -/
def countFor (entries : List Outgoing) (peer : Endpoint) (id : ConnectionId) : Nat :=
  entries.countP fun out => out.peer = peer ∧ out.id = id

@[simp] lemma countFor_nil (peer : Endpoint) (id : ConnectionId) : countFor [] peer id = 0 := rfl

lemma countFor_cons (out : Outgoing) (rest : List Outgoing) (peer : Endpoint) (id : ConnectionId) :
    countFor (out :: rest) peer id =
      countFor rest peer id + if out.peer = peer ∧ out.id = id then 1 else 0 := by
  simp [countFor, List.countP_cons]

lemma countFor_concat (entries : List Outgoing) (out : Outgoing) (peer : Endpoint)
    (id : ConnectionId) : countFor (entries ++ [out]) peer id =
      countFor entries peer id + if out.peer = peer ∧ out.id = id then 1 else 0 := by
  simp [countFor, List.countP_cons]

namespace Acceptor

variable {a a' : Acceptor}

/-- How many datagrams are queued for a connection of an endpoint. -/
def queued (a : Acceptor) (peer : Endpoint) (id : ConnectionId) : Nat :=
  countFor a.queue.entries peer id

/-- The datagram whose sending an event completes, and those that are queued behind it. -/
def completed? (a : Acceptor) : Event → Option (Outgoing × List Outgoing)
  | .sendDone (.ok ()) =>
    if a.waits && a.mailbox.posted.isEmpty then
      match a.queue.entries with
      | [] => none
      | out :: rest => some (out, rest)
    else none
  | _ => none

/-- The registered connection of which an event sends the last datagram in the queue. -/
def drained? (a : Acceptor) (e : Event) : Option ConnectionId :=
  match a.completed? e with
  | none => none
  | some (out, rest) =>
    if a.idOf? out.peer = some out.id ∧ ∀ other ∈ rest, other.id ≠ out.id then some out.id else none

/-- The connections of which the last datagram in the queue is sent over a run, in order. -/
def drains (a : Acceptor) : List Event → List ConnectionId
  | [] => []
  | e :: es => (a.drained? e).toList ++ drains (a.step e).1 es

/-! ### The counts -/

/-- The connections of an acceptor count what is queued for them. -/
structure Counted (a : Acceptor) : Prop where
  /-- Queued datagrams are sent for connections of their endpoints. -/
  named : ∀ {out}, out ∈ a.queue.entries →
    ∃ c, a.connections.get? out.id = some c ∧ c.peer = out.peer
  /-- A registered connection counts its queued datagrams. -/
  pending : ∀ {peer p}, a.peers.get? peer = some p → p.pending = a.queued peer p.id

/-- A new acceptor has nothing to count. -/
lemma counted_bind (host : Endpoint) (maxDatagram : Nat) (nextId : ConnectionId) :
    (bind host maxDatagram nextId).Counted where
  named hout := by simp [bind] at hout
  pending hp := by simp [bind] at hp

/-- The connections of one acceptor are known to another one. -/
def Knows (a a' : Acceptor) : Prop :=
  ∀ {id c}, a.connections.get? id = some c →
    ∃ c', a'.connections.get? id = some c' ∧ c'.peer = c.peer

lemma knows_of_same (hconnections : a'.connections = a.connections) : a.Knows a' := by
  intro id c hc
  exact ⟨c, hconnections ▸ hc, rfl⟩

/-- A connection that has ended is still known. -/
lemma knows_retired {gone : ConnectionId} (hconnections : a'.connections = a.retired gone) :
    a.Knows a' := by
  intro id c hc
  rw [hconnections, get?_retired]
  split
  · exact ⟨c.withState .closed, by rw [hc]; rfl, rfl⟩
  · exact ⟨c, hc, rfl⟩

/-- The counts stay right if nothing joins or leaves the queue. -/
lemma Counted.ofSame (k : a.Counted) (hknows : a.Knows a') (hqueue : a'.queue = a.queue)
    (hpeers : ∀ {peer p'}, a'.peers.get? peer = some p' →
      ∃ p, a.peers.get? peer = some p ∧ p'.id = p.id ∧ p'.pending = p.pending) :
    a'.Counted where
  named hout := by
    rw [hqueue] at hout
    obtain ⟨c, hc, hpeer⟩ := k.named hout
    obtain ⟨c', hc', hsame⟩ := hknows hc
    exact ⟨c', hc', hsame.trans hpeer⟩
  pending hp' := by
    obtain ⟨p, hp, hid, hpending⟩ := hpeers hp'
    rw [hpending, hid, queued, hqueue]
    exact k.pending hp

/-- The counts stay right if one connection keeps other received datagrams. -/
lemma Counted.put (k : a.Counted) (hconnections : a'.connections = a.connections)
    (hqueue : a'.queue = a.queue) {peer : Endpoint} {p q : Peer}
    (registered : a.peers.get? peer = some p) (hpeers : a'.peers = a.peers.put peer q)
    (hid : q.id = p.id) (hpending : q.pending = p.pending) : a'.Counted := by
  refine k.ofSame (knows_of_same hconnections) hqueue fun {peer' p'} hp' => ?_
  rw [hpeers, Table.get?_put] at hp'
  split at hp'
  · rename_i he
    obtain rfl := Option.some.inj hp'
    exact ⟨p, he ▸ registered, hid, hpending⟩
  · exact ⟨p', hp', rfl, rfl⟩

/-- The counts stay right when a connection is ended. -/
lemma Counted.dismiss (k : a.Counted) (peer : Endpoint) (p : Peer)
    (following : Option (List Endpoint)) : (a.dismissed peer p following).Counted := by
  refine k.ofSame (knows_retired rfl) rfl fun {peer' p'} hp' => ?_
  rw [dismissed, Table.get?_erase] at hp'
  split at hp'
  · cases hp'
  · exact ⟨p', hp', rfl, rfl⟩

/-- The counts stay right when the connections of an acceptor that stops are ended: the queue is
emptied when nobody is left. -/
lemma Counted.closing (k : a.Counted) {r : Noted Acceptor} (closing : Closing a a.peers.keys r) :
    r.1.Counted := by
  rcases closing.exact with ⟨peer, p, rest, -, rfl⟩ | ⟨hpeers, rfl⟩
  · exact k.dismiss peer p _
  · constructor
    case named =>
      intro out hout
      cases hout
    case pending =>
      intro peer p hp
      simp [hpeers] at hp

/-- A new connection has nothing in the queue. -/
lemma Counted.meet (h : a.Sound) (k : a.Counted) (peer : Endpoint) (datagram : Bytes) :
    (a.met peer datagram).Counted := by
  have hnew {id : ConnectionId} {c : UdpConnection} (hc : a.connections.get? id = some c) :
      id ≠ a.nextId := by
    rintro rfl
    exact Nat.lt_irrefl _ (h.named hc).2
  constructor
  case named =>
    intro out hout
    obtain ⟨c, hc, hpeer⟩ := k.named hout
    exact ⟨c, by simp only [met, Table.get?_put, if_neg (hnew hc), hc], hpeer⟩
  case pending =>
    intro peer' p hp
    rw [met, Table.get?_put] at hp
    split at hp
    · obtain rfl := Option.some.inj hp
      have hnone : countFor a.queue.entries peer' a.nextId = 0 := by
        rw [countFor, List.countP_eq_zero]
        intro out hout
        obtain ⟨c, hc, -⟩ := k.named hout
        simp [hnew hc]
      exact hnone.symm
    · exact k.pending hp

/-- A datagram that joins the queue is counted. -/
lemma Counted.push (h : a.Sound) (k : a.Counted) {peer : Endpoint} {p : Peer}
    (registered : a.peers.get? peer = some p) (data : Bytes)
    (hconnections : a'.connections = a.connections)
    (hpeers : a'.peers = a.peers.put peer { p with pending := p.pending + 1 })
    (hqueue : a'.queue = a.queue.push ⟨peer, p.id, data⟩) : a'.Counted where
  named {out} hout := by
    rw [hconnections]
    rw [hqueue, SendQueue.entries_push, List.mem_append, List.mem_singleton] at hout
    rcases hout with hold | rfl
    · exact k.named hold
    · have hid : a.idOf? peer = some p.id := by simp [idOf?, registered]
      obtain ⟨c, hc, hpeer, -⟩ := h.registered hid
      exact ⟨c, hc, hpeer⟩
  pending {peer' p'} hp' := by
    rw [queued, hqueue, SendQueue.entries_push, countFor_concat]
    rw [hpeers, Table.get?_put] at hp'
    split at hp'
    · rename_i he
      obtain rfl := Option.some.inj hp'
      have hcount := k.pending registered
      simp [he, hcount, queued]
    · rename_i hne
      have hother : ¬(peer = peer' ∧ p.id = p'.id) := fun hsame => hne hsame.1.symm
      rw [if_neg hother]
      exact k.pending hp'

/-- When the front of the queue leaves it the counts are right again if the connection it was sent
for, in case that is registered, counts one less. -/
lemma Counted.pop (k : a.Counted) {out : Outgoing} (front : a.queue.front? = some out)
    (hknows : a.Knows a') (hqueue : a'.queue = a.queue.pop)
    (hpeers : ∀ {peer p'}, a'.peers.get? peer = some p' →
      ∃ p, a.peers.get? peer = some p ∧ p'.id = p.id ∧
        p'.pending = p.pending - if out.peer = peer ∧ out.id = p.id then 1 else 0) :
    a'.Counted := by
  obtain ⟨rest, hentries⟩ : ∃ rest, a.queue.entries = out :: rest :=
    List.head?_eq_some_iff.mp front
  have hrest : a'.queue.entries = rest := by
    rw [hqueue, SendQueue.entries_pop, hentries, List.tail_cons]
  constructor
  case named =>
    intro other hother
    rw [hrest] at hother
    obtain ⟨c, hc, hpeer⟩ := k.named (hentries ▸ List.mem_cons_of_mem out hother)
    obtain ⟨c', hc', hsame⟩ := hknows hc
    exact ⟨c', hc', hsame.trans hpeer⟩
  case pending =>
    intro peer p' hp'
    obtain ⟨p, hp, hid, hpending⟩ := hpeers hp'
    have hcount : p.pending = countFor (out :: rest) peer p.id := by
      rw [← hentries]
      exact k.pending hp
    rw [hpending, hcount, countFor_cons, Nat.add_sub_cancel, queued, hrest, hid]

/-- No step makes a count wrong. -/
theorem Counted.step (h : a.Sound) (o : a.Orderly) (k : a.Counted) (e : Event) :
    (a.step e).1.Counted := by
  -- the connection that the front of the queue is sent for counts one less
  have hsend {a' : Acceptor} {out : Outgoing} {p : Peer} (front : a.queue.front? = some out)
      (registered : a.peers.get? out.peer = some p) (same : p.id = out.id)
      (hconnections : a'.connections = a.connections) (hqueue : a'.queue = a.queue.pop)
      (hpeers : a'.peers = a.peers.put out.peer { p with pending := p.pending - 1 }) :
      a'.Counted := by
    refine k.pop front (knows_of_same hconnections) hqueue fun {peer p'} hp' => ?_
    rw [hpeers, Table.get?_put] at hp'
    split at hp'
    · rename_i he
      obtain rfl := Option.some.inj hp'
      exact ⟨p, he ▸ registered, rfl, by simp [he, same]⟩
    · rename_i hne
      have hother : ¬(out.peer = peer ∧ out.id = p'.id) := fun hsame => hne hsame.1.symm
      exact ⟨p', hp', rfl, by rw [if_neg hother, Nat.sub_zero]⟩
  -- nobody counts the front of the queue
  have hskip {a' : Acceptor} {out : Outgoing} (front : a.queue.front? = some out)
      (stale : a.idOf? out.peer ≠ some out.id) (hconnections : a'.connections = a.connections)
      (hqueue : a'.queue = a.queue.pop) (hpeers : a'.peers = a.peers) : a'.Counted := by
    refine k.pop front (knows_of_same hconnections) hqueue fun {peer p'} hp' => ?_
    rw [hpeers] at hp'
    have hother : ¬(out.peer = peer ∧ out.id = p'.id) := by
      rintro ⟨rfl, hid⟩
      exact stale (by simp [idOf?, hp', hid])
    exact ⟨p', hp', rfl, by rw [if_neg hother, Nat.sub_zero]⟩
  have hsame {peer : Endpoint} {p' : Peer} (hp' : a.peers.get? peer = some p') :
      ∃ p, a.peers.get? peer = some p ∧ p'.id = p.id ∧ p'.pending = p.pending :=
    ⟨p', hp', rfl, rfl⟩
  have hmove := a.move_step e
  generalize a.step e = r at hmove
  cases hmove with
  | stay => exact k
  | post | postClose | postStop | ignoreSend | ignoreClose | report | keep | part | recover =>
    exact k.ofSame (knows_of_same rfl) rfl hsame
  | enqueue peer data rest p waits posted registered => exact k.push h registered data rfl rfl rfl
  | obey peer rest p waits posted registered =>
    have hrest : ({ a with mailbox := { a.mailbox with posted := rest } } : Acceptor).Counted :=
      k.ofSame (knows_of_same rfl) rfl hsame
    exact hrest.dismiss peer p none
  | tell peer datagram p waits unasked registered => exact k.put rfl rfl registered rfl rfl rfl
  | welcome peer datagram p phase registered => exact k.put rfl rfl registered rfl rfl rfl
  | remove e peer p datagram rest phase registered => exact k.put rfl rfl registered rfl rfl rfl
  | meet peer datagram waits unasked unknown => exact k.meet h peer _
  | sendLast out p waits unasked front registered same =>
    exact hsend front registered same rfl rfl rfl
  | sendOne out p waits unasked front registered same =>
    exact hsend front registered same rfl rfl rfl
  | sendStale out waits unasked front stale => exact hskip front stale rfl rfl rfl
  | loseStale source out waits unasked front stale => exact hskip front stale rfl rfl rfl
  | lose source out p waits unasked front registered same =>
    -- whoever is still registered is of another endpoint
    refine k.pop front (knows_retired rfl) rfl fun {peer p'} hp' => ?_
    rw [dismissed, Table.get?_erase] at hp'
    split at hp'
    · cases hp'
    · rename_i hne
      have hother : ¬(out.peer = peer ∧ out.id = p'.id) := fun hsame => hne hsame.1.symm
      exact ⟨p', hp', rfl, by rw [if_neg hother, Nat.sub_zero]⟩
  | refuse peer p phase registered => exact k.dismiss peer p none
  | goOn keep rest r phase closing =>
    obtain rfl := o.listed phase
    have hidle : ({ a with phase := .idle } : Acceptor).Counted :=
      k.ofSame (knows_of_same rfl) rfl hsame
    exact (hidle.closing closing :)
  | quit e mailbox r why first closing =>
    have hending : ({ a with
        phase := .idle, mailbox, task := .ending, stopped := true
        socketOpen := false } : Acceptor).Counted :=
      k.ofSame (knows_of_same rfl) rfl hsame
    exact (hending.closing closing :)
  | vanish e mailbox why again => simp [h.first why] at again

/-- What holds of an acceptor at every moment of its runs. -/
structure Kept (a : Acceptor) : Prop where
  /-- Its parts agree. -/
  sound : a.Sound
  /-- It stops in order. -/
  orderly : a.Orderly
  /-- Its counts are right. -/
  counted : a.Counted

lemma Kept.step (k : a.Kept) (e : Event) : (a.step e).1.Kept :=
  ⟨sound_step k.sound e, k.orderly.step k.sound e, k.counted.step k.sound k.orderly e⟩

/-- The counts are right at every moment of a run. -/
theorem kept_run (host : Endpoint) (maxDatagram : Nat) (nextId : ConnectionId) (es : List Event) :
    ((bind host maxDatagram nextId).run es).1.Kept := by
  induction es using List.reverseRecOn with
  | nil => exact ⟨sound_bind .., orderly_bind .., counted_bind ..⟩
  | append_singleton es e ih =>
    rw [run_concat]
    exact ih.step e

/-! ### The last datagram -/

/-- What an event completes is the front of the queue. -/
lemma completed?_eq_some_iff {e : Event} {out : Outgoing} {rest : List Outgoing} :
    a.completed? e = some (out, rest) ↔
      e = .sendDone (.ok ()) ∧ a.waits = true ∧ a.mailbox.posted = [] ∧
        a.queue.entries = out :: rest := by
  unfold completed?
  split
  · split
    · rename_i hready
      rw [Bool.and_eq_true, List.isEmpty_iff] at hready
      split <;> simp_all
    · rename_i hready
      rw [Bool.and_eq_true, List.isEmpty_iff] at hready
      simp only [reduceCtorEq, true_and, false_iff]
      exact fun hall => hready ⟨hall.1, hall.2.1⟩
  · rename_i hother
    simp only [reduceCtorEq, false_iff]
    exact fun hall => hother hall.1

/-- A connection counts nothing any more exactly if none of its datagrams is left. -/
lemma Counted.none_left_iff (k : a.Counted) {out : Outgoing} {rest : List Outgoing} {p : Peer}
    (hentries : a.queue.entries = out :: rest) (registered : a.peers.get? out.peer = some p)
    (same : p.id = out.id) : p.pending - 1 = 0 ↔ ∀ other ∈ rest, other.id ≠ out.id := by
  have hcount : p.pending = countFor rest out.peer out.id + 1 := by
    rw [k.pending registered, queued, hentries, same, countFor_cons]
    simp
  rw [hcount, Nat.add_sub_cancel, countFor, List.countP_eq_zero]
  constructor
  · intro hnone other hother hid
    -- two datagrams of one connection are sent to one endpoint
    have hout : out ∈ a.queue.entries := by simp [hentries]
    have hmem : other ∈ a.queue.entries := by simp [hentries, hother]
    obtain ⟨c, hc, hpeer⟩ := k.named hout
    obtain ⟨c', hc', hpeer'⟩ := k.named hmem
    rw [hid, hc] at hc'
    obtain rfl := Option.some.inj hc'
    exact hnone other hother (by simp [hid, ← hpeer, ← hpeer'])
  · intro hnone other hother
    simp [hnone other hother]

/-- When a datagram is sent the service is told so exactly if none of its connection is left, which
has to be registered. -/
lemma sentCalls_of_completed (k : a.Counted) {e : Event} {out : Outgoing} {rest : List Outgoing}
    (hcompleted : a.completed? e = some (out, rest)) :
    Note.sentCalls (a.step e).2 =
      if a.idOf? out.peer = some out.id ∧ ∀ other ∈ rest, other.id ≠ out.id then [out.id]
      else [] := by
  obtain ⟨rfl, waits, unasked, hentries⟩ := completed?_eq_some_iff.mp hcompleted
  have hfront : a.queue.front? = some out := by simp [SendQueue.front?, hentries]
  have hstep : a.step (.sendDone (.ok ())) = a.sent (.ok ()) := by simp [step, waits, unasked]
  rw [hstep]
  unfold sent
  simp only [hfront]
  cases registered : a.peers.get? out.peer with
  | none =>
    have hid : a.idOf? out.peer ≠ some out.id := by simp [idOf?, registered]
    rw [if_neg fun hboth => hid hboth.1]
    rfl
  | some p =>
    by_cases same : p.id = out.id
    · have hid : a.idOf? out.peer = some out.id := by simp [idOf?, registered, same]
      have hlast := k.none_left_iff hentries registered same
      by_cases last : p.pending - 1 = 0
      · rw [if_pos ⟨hid, hlast.mp last⟩]
        simp only [if_pos last, same]
        rfl
      · rw [if_neg fun hboth => last (hlast.mpr hboth.2)]
        simp only [if_pos same, if_neg last]
        rfl
    · have hid : a.idOf? out.peer ≠ some out.id := by simp [idOf?, registered, same]
      rw [if_neg fun hboth => hid hboth.1]
      simp only [if_neg same]
      rfl

/-- The service is told of the end of sending only when a datagram was sent. -/
lemma sentCalls_of_not_completed (h : a.Sound) {e : Event} (hcompleted : a.completed? e = none) :
    Note.sentCalls (a.step e).2 = [] := by
  have hclosing {a₀ : Acceptor} {peers : List Endpoint} {r : Noted Acceptor}
      (closing : Closing a₀ peers r) : Note.sentCalls r.2 = [] := by
    cases closing <;> rfl
  have hmove := a.move_step e
  generalize a.step e = r at hmove
  cases hmove with
  | sendLast out p waits unasked front =>
    obtain ⟨rest, hentries⟩ := List.head?_eq_some_iff.mp front
    rw [completed?_eq_some_iff.mpr ⟨rfl, waits, unasked, hentries⟩] at hcompleted
    cases hcompleted
  | goOn keep rest r phase closing => exact (hclosing closing :)
  | quit e mailbox r why first closing => exact (hclosing closing :)
  | vanish e mailbox why again => simp [h.first why] at again
  | _ => rfl

/-- In each step the service is told that those are done with sending that are. -/
theorem sentCalls_step (k : a.Kept) (e : Event) :
    Note.sentCalls (a.step e).2 = (a.drained? e).toList := by
  unfold drained?
  cases hcompleted : a.completed? e with
  | none => exact sentCalls_of_not_completed k.sound hcompleted
  | some done =>
    rw [sentCalls_of_completed k.counted hcompleted]
    dsimp only
    split <;> rfl

/-- The same holds over a whole run. -/
theorem sentCalls_run (k : a.Kept) (es : List Event) :
    Note.sentCalls (a.run es).2 = a.drains es := by
  induction es generalizing a with
  | nil => rfl
  | cons e es ih =>
    have hrest := ih (k.step e)
    rw [drains, ← sentCalls_step k e, ← hrest, ← Note.sentCalls_append]
    rfl

/-- A connection that is done with sending is registered, and stays so meanwhile. -/
lemma registered_of_drained {e : Event} {id : ConnectionId} (hdrained : a.drained? e = some id) :
    ∃ peer, a.idOf? peer = some id ∧ (a.step e).1.idOf? peer = some id := by
  unfold drained? at hdrained
  cases hcompleted : a.completed? e with
  | none => simp [hcompleted] at hdrained
  | some done =>
    obtain ⟨out, rest⟩ := done
    simp only [hcompleted, Option.ite_none_right_eq_some, Option.some.injEq] at hdrained
    obtain ⟨⟨hid, -⟩, rfl⟩ := hdrained
    obtain ⟨rfl, waits, unasked, hentries⟩ := completed?_eq_some_iff.mp hcompleted
    refine ⟨out.peer, hid, ?_⟩
    -- to count one datagram less changes nothing of who is registered
    have hput {peer : Endpoint} {p : Peer} (registered : a.peers.get? peer = some p) :
        ((a.peers.put peer { p with pending := p.pending - 1 }).get? out.peer).map Peer.id =
          a.idOf? out.peer := by
      have hsame : ({ p with pending := p.pending - 1 } : Peer).id = p.id := rfl
      exact map_id_put registered hsame out.peer
    have hmove := a.move_step (.sendDone (.ok ()))
    generalize a.step (.sendDone (.ok ())) = r at hmove
    cases hmove with
    | stay | sendStale => exact hid
    | sendLast out' p _ _ front registered => exact (hput registered).trans hid
    | sendOne out' p _ _ front registered => exact (hput registered).trans hid
    | quit _ _ _ why | vanish _ _ why => cases why
    | remove _ _ _ _ _ _ _ _ how => rcases how with how | how <;> cases how

/-! ### The whole of it -/

/-- **The count of a connection is what is queued for it, and it is told when nothing is.**  At each
moment of each run of an acceptor

* every registered connection counts exactly the datagrams in the queue that are sent for it to its
  endpoint, so the count is not zero when one of them is sent;
* the service is told that a connection is done with sending exactly when a datagram of it was sent,
  it is registered, and no datagram of it is left in the queue.

Over a whole run the calls are therefore those that a look at the queue tells. -/
theorem counts_queue (host : Endpoint) (maxDatagram : Nat) (nextId : ConnectionId)
    (es : List Event) :
    let a := ((bind host maxDatagram nextId).run es).1
    (∀ peer p, a.peers.get? peer = some p → p.pending = a.queued peer p.id) ∧
    (∀ out rest p, a.queue.entries = out :: rest → a.peers.get? out.peer = some p →
      p.id = out.id → 1 ≤ p.pending) ∧
    (∀ e, Note.sentCalls (a.step e).2 = (a.drained? e).toList) ∧
    (∀ e id, a.drained? e = some id →
      ∃ peer, a.idOf? peer = some id ∧ (a.step e).1.idOf? peer = some id) ∧
    Note.sentCalls ((bind host maxDatagram nextId).run es).2 =
      (bind host maxDatagram nextId).drains es := by
  intro a
  have hstart : (bind host maxDatagram nextId).Kept := kept_run host maxDatagram nextId []
  have hkept : a.Kept := kept_run host maxDatagram nextId es
  refine ⟨fun peer p => hkept.counted.pending, ?_, sentCalls_step hkept,
    fun e id => registered_of_drained, sentCalls_run hstart es⟩
  intro out rest p hentries registered same
  rw [hkept.counted.pending registered, queued, hentries, same, countFor_cons]
  simp

/-- An endpoint is given a connection, which is closed with two datagrams in the queue, and then
another one, which sends a datagram behind them; the first two are sent. -/
def comeback : List Event :=
  let peer : Endpoint := ⟨.v4 0x7f000001, 5001⟩
  [.arrive peer [1], .returned true, .returned true, .request ⟨1⟩ (.chunk [7]), .command,
    .request ⟨1⟩ (.chunk [8]), .command, .requestClose ⟨1⟩, .command, .returned true,
    .arrive peer [2], .returned true, .returned true, .request ⟨2⟩ (.chunk [9]), .command,
    .sendDone (.ok ()), .sendDone (.ok ())]

/-- The second connection of an endpoint does not count the datagrams of the first one, and is told
when its own one has been sent behind them. -/
theorem counts_queue_comeback :
    let a := ((bind ⟨.v4 0x7f000001, 9000⟩ 100 .first).run comeback).1
    ∃ out p, a.queue.entries = [out] ∧ a.peers.get? out.peer = some p ∧ p.id = ⟨2⟩ ∧
      p.pending = a.queued out.peer p.id ∧ 1 ≤ p.pending ∧
      Note.sentCalls (a.step (.sendDone (.ok ()))).2 = [⟨2⟩] ∧
      Note.sentCalls ((bind ⟨.v4 0x7f000001, 9000⟩ 100 .first).run comeback).2 = [] := by
  intro a
  have hentries : a.queue.entries = [⟨⟨.v4 0x7f000001, 5001⟩, ⟨2⟩, [9]⟩] := by decide +kernel
  have hp : a.peers.get? ⟨.v4 0x7f000001, 5001⟩ =
      some { id := ⟨2⟩, received := ⟨[[2]]⟩, pending := 1 } := by
    decide +kernel
  have hdrained : a.drained? (.sendDone (.ok ())) = some ⟨2⟩ := by decide +kernel
  have hdrains : (bind ⟨.v4 0x7f000001, 9000⟩ 100 .first).drains comeback = [] := by decide +kernel
  obtain ⟨hcount, hfront, htold, -, hrun⟩ := counts_queue ⟨.v4 0x7f000001, 9000⟩ 100 .first comeback
  refine ⟨_, _, hentries, hp, rfl, hcount _ _ hp, hfront _ _ _ hentries hp rfl, ?_, ?_⟩
  · rw [htold, hdrained]
    rfl
  · rw [hrun, hdrains]

end Acceptor

end Switchboard
