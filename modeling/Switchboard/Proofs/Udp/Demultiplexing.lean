import Switchboard.Proofs.Udp.Registry

/-!
# Telling datagrams apart

What an acceptor keeps for a connection is what was delivered to it and not removed since, in order
(`Acceptor.Ledger`).

A datagram that is taken up is one conversation with the service, which ends when the acceptor is
idle again.  `Acceptor.reaction` says what the service is called for in it, given its answers: it is
asked about a connection exactly if none is registered for the endpoint, and unless it declines that
one it is told of the datagram exactly once.  Whatever else happens meanwhile concerns only that
endpoint (`Acceptor.Handles`).
-/

namespace Switchboard

namespace Acceptor

variable {a : Acceptor}

/-! ### What is kept of the datagrams -/

/-- What is kept for the connections is what arrived and was not removed. -/
structure Ledger (a : Acceptor) (history : List Note) : Prop where
  /-- The datagrams of a registered connection are those that arrived and were not removed. -/
  balanced : ∀ {peer p}, a.peers.get? peer = some p → Note.data .arrived p.id history =
    Note.data .removed p.id history ++ p.received.datagrams
  /-- Of a connection that is still to be made nothing is told. -/
  silent : ∀ {id : ConnectionId}, a.nextId.number ≤ id.number →
    Note.data .arrived id history = [] ∧ Note.data .removed id history = []

/-- The end of a connection moves no datagrams. -/
@[simp] lemma data_farewell (hand : Hand) (id i : ConnectionId) :
    Note.data hand i (farewell id) = [] := rfl

@[simp] lemma data_news (id i : ConnectionId) (datagram : Bytes) :
    Note.data .arrived i (news id datagram) = (if id = i then [datagram] else []) ∧
      Note.data .removed i (news id datagram) = [] := by
  split <;> simp_all [news, Note.data_cons, Note.datum?]

/-- Two endpoints have connections with different ids. -/
lemma Sound.ne_of_registered (h : a.Sound) {peer peer' : Endpoint} {p q : Peer}
    (hp : a.peers.get? peer = some p) (hq : a.peers.get? peer' = some q) (hne : peer' ≠ peer) :
    q.id ≠ p.id := by
  intro he
  have hid : a.idOf? peer = some p.id := by simp [idOf?, hp]
  have hid' : a.idOf? peer' = some p.id := by simp [idOf?, hq, he]
  exact hne (h.eq_of_idOf? hid' hid)

/-- The id of a registered connection was given out. -/
lemma Sound.id_lt (h : a.Sound) {peer : Endpoint} {p : Peer} (hp : a.peers.get? peer = some p) :
    p.id.number < a.nextId.number := by
  have hid : a.idOf? peer = some p.id := by simp [idOf?, hp]
  obtain ⟨c, hc, -⟩ := h.registered hid
  exact (h.named hc).2

/-- The ledger goes on if the registered connections were so before, and what they keep now is what
they kept before, with what arrived behind it and what was removed taken from its front. -/
lemma Ledger.go_on {a' : Acceptor} {history notes : List Note} (k : a.Ledger history)
    (hnext : a'.nextId = a.nextId)
    (hpeers : ∀ {peer p'}, a'.peers.get? peer = some p' → ∃ p, a.peers.get? peer = some p ∧
      p'.id = p.id ∧ p.received.datagrams ++ Note.data .arrived p.id notes =
        Note.data .removed p.id notes ++ p'.received.datagrams)
    (hsilent : ∀ {id : ConnectionId}, a.nextId.number ≤ id.number →
      Note.data .arrived id notes = [] ∧ Note.data .removed id notes = []) :
    a'.Ledger (history ++ notes) where
  balanced hp' := by
    obtain ⟨p, hp, hid, hkept⟩ := hpeers hp'
    rw [hid, Note.data_append, Note.data_append, k.balanced hp, List.append_assoc, hkept,
      List.append_assoc]
  silent hid := by
    rw [hnext] at hid
    obtain ⟨harrived, hremoved⟩ := k.silent hid
    obtain ⟨harrived', hremoved'⟩ := hsilent hid
    simp [harrived, hremoved, harrived', hremoved']

/-- The ledger goes on if no datagram is moved. -/
lemma Ledger.calm {a' : Acceptor} {history notes : List Note} (k : a.Ledger history)
    (hnext : a'.nextId = a.nextId)
    (hpeers : ∀ {peer p'}, a'.peers.get? peer = some p' →
      ∃ p, a.peers.get? peer = some p ∧ p'.id = p.id ∧ p'.received = p.received)
    (hnotes : ∀ id, Note.data .arrived id notes = [] ∧ Note.data .removed id notes = []) :
    a'.Ledger (history ++ notes) := by
  refine k.go_on hnext (fun hp' => ?_) fun _ => hnotes _
  obtain ⟨p, hp, hid, hreceived⟩ := hpeers hp'
  exact ⟨p, hp, hid, by simp [(hnotes p.id).1, (hnotes p.id).2, hreceived]⟩

/-- The ledger goes on if one connection keeps other datagrams than before, and the notes tell of no
other one. -/
lemma Ledger.put (h : a.Sound) {a' : Acceptor} {history notes : List Note} (k : a.Ledger history)
    {peer : Endpoint} {p q : Peer} (registered : a.peers.get? peer = some p)
    (hnext : a'.nextId = a.nextId) (hpeers : a'.peers = a.peers.put peer q) (hid : q.id = p.id)
    (hkept : p.received.datagrams ++ Note.data .arrived p.id notes =
      Note.data .removed p.id notes ++ q.received.datagrams)
    (hothers : ∀ {id}, id ≠ p.id →
      Note.data .arrived id notes = [] ∧ Note.data .removed id notes = []) :
    a'.Ledger (history ++ notes) := by
  refine k.go_on hnext (fun {peer' p'} hp' => ?_) fun {id} hle => hothers fun he => ?_
  · rw [hpeers, Table.get?_put] at hp'
    split at hp'
    · rename_i he
      obtain rfl := Option.some.inj hp'
      exact ⟨p, he ▸ registered, hid, hkept⟩
    · rename_i hne
      obtain ⟨harrived, hremoved⟩ := hothers (h.ne_of_registered registered hp' hne)
      exact ⟨p', hp', rfl, by simp [harrived, hremoved]⟩
  · exact absurd (h.id_lt registered) (by rw [← he]; exact Nat.not_lt.mpr hle)

/-- What is still registered when a connection is ended was so before. -/
lemma registered_of_erase {gone peer : Endpoint} {p' : Peer}
    (hp' : (a.peers.erase gone).get? peer = some p') :
    ∃ p, a.peers.get? peer = some p ∧ p'.id = p.id ∧ p'.received = p.received := by
  rw [Table.get?_erase] at hp'
  split at hp'
  · cases hp'
  · exact ⟨p', hp', rfl, rfl⟩

/-- The ledger goes on when the connections of an acceptor that stops are ended. -/
lemma Ledger.closing {a₀ : Acceptor} {history : List Note} (k : a.Ledger history)
    {peers : List Endpoint} {r : Noted Acceptor} (closing : Closing a₀ peers r)
    (hnext : a₀.nextId = a.nextId) (hpeers : a₀.peers = a.peers) {first : Note}
    (hfirst : ∀ id hand, Note.datum? hand id first = none) :
    r.1.Ledger (history ++ first :: r.2) := by
  cases closing with
  | next skipped peer rest p gone registered =>
    refine k.calm hnext (fun hp' => ?_) fun id => ?_
    · rw [dismissed, hpeers] at hp'
      exact registered_of_erase hp'
    · simp [Note.data_cons, hfirst id]
  | finished _ gone =>
    refine k.calm hnext (fun {peer p'} hp' => ⟨p', ?_, rfl, rfl⟩) fun id => ?_
    · rwa [← hpeers]
    · simp [Note.data_cons, hfirst id]

/-- The ledger goes on with a new connection. -/
lemma Ledger.meet {history : List Note} (k : a.Ledger history) (peer : Endpoint)
    (datagram : Bytes) {notes : List Note} (hnotes : ∀ hand id, Note.data hand id notes = []) :
    (a.met peer datagram).Ledger (history ++ notes) where
  balanced {peer' p} hp := by
    rw [met, Table.get?_put] at hp
    rw [Note.data_append, Note.data_append, hnotes, hnotes, List.append_nil, List.append_nil]
    split at hp
    · obtain rfl := Option.some.inj hp
      obtain ⟨harrived, hremoved⟩ := k.silent (le_refl a.nextId.number)
      rw [harrived, hremoved]
      rfl
    · exact k.balanced hp
  silent hid := by
    obtain ⟨harrived, hremoved⟩ := k.silent (Nat.le_of_succ_le hid)
    simp [harrived, hremoved, hnotes]

/-- No step loses, doubles or mixes up what is kept. -/
lemma Ledger.step (h : a.Sound) {history : List Note} (k : a.Ledger history) (e : Event) :
    (a.step e).1.Ledger (history ++ (a.step e).2) := by
  have hsame {peer : Endpoint} {p' : Peer} (hp' : a.peers.get? peer = some p') :
      ∃ p, a.peers.get? peer = some p ∧ p'.id = p.id ∧ p'.received = p.received :=
    ⟨p', hp', rfl, rfl⟩
  have htell {peer : Endpoint} {p : Peer} (registered : a.peers.get? peer = some p)
      (datagram : Bytes) : (a.told peer p datagram).Ledger (history ++ news p.id datagram) :=
    k.put h registered rfl rfl rfl (by simp) fun hne => by simp [Ne.symm hne]
  have hmove := a.move_step e
  generalize a.step e = r at hmove
  cases hmove with
  | stay | post | postClose | postStop | ignoreSend | ignoreClose | report | sendStale | loseStale
  | keep | part | recover => exact k.calm rfl hsame fun _ => ⟨rfl, rfl⟩
  | enqueue peer data rest p waits posted registered =>
    exact k.put h registered rfl rfl rfl (by simp [Note.data_cons, Note.datum?])
      fun _ => ⟨rfl, rfl⟩
  | sendOne out p waits unasked front registered =>
    exact k.put h registered rfl rfl rfl (by simp [Note.data_cons, Note.datum?])
      fun _ => ⟨rfl, rfl⟩
  | sendLast out p waits unasked front registered =>
    exact k.put h registered rfl rfl rfl (by simp [Note.data_cons, Note.datum?])
      fun _ => ⟨rfl, rfl⟩
  | obey | lose | refuse => exact k.calm rfl registered_of_erase fun _ => ⟨rfl, rfl⟩
  | tell peer datagram p waits unasked registered => exact htell registered _
  | welcome peer datagram p phase registered => exact htell registered _
  | meet peer datagram waits unasked unknown => exact k.meet peer _ fun _ _ => rfl
  | goOn keep rest r phase closing => exact k.closing closing rfl rfl fun _ _ => rfl
  | quit e mailbox r why first closing => exact k.closing closing rfl rfl fun _ _ => rfl
  | vanish e mailbox why again => simp [h.first why] at again
  | remove e peer p datagram rest phase registered front how =>
    refine k.put h registered rfl rfl rfl ?_ fun {id} hne => ⟨rfl, ?_⟩
    · simp [Note.data_cons, Note.datum?, front]
    · simp [Note.data_cons, Note.datum?, Ne.symm hne]

/-! ### The conversation about one datagram -/

/-- The answer of the service that an event brings. -/
def Event.answer? : Event → Option Bool
  | .returned keep => some keep
  | _ => none

/-- The answers of the service among events. -/
def answers (es : List Event) : List Bool := es.filterMap Event.answer?

/-- What the service is called for when it is told of a datagram, given its answers. -/
def announced (id : ConnectionId) (answers : List Bool) : List Callback :=
  if false ∈ answers then [.receive id, .close id .closed] else [.receive id]

/-- What the service is called for when a datagram comes in from an endpoint, given the connection
that is registered for it, the id and the port of a new one, and its answers. -/
def reaction (known : Option ConnectionId) (fresh : ConnectionId) (port : Port)
    (answers : List Bool) : List Callback :=
  match known with
  | some id => announced id answers
  | none => .accept fresh port ::
    match answers with
    | [] => []
    | false :: _ => [.close fresh .closed]
    | true :: rest => announced fresh rest

/-- What comes of a datagram of an endpoint, as far as the service has answered. -/
structure Handled (a : Acceptor) (peer : Endpoint) (datagram : Bytes) (given : List Bool)
    (s : Noted Acceptor) : Prop where
  /-- The service is called for a new connection if there is none, and told of the datagram. -/
  calls : Note.callbacks s.2 = reaction (a.idOf? peer) a.nextId a.port given
  /-- Who is told of the datagram is given it, and nobody else is given anything. -/
  arrived : ∀ id, Note.data .arrived id s.2 =
    if .receive id ∈ Note.callbacks s.2 then [datagram] else []
  /-- The connection stays registered unless the service declines it. -/
  registered : s.1.idOf? peer =
    if false ∈ given then none else some ((a.idOf? peer).getD a.nextId)
  /-- What is kept for other endpoints is unchanged. -/
  peers : ∀ other, other ≠ peer → s.1.peers.get? other = a.peers.get? other
  /-- The connections of other endpoints are unchanged. -/
  connections : ∀ id c, a.connections.get? id = some c → c.peer ≠ peer →
    s.1.connections.get? id = some c

/-- The answers that the service has given when it is told of a datagram. -/
def consent (known : Option ConnectionId) : List Bool := if known.isNone then [true] else []

/-- How far the conversation about a datagram has come with some answers. -/
inductive Stage (known : Option ConnectionId) (peer : Endpoint) (datagram : Bytes) :
    List Bool → AcceptorPhase → Prop where
  /-- The service is asked about a new connection. -/
  | asked (unknown : known = none) : Stage known peer datagram [] (.accepting peer datagram)
  /-- The service is told of the datagram. -/
  | told : Stage known peer datagram (consent known) (.receiving peer)
  /-- The service did not want the new connection. -/
  | declined (unknown : known = none) : Stage known peer datagram [false] (.closing none)
  /-- The service did not want to go on. -/
  | refused : Stage known peer datagram (consent known ++ [false]) (.closing none)
  /-- The conversation is over. -/
  | finished (given : List Bool) : Stage known peer datagram given .idle

/-- No other connection is told about meanwhile. -/
lemma Stage.eq_of_peer? {known : Option ConnectionId} {peer other : Endpoint} {datagram : Bytes}
    {given : List Bool} {phase : AcceptorPhase} (hstage : Stage known peer datagram given phase)
    (hserved : phase.peer? = some other) : other = peer := by
  cases hstage with
  | asked | told => exact (Option.some.inj hserved).symm
  | declined | refused | finished => cases hserved

/-- Going on changes nothing of what the service is called for. -/
lemma reaction_granted (known : Option ConnectionId) (fresh : ConnectionId) (port : Port) :
    reaction known fresh port (consent known ++ [true]) =
      reaction known fresh port (consent known) := by
  cases known <;> rfl

/-- Who does not go on is told of the end. -/
lemma reaction_refused (known : Option ConnectionId) (fresh : ConnectionId) (port : Port) :
    reaction known fresh port (consent known ++ [false]) =
      reaction known fresh port (consent known) ++ [.close (known.getD fresh) .closed] := by
  cases known <;> rfl

/-- An answer after that changes nothing. -/
lemma reaction_parted (known : Option ConnectionId) (fresh : ConnectionId) (port : Port)
    (keep : Bool) : reaction known fresh port (consent known ++ [false] ++ [keep]) =
      reaction known fresh port (consent known ++ [false]) := by
  cases known <;> simp [reaction, consent, announced]

/-- While the service is called nothing but its answer goes on with the call; it may remove
datagrams of the connection it is told about, and anybody may post. -/
lemma step_of_busy (hbusy : a.phase ≠ .idle) {e : Event} (he : e.answer? = none) :
    (a.step e).1.phase = a.phase ∧ (a.step e).1.connections = a.connections ∧
      Note.callbacks (a.step e).2 = [] ∧ (∀ id, Note.data .arrived id (a.step e).2 = []) ∧
      (∀ peer, (a.step e).1.idOf? peer = a.idOf? peer) ∧
      ∀ peer, a.phase.peer? ≠ some peer →
        (a.step e).1.peers.get? peer = a.peers.get? peer := by
  have hmove := a.move_step e
  generalize a.step e = r at hmove
  cases hmove with
  | stay | post | postClose | postStop =>
    exact ⟨rfl, rfl, rfl, fun _ => rfl, fun _ => rfl, fun _ _ => rfl⟩
  | enqueue | ignoreSend | obey | ignoreClose | tell | meet | report | sendLast | sendOne
  | sendStale | lose | loseStale => exact absurd (idle_of_waits (by assumption)).1 hbusy
  | welcome | refuse | keep | part | goOn | recover => cases he
  | quit e mailbox r why | vanish e mailbox why =>
    cases why with
    | asked rest waits => exact absurd (idle_of_waits waits).1 hbusy
    | dropped waits => exact absurd (idle_of_waits waits).1 hbusy
    | failed => cases he
  | remove e peer p datagram rest phase registered =>
    refine ⟨rfl, rfl, rfl, fun _ => rfl, map_id_put registered rfl, fun peer' hother => ?_⟩
    have hne : peer' ≠ peer := fun hsame => hother (by rw [phase, hsame]; rfl)
    simp only [Table.get?_put, if_neg hne]

/-- How far the conversation about a datagram has come, and what has come of it. -/
def Handles (a : Acceptor) (peer : Endpoint) (datagram : Bytes) (given : List Bool)
    (s : Noted Acceptor) : Prop :=
  a.Handled peer datagram given s ∧ Stage (a.idOf? peer) peer datagram given s.1.phase

namespace Handled

variable {peer : Endpoint} {datagram : Bytes} {given given' : List Bool} {s : Noted Acceptor}

/-- A step that calls nobody and leaves the connections alone changes nothing of what came. -/
lemma rest (k : a.Handled peer datagram given s) {r : Noted Acceptor}
    (hreaction : reaction (a.idOf? peer) a.nextId a.port given' =
      reaction (a.idOf? peer) a.nextId a.port given)
    (hdeclined : false ∈ given' ↔ false ∈ given) (hconnections : r.1.connections = s.1.connections)
    (hcalls : Note.callbacks r.2 = []) (harrived : ∀ id, Note.data .arrived id r.2 = [])
    (hregistered : r.1.idOf? peer = s.1.idOf? peer)
    (hpeers : ∀ other, other ≠ peer → r.1.peers.get? other = s.1.peers.get? other) :
    a.Handled peer datagram given' (r.1, s.2 ++ r.2) where
  calls := by rw [Note.callbacks_append, hcalls, List.append_nil, k.calls, hreaction]
  arrived id := by
    rw [Note.data_append, harrived, List.append_nil, Note.callbacks_append, hcalls,
      List.append_nil, k.arrived]
  registered := by simp only [hregistered, k.registered, hdeclined]
  peers other hother := (hpeers other hother).trans (k.peers other hother)
  connections id c hc hother := by
    rw [hconnections]
    exact k.connections id c hc hother

/-- The connection of the endpoint is the one that was registered, or the new one. -/
lemma id_of_registered (k : a.Handled peer datagram given s) {p : Peer}
    (registered : s.1.peers.get? peer = some p) : p.id = (a.idOf? peer).getD a.nextId := by
  have hid := k.registered
  simp only [idOf?, registered, Option.map_some] at hid ⊢
  split at hid
  · cases hid
  · exact Option.some.inj hid

/-- The connection of the endpoint is registered as long as the service does not decline it. -/
lemma exists_registered (k : a.Handled peer datagram given s) (hgiven : false ∉ given) :
    ∃ p, s.1.peers.get? peer = some p := by
  have hid := k.registered
  rw [if_neg hgiven] at hid
  obtain ⟨p, hp, -⟩ := Option.map_eq_some_iff.mp hid
  exact ⟨p, hp⟩

/-- The service may be told of the first datagram of a new connection. -/
lemma tell (k : a.Handled peer datagram [] s) (unknown : a.idOf? peer = none) {p : Peer}
    (registered : s.1.peers.get? peer = some p) :
    a.Handled peer datagram [true] (s.1.told peer p datagram, s.2 ++ news p.id datagram) := by
  have hid : p.id = a.nextId := by simpa [unknown] using k.id_of_registered registered
  have hcalls : Note.callbacks s.2 = [.accept a.nextId a.port] := by
    rw [k.calls, unknown]
    rfl
  have hnews : Note.callbacks (news p.id datagram) = [.receive a.nextId] := by rw [hid]; rfl
  constructor
  case calls => rw [Note.callbacks_append, hcalls, hnews, unknown]; rfl
  case arrived =>
    intro id
    rw [Note.data_append, k.arrived, (data_news p.id id datagram).1, Note.callbacks_append, hcalls,
      hnews, hid]
    simp [eq_comm]
  case registered =>
    rw [unknown]
    simp [told, idOf?, Table.get?_put, hid]
  case peers =>
    intro other hother
    simp only [told, Table.get?_put, if_neg hother]
    exact k.peers other hother
  case connections => exact k.connections

/-- The connection of the endpoint may be ended. -/
lemma dismiss (k : a.Handled peer datagram given s) (h : a.Sound) {p : Peer}
    (registered : s.1.peers.get? peer = some p) (hdeclined : false ∈ given')
    (hreaction : reaction (a.idOf? peer) a.nextId a.port given' =
      reaction (a.idOf? peer) a.nextId a.port given ++ [.close p.id .closed]) :
    a.Handled peer datagram given' (s.1.dismissed peer p none, s.2 ++ farewell p.id) where
  calls := by
    rw [Note.callbacks_append, k.calls, hreaction]
    rfl
  arrived id := by
    have hcalls : Note.callbacks (farewell p.id) = [.close p.id .closed] := rfl
    simp [Note.callbacks_append, hcalls, k.arrived]
  registered := by simp [dismissed, idOf?, Table.get?_erase, hdeclined]
  peers other hother := by
    simp only [dismissed, Table.get?_erase, if_neg hother]
    exact k.peers other hother
  connections id c hc hother := by
    have hne : id ≠ p.id := by
      rintro rfl
      rw [k.id_of_registered registered] at hc
      cases hknown : a.idOf? peer with
      | some known =>
        obtain ⟨c', hc', hpeer, -⟩ := h.registered hknown
        rw [hknown] at hc
        obtain rfl := Option.some.inj (hc.symm.trans hc')
        exact hother hpeer
      | none =>
        rw [hknown] at hc
        exact Nat.lt_irrefl _ (h.named hc).2
    rw [dismissed, get?_retired, if_neg hne]
    exact k.connections id c hc hother

end Handled

/-- A datagram that is taken up starts the conversation. -/
lemma handles_arrive (h : a.Sound) (waits : a.waits = true) (unasked : a.mailbox.posted = [])
    (peer : Endpoint) (datagram : Bytes) :
    a.Handles peer (datagram.take a.maxDatagram) [] (a.step (.arrive peer datagram)) := by
  have hstep : a.step (.arrive peer datagram) = a.deliver peer (datagram.take a.maxDatagram) := by
    simp [step, waits, unasked]
  rw [hstep]
  generalize datagram.take a.maxDatagram = datagram
  unfold deliver
  cases hp : a.peers.get? peer with
  | some p =>
    have hid : a.idOf? peer = some p.id := by simp [idOf?, hp]
    dsimp only
    rw [receive_of_registered hp]
    refine ⟨⟨?_, fun id => ?_, ?_, fun other hother => ?_, fun id c hc _ => hc⟩, ?_⟩
    · rw [hid]
      rfl
    · rw [(data_news p.id id datagram).1]
      simp [news, Note.callbacks, eq_comm]
    · rw [hid]
      simp [told, idOf?, Table.get?_put]
    · simp only [told, Table.get?_put, if_neg hother]
    · rw [hid]
      exact .told
  | none =>
    have hid : a.idOf? peer = none := by simp [idOf?, hp]
    refine ⟨⟨?_, fun id => rfl, ?_, fun other hother => ?_, fun id c hc _ => ?_⟩, ?_⟩
    · rw [hid]
      rfl
    · rw [hid]
      simp [idOf?, Table.get?_put]
    · simp only [Table.get?_put, if_neg hother]
    · have hne : id ≠ a.nextId := by
        rintro rfl
        exact Nat.lt_irrefl _ (h.named hc).2
      simp only [Table.get?_put, if_neg hne, hc]
    · rw [hid]
      exact .asked rfl

/-- The conversation goes on with what the service answers. -/
lemma Handles.answer (h : a.Sound) {peer : Endpoint} {datagram : Bytes} {given : List Bool}
    {s : Noted Acceptor} (k : a.Handles peer datagram given s) (hbusy : s.1.phase ≠ .idle)
    (keep : Bool) :
    a.Handles peer datagram (given ++ [keep])
      ((s.1.returned keep).1, s.2 ++ (s.1.returned keep).2) := by
  obtain ⟨k, hstage⟩ := k
  generalize hphase : s.1.phase = phase at hstage
  -- the end of the connection was the last that the service was called for
  have hpart (hclosing : s.1.phase = .closing none) (hdeclined : false ∈ given)
      (hreaction : reaction (a.idOf? peer) a.nextId a.port (given ++ [keep]) =
        reaction (a.idOf? peer) a.nextId a.port given) :
      a.Handles peer datagram (given ++ [keep])
        ((s.1.returned keep).1, s.2 ++ (s.1.returned keep).2) := by
    have hstep : s.1.returned keep = ({ s.1 with phase := .idle }, [.tracked (-1)]) := by
      simp [returned, hclosing, Noted.andThen]
    rw [hstep]
    refine ⟨k.rest hreaction ?_ rfl rfl (fun _ => rfl) rfl fun _ _ => rfl, .finished _⟩
    simp [hdeclined]
  cases hstage with
  | asked unknown =>
    obtain ⟨p, registered⟩ := k.exists_registered (by simp)
    cases keep with
    | true =>
      have hstep : s.1.returned true = (s.1.told peer p datagram, news p.id datagram) := by
        simp [returned, hphase, receive_of_registered registered]
      rw [hstep]
      refine ⟨k.tell unknown registered, ?_⟩
      have hgiven : [true] = consent (a.idOf? peer) := by simp [consent, unknown]
      rw [List.nil_append, hgiven]
      exact .told
    | false =>
      have hid : p.id = a.nextId := by simpa [unknown] using k.id_of_registered registered
      have hstep : s.1.returned false = (s.1.dismissed peer p none, farewell p.id) := by
        simp [returned, hphase, remove_of_registered registered]
      rw [hstep]
      exact ⟨k.dismiss h registered (by simp) (by rw [unknown, hid]; rfl), .declined unknown⟩
  | told =>
    have hgranted : false ∉ consent (a.idOf? peer) := by cases a.idOf? peer <;> simp [consent]
    cases keep with
    | true =>
      have hstep : s.1.returned true = ({ s.1 with phase := .idle }, []) := by
        simp [returned, hphase]
      rw [hstep]
      exact ⟨k.rest (reaction_granted ..) (by simp) rfl rfl (fun _ => rfl) rfl fun _ _ => rfl,
        .finished _⟩
    | false =>
      obtain ⟨p, registered⟩ := k.exists_registered hgranted
      have hstep : s.1.returned false = (s.1.dismissed peer p none, farewell p.id) := by
        simp [returned, hphase, remove_of_registered registered]
      rw [hstep]
      refine ⟨k.dismiss h registered (by simp) ?_, .refused⟩
      rw [reaction_refused, k.id_of_registered registered]
  | declined unknown => exact hpart hphase (by simp) (by rw [unknown]; rfl)
  | refused => exact hpart hphase (by simp) (reaction_parted ..)
  | finished => exact absurd hphase hbusy

/-- The conversation goes on until the acceptor is idle. -/
lemma Handles.step (h : a.Sound) {peer : Endpoint} {datagram : Bytes} {given : List Bool}
    {s : Noted Acceptor} (k : a.Handles peer datagram given s) (hbusy : s.1.phase ≠ .idle)
    (e : Event) :
    a.Handles peer datagram (given ++ e.answer?.toList)
      ((s.1.step e).1, s.2 ++ (s.1.step e).2) := by
  cases he : e.answer? with
  | none =>
    obtain ⟨k, hstage⟩ := k
    obtain ⟨hphase, hconnections, hcalls, harrived, hids, hpeers⟩ := step_of_busy hbusy he
    rw [Option.toList_none, List.append_nil]
    refine ⟨k.rest rfl .rfl hconnections hcalls harrived (hids peer) fun other hother => ?_,
      hphase ▸ hstage⟩
    exact hpeers other fun hserved => hother (hstage.eq_of_peer? hserved)
  | some keep =>
    obtain rfl : e = .returned keep := by
      cases e <;> simp_all [Event.answer?]
    exact k.answer h hbusy keep

/-- The service is called about a datagram for as long as the acceptor is not idle. -/
lemma handles_run (h : a.Sound) (waits : a.waits = true) (unasked : a.mailbox.posted = [])
    (peer : Endpoint) (datagram : Bytes) (gs : List Event)
    (hbusy : ∀ n < gs.length, (a.run (.arrive peer datagram :: gs.take n)).1.phase ≠ .idle) :
    a.Handles peer (datagram.take a.maxDatagram) (answers gs)
      (a.run (.arrive peer datagram :: gs)) := by
  induction gs using List.reverseRecOn with
  | nil =>
    have harrive := handles_arrive h waits unasked peer datagram
    simpa [run, Noted.andThen, answers] using harrive
  | append_singleton gs e ih =>
    have hgs : a.Handles peer (datagram.take a.maxDatagram) (answers gs)
        (a.run (.arrive peer datagram :: gs)) := by
      refine ih fun n hn => ?_
      have hprefix := hbusy n (by simp; omega)
      rwa [List.take_append_of_le_length hn.le] at hprefix
    have hlast : (a.run (.arrive peer datagram :: gs)).1.phase ≠ .idle := by
      simpa using hbusy gs.length (by simp)
    have hanswers : answers (gs ++ [e]) = answers gs ++ e.answer?.toList := by
      cases he : e.answer? <;> simp [answers, he]
    rw [← List.cons_append, run_concat, hanswers]
    exact hgs.step h hlast e

/-! ### The whole of it -/

/-- Datagrams are always cut to the same length. -/
lemma maxDatagram_step (a : Acceptor) (e : Event) : (a.step e).1.maxDatagram = a.maxDatagram := by
  have hclosing {a₀ : Acceptor} {peers : List Endpoint} {r : Noted Acceptor}
      (closing : Closing a₀ peers r) : r.1.maxDatagram = a₀.maxDatagram := by
    cases closing <;> rfl
  have hmove := a.move_step e
  generalize a.step e = r at hmove
  cases hmove with
  | goOn keep rest r phase closing => exact (hclosing closing :)
  | quit e mailbox r why first closing => exact (hclosing closing :)
  | _ => rfl

lemma maxDatagram_run (a : Acceptor) (es : List Event) :
    (a.run es).1.maxDatagram = a.maxDatagram := by
  induction es using List.reverseRecOn with
  | nil => rfl
  | append_singleton es e ih => rw [run_concat, maxDatagram_step, ih]

/-- The ledger of a new acceptor is kept along every run. -/
lemma ledger_run (host : Endpoint) (maxDatagram : Nat) (nextId : ConnectionId) (es : List Event) :
    ((bind host maxDatagram nextId).run es).1.Ledger ((bind host maxDatagram nextId).run es).2 := by
  induction es using List.reverseRecOn with
  | nil => exact ⟨fun hp => by simp [run, bind] at hp, fun _ => ⟨rfl, rfl⟩⟩
  | append_singleton es e ih =>
    rw [run_concat]
    exact ih.step (sound_run (sound_bind host maxDatagram nextId) es) e

/-- The service is told of a connection whose datagrams it may look at. -/
lemma context?_of_receive {e : Event} {id : ConnectionId}
    (htold : .receive id ∈ Note.callbacks (a.step e).2) :
    ∃ peer p, (a.step e).1.context? = some (peer, p) ∧ p.id = id := by
  have hclosing {a₀ : Acceptor} {peers : List Endpoint} {r : Noted Acceptor}
      (closing : Closing a₀ peers r) : .receive id ∉ Note.callbacks r.2 := by
    cases closing <;> simp [farewell, Note.callbacks]
  have htell {peer : Endpoint} {p : Peer} {datagram : Bytes}
      (hcall : .receive id ∈ Note.callbacks (news p.id datagram)) :
      ∃ peer' p', (a.told peer p datagram).context? = some (peer', p') ∧ p'.id = id := by
    have hid : id = p.id := by simpa [news, Note.callbacks] using hcall
    exact ⟨peer, { p with received := p.received.push datagram },
      context?_eq_some_iff.mpr ⟨rfl, by rw [told, Table.get?_put, if_pos rfl]⟩, hid.symm⟩
  have hmove := a.move_step e
  generalize a.step e = r at hmove htold
  cases hmove with
  | tell | welcome => exact htell htold
  | goOn keep rest r phase closing =>
    exact absurd htold (by simpa [Note.callbacks] using hclosing closing)
  | quit e mailbox r why first closing =>
    exact absurd htold (by simpa [Note.callbacks] using hclosing closing)
  | _ => simp [farewell, Note.callbacks] at htold

/-- **Datagrams are told apart by where they come from.**  Whatever happened so far, and whatever
the service answered:

* no two connections that are not closed have the same endpoint, and the one that is registered for
  an endpoint is the one of it that is not closed;
* a datagram that is taken up, cut to the longest length, is handled until the acceptor is idle
  again: the service is asked about a new connection exactly if none was registered for the
  endpoint, is told of the datagram exactly once unless it declined that, and what is kept for all
  other endpoints and their connections stay as they are;
* when the service is told of a datagram it may look at what is kept for that connection, and what
  is kept for a connection is what was delivered to it and not removed since, whole and in order. -/
theorem demultiplexes (host : Endpoint) (maxDatagram : Nat) (nextId : ConnectionId)
    (es : List Event) :
    let a := ((bind host maxDatagram nextId).run es).1
    let history := ((bind host maxDatagram nextId).run es).2
    (∀ id c id' c', a.connections.get? id = some c → a.connections.get? id' = some c' →
      c.state ≠ .closed → c'.state ≠ .closed → c.peer = c'.peer → id = id') ∧
    (∀ peer id, a.idOf? peer = some id ↔
      ∃ c, a.connections.get? id = some c ∧ c.peer = peer ∧ c.state ≠ .closed) ∧
    (∀ peer datagram gs, a.waits = true → a.mailbox.posted = [] →
      (∀ n < gs.length, (a.run (.arrive peer datagram :: gs.take n)).1.phase ≠ .idle) →
      a.Handled peer (datagram.take maxDatagram) (answers gs)
        (a.run (.arrive peer datagram :: gs))) ∧
    (∀ e id, .receive id ∈ Note.callbacks (a.step e).2 →
      ∃ peer p, (a.step e).1.context? = some (peer, p) ∧ p.id = id) ∧
    ∀ peer p, a.peers.get? peer = some p → Note.data .arrived p.id history =
      Note.data .removed p.id history ++ p.received.datagrams := by
  intro a history
  have hsound : a.Sound := sound_run (sound_bind host maxDatagram nextId) es
  have hcut : a.maxDatagram = maxDatagram := maxDatagram_run _ es
  refine ⟨?_, fun _ _ => hsound.idOf?_eq_some_iff, ?_, fun _ _ => context?_of_receive,
    fun _ _ => (ledger_run host maxDatagram nextId es).balanced⟩
  · intro id c id' c' hc hc' hlive hlive' hsame
    have hid := hsound.live hc hlive
    rw [hsame, hsound.live hc' hlive'] at hid
    exact (Option.some.inj hid).symm
  · intro peer datagram gs waits unasked hbusy
    rw [← hcut]
    exact (handles_run hsound waits unasked peer datagram gs hbusy).1

/-- While one endpoint has a connection and a datagram waiting for it, a longer datagram of another
endpoint is cut, announced, and refused when the service sees it. -/
theorem demultiplexes_stranger :
    let host : Endpoint := ⟨.v4 0x7f000001, 9000⟩
    let known : Endpoint := ⟨.v4 0x7f000001, 5001⟩
    let stranger : Endpoint := ⟨.v4 0x7f000001, 5002⟩
    let a := ((bind host 2 .first).run [.arrive known [1], .returned true, .returned true]).1
    let s := a.run [.arrive stranger [2, 3, 4], .returned true, .pop, .returned false]
    a.waits = true ∧ a.mailbox.posted = [] ∧ a.idOf? known = some ⟨1⟩ ∧ s.1.idOf? stranger = none ∧
      s.1.peers.get? known = a.peers.get? known ∧
      Note.callbacks s.2 = [.accept ⟨2⟩ 9000, .receive ⟨2⟩, .close ⟨2⟩ .closed] ∧
      Note.data .arrived ⟨2⟩ s.2 = [[2, 3]] := by
  intro host known stranger a s
  have hhandled : a.Handled stranger [2, 3] [true, false] s :=
    (demultiplexes host 2 .first [.arrive known [1], .returned true, .returned true]).2.2.1
      stranger [2, 3, 4] [.returned true, .pop, .returned false] (by decide +kernel)
      (by decide +kernel) (by decide +kernel)
  have hunknown : a.idOf? stranger = none := by decide +kernel
  have hfresh : a.nextId = ⟨2⟩ := by decide +kernel
  have hcalls : Note.callbacks s.2 = [.accept ⟨2⟩ 9000, .receive ⟨2⟩, .close ⟨2⟩ .closed] := by
    rw [hhandled.calls, hunknown, hfresh]
    decide +kernel
  have hgone : s.1.idOf? stranger = none := by rw [hhandled.registered, if_pos (by decide)]
  have hkept : s.1.peers.get? known = a.peers.get? known := hhandled.peers known (by decide)
  have harrived : Note.data .arrived ⟨2⟩ s.2 = [[2, 3]] := by
    rw [hhandled.arrived, hcalls, if_pos (by decide)]
  exact ⟨by decide +kernel, by decide +kernel, by decide +kernel, hgone, hkept, hcalls, harrived⟩

end Acceptor

end Switchboard
