import Mathlib.Tactic.Common
import Switchboard.Proofs.History
import Switchboard.Udp.Acceptor

/-!
# The moves of an acceptor

`Acceptor.step` answers any event in any phase, and mostly with nothing.  `Acceptor.Move` lists what
an acceptor can do, one rule for each thing, with what has to hold for it and what comes of it, and
`Acceptor.move_step` says that the list is complete.

What happens to a connection that is ended, or that is told of a datagram, is the same in many rules
and has a name of its own (`Acceptor.dismissed`, `Acceptor.told`).  How the connections of an
acceptor that stops are ended one after the other is `Acceptor.Closing`.
-/

namespace Switchboard

namespace Acceptor

variable {a : Acceptor}

/-! ### What several moves have in common -/

/-- The connections when one of them is closed. -/
def retired (a : Acceptor) (id : ConnectionId) : Table ConnectionId UdpConnection :=
  match a.connections.get? id with
  | some c => a.connections.put id (c.withState .closed)
  | none => a.connections

/-- Only the state of the closed connection is another one. -/
lemma get?_retired (a : Acceptor) (id i : ConnectionId) :
    (a.retired id).get? i =
      if i = id then (a.connections.get? i).map (·.withState .closed)
      else a.connections.get? i := by
  unfold retired
  split
  · rename_i c hc
    rw [Table.get?_put]
    split
    · rename_i he
      simp [he, hc]
    · rfl
  · rename_i hnone
    split
    · rename_i he
      simp [he, hnone]
    · rfl

/-- An acceptor that ends the connection of an endpoint. -/
def dismissed (a : Acceptor) (peer : Endpoint) (p : Peer) (following : Option (List Endpoint)) :
    Acceptor :=
  { a with
      connections := a.retired p.id
      peers := a.peers.erase peer
      phase := .closing following }

/-- What is noted of the end of a connection. -/
def farewell (id : ConnectionId) : List Note :=
  [.measured (.closed .udp), .measured (.peers (-1)), .callback (.close id .closed)]

lemma remove_of_registered {peer : Endpoint} {p : Peer} (registered : a.peers.get? peer = some p)
    (following : Option (List Endpoint)) :
    a.remove peer following = (a.dismissed peer p following, farewell p.id) := by
  unfold remove
  rw [registered]
  rfl

lemma remove_of_unknown {peer : Endpoint} (unknown : a.peers.get? peer = none)
    (following : Option (List Endpoint)) : a.remove peer following = (a, []) := by
  unfold remove
  rw [unknown]

/-- An acceptor that tells of a datagram of an endpoint. -/
def told (a : Acceptor) (peer : Endpoint) (p : Peer) (datagram : Bytes) : Acceptor :=
  { a with
      peers := a.peers.put peer { p with received := p.received.push datagram }
      phase := .receiving peer }

/-- What is noted of a datagram. -/
def news (id : ConnectionId) (datagram : Bytes) : List Note :=
  [.measured (.received .udp datagram.length), .arrived id datagram, .callback (.receive id)]

lemma receive_of_registered {peer : Endpoint} {p : Peer}
    (registered : a.peers.get? peer = some p) (datagram : Bytes) :
    a.receive peer datagram = (a.told peer p datagram, news p.id datagram) := by
  unfold receive
  rw [registered]
  rfl

lemma receive_of_unknown {peer : Endpoint} (unknown : a.peers.get? peer = none)
    (datagram : Bytes) : a.receive peer datagram = (a, []) := by
  unfold receive
  rw [unknown]

/-- An acceptor that announces a new connection. -/
def met (a : Acceptor) (peer : Endpoint) (datagram : Bytes) : Acceptor :=
  { a with
      nextId := a.nextId.next
      connections := a.connections.put a.nextId
        { id := a.nextId, direction := .passive, identity := .anonymous, host := a.host, peer }
      peers := a.peers.put peer { id := a.nextId }
      phase := .accepting peer datagram }

/-- What can become of an acceptor that ends the connections of some endpoints. -/
inductive Closing (a : Acceptor) : List Endpoint → Noted Acceptor → Prop where
  /-- The first connection that is left is ended. -/
  | next (skipped : List Endpoint) (peer : Endpoint) (rest : List Endpoint) (p : Peer)
      (gone : ∀ e ∈ skipped, a.peers.get? e = none) (registered : a.peers.get? peer = some p) :
      Closing a (skipped ++ peer :: rest) (a.dismissed peer p (some rest), farewell p.id)
  /-- No connection is left. -/
  | finished (peers : List Endpoint) (gone : ∀ e ∈ peers, a.peers.get? e = none) :
      Closing a peers
        ({ a with
            queue := {}
            phase := .idle
            task := if a.task = .ending then .ended else a.task
            mailbox := if a.task = .ending then .abandoned else a.mailbox }, [])

lemma closing_closeAll (a : Acceptor) (peers : List Endpoint) :
    Closing a peers (a.closeAll peers) := by
  induction peers with
  | nil =>
    have h := Closing.finished (a := a) [] (by simp)
    simpa [closeAll] using h
  | cons peer rest ih =>
    unfold closeAll
    cases hp : a.peers.get? peer with
    | some p =>
      rw [if_pos (by simp [idOf?, hp]), remove_of_registered hp]
      exact .next [] peer rest p (by simp) hp
    | none =>
      rw [if_neg (by simp [idOf?, hp])]
      generalize a.closeAll rest = r at ih
      cases ih with
      | next skipped peer' rest' p gone registered =>
        exact .next (peer :: skipped) peer' rest' p (by simpa [hp] using gone) registered
      | finished _ gone => exact .finished (peer :: rest) (by simpa [hp] using gone)

/-! ### The rules -/

/-- Why an acceptor's task ends, and what is left in its mailbox then. -/
inductive Quits (a : Acceptor) : Event → Mailbox AcceptorCommand → Prop where
  /-- It was asked to stop. -/
  | asked (rest : List AcceptorCommand) (waits : a.waits = true)
      (posted : a.mailbox.posted = .stop :: rest) :
      Quits a .command { a.mailbox with posted := rest }
  /-- Its loop drops it. -/
  | dropped (waits : a.waits = true) : Quits a .abort a.mailbox
  /-- Its socket failed, which the service was told of. -/
  | failed (keep : Bool) (phase : a.phase = .reporting true) : Quits a (.returned keep) a.mailbox

/-- What an acceptor can do on an event. -/
inductive Move (a : Acceptor) : Event → Noted Acceptor → Prop where
  /-- Nothing happens. -/
  | stay (e : Event) : Move a e (a, [])
  /-- A datagram is accepted for sending. -/
  | post (id : ConnectionId) (c : UdpConnection) (data : Bytes)
      (connection : a.connections.get? id = some c) (running : c.isRunning = true)
      (isOpen : a.mailbox.isOpen = true) :
      Move a (.request id (.chunk data))
        ({ a with
            mailbox := { a.mailbox with posted := a.mailbox.posted ++ [.send c.peer id data] } },
          [.posted id data])
  /-- The end of a connection is asked for. -/
  | postClose (id : ConnectionId) (c : UdpConnection)
      (connection : a.connections.get? id = some c) (isOpen : a.mailbox.isOpen = true) :
      Move a (.requestClose id)
        ({ a with mailbox := { a.mailbox with posted := a.mailbox.posted ++ [.close c.peer id] } },
          [])
  /-- The end of the acceptor is asked for. -/
  | postStop (isOpen : a.mailbox.isOpen = true) :
      Move a .requestStop
        ({ a with mailbox := { a.mailbox with posted := a.mailbox.posted ++ [.stop] } }, [])
  /-- A posted datagram joins the queue. -/
  | enqueue (peer : Endpoint) (data : Bytes) (rest : List AcceptorCommand) (p : Peer)
      (waits : a.waits = true) (posted : a.mailbox.posted = .send peer p.id data :: rest)
      (registered : a.peers.get? peer = some p) :
      Move a .command
        ({ a with
            mailbox := { a.mailbox with posted := rest }
            peers := a.peers.put peer { p with pending := p.pending + 1 }
            queue := a.queue.push ⟨peer, p.id, data⟩ }, [.queued p.id data])
  /-- A posted datagram is of a connection that is gone. -/
  | ignoreSend (peer : Endpoint) (id : ConnectionId) (data : Bytes) (rest : List AcceptorCommand)
      (waits : a.waits = true) (posted : a.mailbox.posted = .send peer id data :: rest)
      (stale : a.idOf? peer ≠ some id) :
      Move a .command ({ a with mailbox := { a.mailbox with posted := rest } }, [])
  /-- A connection is ended because it was asked for. -/
  | obey (peer : Endpoint) (rest : List AcceptorCommand) (p : Peer) (waits : a.waits = true)
      (posted : a.mailbox.posted = .close peer p.id :: rest)
      (registered : a.peers.get? peer = some p) :
      Move a .command
        (({ a with mailbox := { a.mailbox with posted := rest } } : Acceptor).dismissed peer p none,
          farewell p.id)
  /-- The connection that is to be ended is gone. -/
  | ignoreClose (peer : Endpoint) (id : ConnectionId) (rest : List AcceptorCommand)
      (waits : a.waits = true) (posted : a.mailbox.posted = .close peer id :: rest)
      (stale : a.idOf? peer ≠ some id) :
      Move a .command ({ a with mailbox := { a.mailbox with posted := rest } }, [])
  /-- A datagram of a known endpoint comes in. -/
  | tell (peer : Endpoint) (datagram : Bytes) (p : Peer) (waits : a.waits = true)
      (unasked : a.mailbox.posted = []) (registered : a.peers.get? peer = some p) :
      Move a (.arrive peer datagram)
        (a.told peer p (datagram.take a.maxDatagram), news p.id (datagram.take a.maxDatagram))
  /-- A datagram of an unknown endpoint comes in. -/
  | meet (peer : Endpoint) (datagram : Bytes) (waits : a.waits = true)
      (unasked : a.mailbox.posted = []) (unknown : a.peers.get? peer = none) :
      Move a (.arrive peer datagram)
        (a.met peer (datagram.take a.maxDatagram),
          [.tracked 1, .measured (.opened .udp .passive), .measured (.peers 1),
            .callback (.accept a.nextId a.port)])
  /-- Receiving failed and the service is told. -/
  | report (e : SystemError) (waits : a.waits = true) (unasked : a.mailbox.posted = []) :
      Move a (.receiveFailed e)
        ({ a with phase := .reporting (!isPeerFault e) },
          [.callback (.error "acceptor" "recv" e.code e.message)])
  /-- The last queued datagram of a connection is sent and the service is told. -/
  | sendLast (out : Outgoing) (p : Peer) (waits : a.waits = true) (unasked : a.mailbox.posted = [])
      (front : a.queue.front? = some out) (registered : a.peers.get? out.peer = some p)
      (same : p.id = out.id) (last : p.pending - 1 = 0) :
      Move a (.sendDone (.ok ()))
        ({ a with
            queue := a.queue.pop
            peers := a.peers.put out.peer { p with pending := p.pending - 1 }
            phase := .drained out.peer },
          [.measured (.sent .udp out.data.length), .left out.id out.data, .callback (.sent p.id)])
  /-- A datagram of a connection is sent that has more in the queue. -/
  | sendOne (out : Outgoing) (p : Peer) (waits : a.waits = true) (unasked : a.mailbox.posted = [])
      (front : a.queue.front? = some out) (registered : a.peers.get? out.peer = some p)
      (same : p.id = out.id) (more : p.pending - 1 ≠ 0) :
      Move a (.sendDone (.ok ()))
        ({ a with
            queue := a.queue.pop
            peers := a.peers.put out.peer { p with pending := p.pending - 1 } },
          [.measured (.sent .udp out.data.length), .left out.id out.data])
  /-- A datagram of a connection is sent that is gone. -/
  | sendStale (out : Outgoing) (waits : a.waits = true) (unasked : a.mailbox.posted = [])
      (front : a.queue.front? = some out) (stale : a.idOf? out.peer ≠ some out.id) :
      Move a (.sendDone (.ok ()))
        ({ a with queue := a.queue.pop },
          [.measured (.sent .udp out.data.length), .left out.id out.data])
  /-- A datagram cannot be sent, which ends its connection. -/
  | lose (source : SystemError) (out : Outgoing) (p : Peer) (waits : a.waits = true)
      (unasked : a.mailbox.posted = []) (front : a.queue.front? = some out)
      (registered : a.peers.get? out.peer = some p) (same : p.id = out.id) :
      Move a (.sendDone (.error source))
        (({ a with queue := a.queue.pop } : Acceptor).dismissed out.peer p none,
          .lost out.id out.data :: farewell p.id)
  /-- A datagram of a connection that is gone cannot be sent. -/
  | loseStale (source : SystemError) (out : Outgoing) (waits : a.waits = true)
      (unasked : a.mailbox.posted = []) (front : a.queue.front? = some out)
      (stale : a.idOf? out.peer ≠ some out.id) :
      Move a (.sendDone (.error source)) ({ a with queue := a.queue.pop }, [.lost out.id out.data])
  /-- The service wants the new connection and is told of its first datagram. -/
  | welcome (peer : Endpoint) (datagram : Bytes) (p : Peer)
      (phase : a.phase = .accepting peer datagram) (registered : a.peers.get? peer = some p) :
      Move a (.returned true) (a.told peer p datagram, news p.id datagram)
  /-- The service does not want a connection, or does not want to go on with it. -/
  | refuse (peer : Endpoint) (p : Peer)
      (phase : (∃ datagram, a.phase = .accepting peer datagram) ∨ a.phase = .receiving peer ∨
        a.phase = .drained peer)
      (registered : a.peers.get? peer = some p) :
      Move a (.returned false) (a.dismissed peer p none, farewell p.id)
  /-- The service goes on with a connection. -/
  | keep (peer : Endpoint) (phase : a.phase = .receiving peer ∨ a.phase = .drained peer) :
      Move a (.returned true) ({ a with phase := .idle }, [])
  /-- The service took note of the end of a connection. -/
  | part (keep : Bool) (phase : a.phase = .closing none) :
      Move a (.returned keep) ({ a with phase := .idle }, [.tracked (-1)])
  /-- The service took note of the end of a connection, and others are to be ended. -/
  | goOn (keep : Bool) (rest : List Endpoint) (r : Noted Acceptor)
      (phase : a.phase = .closing (some rest))
      (closing : Closing { a with phase := .idle } rest r) :
      Move a (.returned keep) (r.1, .tracked (-1) :: r.2)
  /-- The service was told of a failure that leaves the socket usable. -/
  | recover (keep : Bool) (phase : a.phase = .reporting false) :
      Move a (.returned keep) ({ a with phase := .idle }, [])
  /-- The task releases its socket and starts to end its connections. -/
  | quit (e : Event) (mailbox : Mailbox AcceptorCommand) (r : Noted Acceptor)
      (why : Quits a e mailbox) (first : a.stopped = false)
      (closing : Closing
        { a with phase := .idle, mailbox, task := .ending, stopped := true, socketOpen := false }
        a.peers.keys r) :
      Move a e (r.1, .released :: r.2)
  /-- A task that was stopped before is over at once. -/
  | vanish (e : Event) (mailbox : Mailbox AcceptorCommand) (why : Quits a e mailbox)
      (again : a.stopped = true) :
      Move a e
        ({ a with phase := .idle, task := .ended, mailbox := .abandoned, peers := [] },
          a.peers.map fun _ => .tracked (-1))
  /-- The service removes the oldest datagram of the connection it is told about. -/
  | remove (e : Event) (peer : Endpoint) (p : Peer) (datagram : Bytes) (rest : List Bytes)
      (phase : a.phase = .receiving peer) (registered : a.peers.get? peer = some p)
      (front : p.received.datagrams = datagram :: rest)
      (how : e = .pop ∨ e = .dropFront datagram.length) :
      Move a e
        ({ a with peers := a.peers.put peer { p with received := ⟨rest⟩ } },
          [.removed p.id datagram])

/-! ### The list is complete -/

/-- An acceptor that waits is idle, and its task runs. -/
lemma idle_of_waits (h : a.waits = true) : a.phase = .idle ∧ a.task = .running := by
  simpa [waits] using h

/-- An acceptor that is idle does not have to become it. -/
lemma withIdle (h : a.phase = .idle) : ({ a with phase := .idle } : Acceptor) = a := by
  cases a
  simp_all

lemma move_request (a : Acceptor) (id : ConnectionId) (r : SendRequest) :
    Move a (.request id r) (a.request id r).2 := by
  unfold request connection?
  cases connection : a.connections.get? id with
  | none => exact .stay _
  | some c =>
    cases r with
    | answered granted => exact .stay _
    | chunk data =>
      cases running : c.isRunning with
      | false =>
        simp only [UdpConnection.screen, running]
        exact .stay _
      | true =>
        simp only [UdpConnection.screen, running, if_true]
        cases isOpen : a.mailbox.isOpen with
        | true => simpa [Mailbox.post, isOpen] using Move.post id c data connection running isOpen
        | false => simpa [Mailbox.post, isOpen] using Move.stay (a := a) _

lemma move_requestClose (a : Acceptor) (id : ConnectionId) :
    Move a (.requestClose id) (a.requestClose id, []) := by
  unfold requestClose connection?
  cases connection : a.connections.get? id with
  | none => exact .stay _
  | some c =>
    cases isOpen : a.mailbox.isOpen with
    | true => simpa [Mailbox.post, isOpen] using Move.postClose id c connection isOpen
    | false => simpa [Mailbox.post, isOpen] using Move.stay (a := a) _

lemma move_endTask {e : Event} {mailbox : Mailbox AcceptorCommand} (why : Quits a e mailbox) :
    Move a e ({ a with phase := .idle, mailbox } : Acceptor).endTask := by
  unfold endTask
  split
  · rename_i again
    exact .vanish e mailbox why again
  · rename_i first
    have hfirst : a.stopped = false := Bool.eq_false_iff.mpr first
    simp only [stop, hfirst, Noted.andThen]
    exact .quit e mailbox _ why hfirst (closing_closeAll _ _)

lemma move_takeCommand (waits : a.waits = true) : Move a .command a.takeCommand := by
  have hidle := (idle_of_waits waits).1
  unfold takeCommand Mailbox.take?
  rcases posted : a.mailbox.posted with _ | ⟨⟨peer, id, data⟩ | ⟨peer, id⟩ | _, rest⟩
  · exact .stay _
  · dsimp only
    unfold enqueue
    cases registered : a.peers.get? peer with
    | none => exact .ignoreSend peer id data rest waits posted (by simp [idOf?, registered])
    | some p =>
      dsimp only
      split
      · rename_i same
        subst same
        exact .enqueue peer data rest p waits posted registered
      · rename_i hother
        exact .ignoreSend peer id data rest waits posted (by simpa [idOf?, registered] using hother)
  · dsimp only
    split
    · rename_i same
      obtain ⟨p, registered, rfl⟩ := Option.map_eq_some_iff.mp same
      rw [remove_of_registered registered]
      exact .obey peer rest p waits posted registered
    · rename_i hother
      exact .ignoreClose peer id rest waits posted hother
  · have h := move_endTask (.asked rest waits posted)
    rw [← hidle] at h
    exact h

lemma move_deliver {peer : Endpoint} {datagram : Bytes} (waits : a.waits = true)
    (unasked : a.mailbox.posted = []) :
    Move a (.arrive peer datagram) (a.deliver peer (datagram.take a.maxDatagram)) := by
  unfold deliver
  cases registered : a.peers.get? peer with
  | some p =>
    dsimp only
    rw [receive_of_registered registered]
    exact .tell peer datagram p waits unasked registered
  | none => exact .meet peer datagram waits unasked registered

lemma move_sent {outcome : Except SystemError Unit} (waits : a.waits = true)
    (unasked : a.mailbox.posted = []) : Move a (.sendDone outcome) (a.sent outcome) := by
  unfold sent
  cases front : a.queue.front? with
  | none => exact .stay _
  | some out =>
    cases outcome with
    | ok =>
      dsimp only
      cases registered : a.peers.get? out.peer with
      | none => exact .sendStale out waits unasked front (by simp [idOf?, registered])
      | some p =>
        dsimp only
        split
        · rename_i same
          split
          · rename_i last
            exact .sendLast out p waits unasked front registered same last
          · rename_i more
            exact .sendOne out p waits unasked front registered same more
        · rename_i hother
          exact .sendStale out waits unasked front (by simpa [idOf?, registered] using hother)
    | error source =>
      simp only [Noted.andThen]
      split
      · rename_i same
        obtain ⟨p, registered, hsame⟩ := Option.map_eq_some_iff.mp same
        rw [remove_of_registered registered]
        exact .lose source out p waits unasked front registered hsame
      · rename_i stale
        exact .loseStale source out waits unasked front stale

lemma move_returned (a : Acceptor) (keep : Bool) : Move a (.returned keep) (a.returned keep) := by
  -- a connection that nobody knows any more is nobody's to end
  have hrefuse (peer : Endpoint)
      (phase : (∃ datagram, a.phase = .accepting peer datagram) ∨ a.phase = .receiving peer ∨
        a.phase = .drained peer) : Move a (.returned false) (a.remove peer none) := by
    cases registered : a.peers.get? peer with
    | some p =>
      rw [remove_of_registered registered]
      exact .refuse peer p phase registered
    | none =>
      rw [remove_of_unknown registered]
      exact .stay _
  unfold returned
  split
  · exact .stay _
  · rename_i peer datagram phase
    cases keep with
    | false => exact hrefuse peer (.inl ⟨datagram, phase⟩)
    | true =>
      cases registered : a.peers.get? peer with
      | some p =>
        rw [if_pos rfl, receive_of_registered registered]
        exact .welcome peer datagram p phase registered
      | none =>
        rw [if_pos rfl, receive_of_unknown registered]
        exact .stay _
  · rename_i peer phase
    cases keep with
    | false => exact hrefuse peer (.inr (.inl phase))
    | true => exact .keep peer (.inl phase)
  · rename_i peer phase
    cases keep with
    | false => exact hrefuse peer (.inr (.inr phase))
    | true => exact .keep peer (.inr phase)
  · rename_i following phase
    simp only [Noted.andThen]
    cases following with
    | none => exact .part keep phase
    | some rest => exact .goOn keep rest _ phase (closing_closeAll _ rest)
  · rename_i fatal phase
    cases fatal with
    | true => exact move_endTask (.failed keep phase)
    | false => exact .recover keep phase

/-- The service may look at the datagrams of the connection it is told about. -/
lemma context?_eq_some_iff {peer : Endpoint} {p : Peer} :
    a.context? = some (peer, p) ↔ a.phase = .receiving peer ∧ a.peers.get? peer = some p := by
  unfold context?
  cases phase : a.phase with
  | receiving peer' =>
    simp only [Option.map_eq_some_iff, Prod.mk.injEq, AcceptorPhase.receiving.injEq]
    constructor
    · rintro ⟨p', hp, rfl, rfl⟩
      exact ⟨rfl, hp⟩
    · rintro ⟨rfl, hp⟩
      exact ⟨p, hp, rfl, rfl⟩
  | _ => simp

lemma move_pop (a : Acceptor) : Move a .pop a.pop.2 := by
  unfold pop
  cases hcontext : a.context? with
  | none => exact .stay _
  | some found =>
    obtain ⟨peer, p⟩ := found
    obtain ⟨phase, registered⟩ := context?_eq_some_iff.mp hcontext
    rcases front : p.received.datagrams with _ | ⟨datagram, rest⟩
    · simp only [DatagramQueue.pop?, front]
      exact .stay _
    · simp only [DatagramQueue.pop?, front]
      exact .remove .pop peer p datagram rest phase registered front (.inl rfl)

lemma move_dropFront (a : Acceptor) (length : Nat) :
    Move a (.dropFront length) (a.dropFront length).2 := by
  unfold dropFront
  cases hcontext : a.context? with
  | none => exact .stay _
  | some found =>
    obtain ⟨peer, p⟩ := found
    obtain ⟨phase, registered⟩ := context?_eq_some_iff.mp hcontext
    rcases front : p.received.datagrams with _ | ⟨datagram, rest⟩
    · simp only [DatagramQueue.dropFront?, front]
      exact .stay _
    · by_cases hlength : datagram.length = length
      · subst hlength
        simp only [DatagramQueue.dropFront?, front, if_true, DatagramQueue.front, List.head?_cons,
          Option.getD_some]
        exact .remove _ peer p datagram rest phase registered front (.inr rfl)
      · simp only [DatagramQueue.dropFront?, front, if_neg hlength]
        exact .stay _

/-- Every step is one of the moves. -/
theorem move_step (a : Acceptor) (e : Event) : Move a e (a.step e) := by
  cases e with
  | request id r => exact a.move_request id r
  | requestClose id => exact a.move_requestClose id
  | requestStop =>
    cases isOpen : a.mailbox.isOpen with
    | true => simpa [step, requestStop, Mailbox.post, isOpen] using Move.postStop isOpen
    | false => simpa [step, requestStop, Mailbox.post, isOpen] using Move.stay (a := a) _
  | command =>
    simp only [step]
    split
    · exact move_takeCommand ‹_›
    · exact .stay _
  | arrive peer datagram =>
    simp only [step]
    split
    · rename_i ready
      obtain ⟨waits, unasked⟩ := Bool.and_eq_true_iff.mp ready
      exact move_deliver waits (List.isEmpty_iff.mp unasked)
    · exact .stay _
  | receiveFailed e =>
    simp only [step]
    split
    · rename_i ready
      obtain ⟨waits, unasked⟩ := Bool.and_eq_true_iff.mp ready
      exact .report e waits (List.isEmpty_iff.mp unasked)
    · exact .stay _
  | sendDone outcome =>
    simp only [step]
    split
    · rename_i ready
      obtain ⟨waits, unasked⟩ := Bool.and_eq_true_iff.mp ready
      exact move_sent waits (List.isEmpty_iff.mp unasked)
    · exact .stay _
  | pop => exact a.move_pop
  | dropFront length => exact a.move_dropFront length
  | returned keep => exact a.move_returned keep
  | abort =>
    simp only [step]
    split
    · rename_i waits
      have h := move_endTask (.dropped waits)
      rw [withIdle (idle_of_waits waits).1] at h
      exact h
    · exact .stay _

end Acceptor

end Switchboard
