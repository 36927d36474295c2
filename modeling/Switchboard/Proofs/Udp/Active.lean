import Mathlib.Tactic.Common
import Switchboard.Proofs.History
import Switchboard.Udp.Driver

/-!
# The calls of an active datagram connection

The driver of an active datagram connection answers any event in any phase.  `UdpDriver.Move` lists
what it can do, and `UdpDriver.Ends` why it ends; each of the ways out comes through
`UdpDriver.leave`, which announces the end and leads to a phase that no step leads back from.

So the service is called in order over the whole life of a driver (`UdpDriver.life_run`), and what
the handles see of the state says whether it is over (`UdpDriver.Coherent`).
-/

namespace Switchboard

/-- Whether the end of the connection was announced. -/
def UdpPhase.isOver : UdpPhase → Bool
  | closing | done => true
  | _ => false

namespace UdpDriver

variable {d : UdpDriver}

/-! ### The rules -/

/-- Why a driver ends, and the driver that leaves. -/
inductive Ends (d : UdpDriver) : Event → UdpDriver → Prop where
  /-- The service does not want to go on. -/
  | refused (phase : d.phase = .opening ∨ d.phase = .receiving ∨ d.phase = .drained) :
      Ends d (.returned false) d
  /-- It was asked to close. -/
  | asked (rest : List UdpCommand) (phase : d.phase = .waiting)
      (posted : d.mailbox.posted = .close :: rest) :
      Ends d .command { d with mailbox := { d.mailbox with posted := rest } }
  /-- Receiving failed, for whatever reason. -/
  | failed (e : SystemError) (phase : d.phase = .waiting) (unasked : d.mailbox.posted = []) :
      Ends d (.receiveFailed e) d
  /-- A datagram could not be sent. -/
  | lost (source : SystemError) (data : Bytes) (phase : d.phase = .waiting)
      (unasked : d.mailbox.posted = []) (front : d.queue.front? = some data) :
      Ends d (.sendDone (.error source)) d
  /-- Its loop drops it. -/
  | dropped (phase : d.phase = .waiting) : Ends d .abort d

/-- What a driver can do on an event. -/
inductive Move (d : UdpDriver) : Event → Noted UdpDriver → Prop where
  /-- Nothing happens. -/
  | stay (e : Event) : Move d e (d, [])
  /-- A datagram is accepted for sending. -/
  | post (data : Bytes) (running : d.connection.isRunning = true)
      (isOpen : d.mailbox.isOpen = true) :
      Move d (.request (.chunk data))
        ({ d with mailbox := { d.mailbox with posted := d.mailbox.posted ++ [.send data] } },
          [.posted d.id data])
  /-- The end is asked for. -/
  | postClose (isOpen : d.mailbox.isOpen = true) :
      Move d .requestClose
        ({ d with mailbox := { d.mailbox with posted := d.mailbox.posted ++ [.close] } }, [])
  /-- The connection is announced. -/
  | announce (phase : d.phase = .fresh) :
      Move d .start
        ({ d with phase := .opening },
          [.measured (.opened .udp .active),
            .callback (.connect (some d.id) d.connection.identity)])
  /-- A posted datagram joins the queue. -/
  | enqueue (data : Bytes) (rest : List UdpCommand) (phase : d.phase = .waiting)
      (posted : d.mailbox.posted = .send data :: rest) :
      Move d .command
        ({ d with mailbox := { d.mailbox with posted := rest }, queue := d.queue.push data },
          [.queued d.id data])
  /-- A datagram comes in. -/
  | tell (datagram : Bytes) (phase : d.phase = .waiting) (unasked : d.mailbox.posted = []) :
      Move d (.arrive datagram) (d.receive (datagram.take d.maxDatagram))
  /-- The last queued datagram is sent and the service is told. -/
  | sendLast (data : Bytes) (phase : d.phase = .waiting) (unasked : d.mailbox.posted = [])
      (front : d.queue.front? = some data) (last : d.queue.pop.isEmpty = true) :
      Move d (.sendDone (.ok ()))
        ({ d with queue := d.queue.pop, phase := .drained },
          [.measured (.sent .udp data.length), .left d.id data, .callback (.sent d.id)])
  /-- A datagram is sent, and more are queued. -/
  | sendOne (data : Bytes) (phase : d.phase = .waiting) (unasked : d.mailbox.posted = [])
      (front : d.queue.front? = some data) (more : d.queue.pop.isEmpty = false) :
      Move d (.sendDone (.ok ()))
        ({ d with queue := d.queue.pop }, [.measured (.sent .udp data.length), .left d.id data])
  /-- The service goes on. -/
  | keep (phase : d.phase = .opening ∨ d.phase = .receiving ∨ d.phase = .drained) :
      Move d (.returned true) ({ d with phase := .waiting }, [])
  /-- The driver ends and says so. -/
  | leave (e : Event) (d' : UdpDriver) (why : Ends d e d') : Move d e d'.leave
  /-- The service took note of the end. -/
  | part (keep : Bool) (phase : d.phase = .closing) :
      Move d (.returned keep) ({ d with phase := .done, mailbox := .abandoned }, [.tracked (-1)])
  /-- The driver is dropped before it was started. -/
  | discard (phase : d.phase = .fresh) : Move d .abort d.finish
  /-- The service removes the oldest datagram. -/
  | remove (e : Event) (datagram : Bytes) (rest : List Bytes) (phase : d.phase = .receiving)
      (front : d.received.datagrams = datagram :: rest)
      (how : e = .pop ∨ e = .dropFront datagram.length) :
      Move d e ({ d with received := ⟨rest⟩ }, [.removed d.id datagram])

/-! ### The list is complete -/

/-- A driver that listens waits, and nothing is asked of it. -/
lemma listens_iff : d.listens = true ↔ d.phase = .waiting ∧ d.mailbox.posted = [] := by
  simp [listens]

lemma move_request (d : UdpDriver) (r : SendRequest) : Move d (.request r) (d.request r).2 := by
  cases r with
  | answered granted => exact .stay _
  | chunk data =>
    unfold request
    cases running : d.connection.isRunning with
    | false =>
      simp only [UdpConnection.screen, running]
      exact .stay _
    | true =>
      simp only [UdpConnection.screen, running, if_true]
      cases isOpen : d.mailbox.isOpen with
      | true => simpa [Mailbox.post, isOpen] using Move.post data running isOpen
      | false => simpa [Mailbox.post, isOpen] using Move.stay (d := d) _

lemma move_takeCommand (phase : d.phase = .waiting) : Move d .command d.takeCommand := by
  unfold takeCommand Mailbox.take?
  cases posted : d.mailbox.posted with
  | nil => exact .stay _
  | cons command rest =>
    cases command with
    | send data => exact .enqueue data rest phase posted
    | close => exact .leave _ _ (.asked rest phase posted)

lemma move_sent {outcome : Except SystemError Unit} (phase : d.phase = .waiting)
    (unasked : d.mailbox.posted = []) : Move d (.sendDone outcome) (d.sent outcome) := by
  unfold sent
  cases front : d.queue.front? with
  | none => exact .stay _
  | some data =>
    cases outcome with
    | error source => exact .leave _ _ (.lost source data phase unasked front)
    | ok =>
      by_cases last : d.queue.pop.isEmpty = true
      · simp only [if_pos last]
        exact .sendLast data phase unasked front last
      · simp only [if_neg last]
        exact .sendOne data phase unasked front (Bool.eq_false_iff.mpr last)

lemma move_returned (d : UdpDriver) (keep : Bool) :
    Move d (.returned keep) (d.returned keep) := by
  have hgo (phase : d.phase = .opening ∨ d.phase = .receiving ∨ d.phase = .drained) :
      Move d (.returned keep)
        (if keep then ({ d with phase := .waiting }, []) else d.leave) := by
    cases keep with
    | true => exact .keep phase
    | false => exact .leave _ _ (.refused phase)
  unfold returned
  cases phase : d.phase with
  | opening => exact hgo (.inl phase)
  | receiving => exact hgo (.inr (.inl phase))
  | drained => exact hgo (.inr (.inr phase))
  | closing => exact .part keep phase
  | fresh | waiting | done => exact .stay _

lemma move_pop (d : UdpDriver) : Move d .pop d.pop.2 := by
  unfold pop
  split
  · rename_i phase
    rcases front : d.received.datagrams with _ | ⟨datagram, rest⟩
    · simp only [DatagramQueue.pop?, front]
      exact .stay _
    · simp only [DatagramQueue.pop?, front]
      exact .remove .pop datagram rest phase front (.inl rfl)
  · exact .stay _

lemma move_dropFront (d : UdpDriver) (length : Nat) :
    Move d (.dropFront length) (d.dropFront length).2 := by
  unfold dropFront
  split
  · rename_i phase
    rcases front : d.received.datagrams with _ | ⟨datagram, rest⟩
    · simp only [DatagramQueue.dropFront?, front]
      exact .stay _
    · by_cases hlength : datagram.length = length
      · subst hlength
        simp only [DatagramQueue.dropFront?, front, if_true, DatagramQueue.front, List.head?_cons,
          Option.getD_some]
        exact .remove _ datagram rest phase front (.inr rfl)
      · simp only [DatagramQueue.dropFront?, front, if_neg hlength]
        exact .stay _
  · exact .stay _

/-- Every step is one of the moves. -/
theorem move_step (d : UdpDriver) (e : Event) : Move d e (d.step e) := by
  cases e with
  | request r => exact d.move_request r
  | requestClose =>
    cases isOpen : d.mailbox.isOpen with
    | true => simpa [step, requestClose, Mailbox.post, isOpen] using Move.postClose isOpen
    | false => simpa [step, requestClose, Mailbox.post, isOpen] using Move.stay (d := d) _
  | start =>
    simp only [step, start]
    split
    · exact .announce ‹_›
    · exact .stay _
  | command =>
    simp only [step]
    split
    · exact move_takeCommand ‹_›
    · exact .stay _
  | arrive datagram =>
    simp only [step]
    split
    · obtain ⟨phase, unasked⟩ := listens_iff.mp ‹_›
      exact .tell datagram phase unasked
    · exact .stay _
  | receiveFailed e =>
    simp only [step]
    split
    · obtain ⟨phase, unasked⟩ := listens_iff.mp ‹_›
      exact .leave _ _ (.failed e phase unasked)
    · exact .stay _
  | sendDone outcome =>
    simp only [step]
    split
    · obtain ⟨phase, unasked⟩ := listens_iff.mp ‹_›
      exact move_sent phase unasked
    · exact .stay _
  | pop => exact d.move_pop
  | dropFront length => exact d.move_dropFront length
  | returned keep => exact d.move_returned keep
  | abort =>
    simp only [step, abort]
    cases phase : d.phase with
    | fresh => exact .discard phase
    | waiting => exact .leave _ _ (.dropped phase)
    | _ => exact .stay _

/-! ### The state that the handles see -/

/-- The state of the connection of a started driver says whether its end was announced. -/
structure Coherent (d : UdpDriver) : Prop where
  /-- The driver was started. -/
  started : d.phase ≠ .fresh
  /-- The connection runs until its end is announced. -/
  state : d.connection.state = if d.phase.isOver then .closed else .running

/-- A driver that ends is not over yet, and it is the one that leaves but for its mailbox. -/
lemma Ends.running {e : Event} {d' : UdpDriver} (why : Ends d e d') :
    d.phase.isOver = false ∧ d'.id = d.id := by
  cases why with
  | refused phase => rcases phase with phase | phase | phase <;> exact ⟨by rw [phase]; rfl, rfl⟩
  | asked rest phase | failed e phase | lost source data phase | dropped phase =>
    exact ⟨by rw [phase]; rfl, rfl⟩

/-- What becomes of the calls about a connection in one step. -/
inductive Goes (d : UdpDriver) : Noted UdpDriver → Prop where
  /-- Nobody is called, and it is over if it was so. -/
  | silent {r : Noted UdpDriver} (same : r.1.phase.isOver = d.phase.isOver)
      (none : Note.callbacks r.2 = []) : Goes d r
  /-- Its service is told of data. -/
  | tells {r : Noted UdpDriver} {call : Callback} (told : call.tells d.id)
      (before : d.phase.isOver = false) (after : r.1.phase.isOver = false)
      (one : Note.callbacks r.2 = [call]) : Goes d r
  /-- It is ended. -/
  | ends {r : Noted UdpDriver} (before : d.phase.isOver = false) (after : r.1.phase.isOver = true)
      (one : Note.callbacks r.2 = [.close d.id .closed]) : Goes d r

/-- A started driver calls the service at most once in a step. -/
lemma goes_step (hstarted : d.phase ≠ .fresh) (e : Event) : d.Goes (d.step e) := by
  have hmove := d.move_step e
  generalize d.step e = r at hmove
  cases hmove with
  | stay | post | postClose | enqueue | sendOne | remove => exact .silent rfl rfl
  | announce phase | discard phase => exact absurd phase hstarted
  | tell datagram phase => exact .tells (.inl rfl) (by rw [phase]; rfl) rfl rfl
  | sendLast data phase => exact .tells (.inr rfl) (by rw [phase]; rfl) rfl rfl
  | keep phase =>
    refine .silent ?_ rfl
    rcases phase with phase | phase | phase <;> rw [phase] <;> rfl
  | leave e d' why =>
    obtain ⟨hrunning, hid⟩ := why.running
    exact .ends hrunning rfl (by rw [← hid]; rfl)
  | part keep phase => exact .silent (by rw [phase]; rfl) rfl

/-- A step that tells the service of an end tells of the driver's own, and the driver is over. -/
lemma over_of_close (hstarted : d.phase ≠ .fresh) {e : Event} {id : ConnectionId}
    {state : ConnectionState} (hclose : .close id state ∈ Note.callbacks (d.step e).2) :
    id = d.id ∧ state = .closed ∧ (d.step e).1.phase.isOver = true := by
  have hgoes := goes_step hstarted e
  generalize d.step e = r at hgoes hclose
  cases hgoes with
  | silent same none => simp [none] at hclose
  | tells told before after one => rcases told with rfl | rfl <;> simp [one] at hclose
  | ends before after one =>
    rw [one, List.mem_singleton] at hclose
    cases hclose
    exact ⟨rfl, rfl, after⟩

/-- A started driver stays coherent. -/
lemma Coherent.step (h : d.Coherent) (e : Event) : (d.step e).1.Coherent := by
  have hstate {phase : UdpPhase} (hsame : d.phase.isOver = phase.isOver) :
      d.connection.state = if phase.isOver then .closed else .running := hsame ▸ h.state
  have hmove := d.move_step e
  generalize d.step e = r at hmove
  cases hmove with
  | stay | post | postClose | enqueue | sendOne | remove => exact ⟨h.started, h.state⟩
  | announce phase | discard phase => exact absurd phase h.started
  | tell datagram phase => exact ⟨by simp [receive], hstate (by rw [phase]; rfl)⟩
  | sendLast data phase => exact ⟨by simp, hstate (by rw [phase]; rfl)⟩
  | keep phase =>
    refine ⟨by simp, hstate ?_⟩
    rcases phase with phase | phase | phase <;> rw [phase] <;> rfl
  | leave e d' why => exact ⟨by simp [UdpDriver.leave, finish], rfl⟩
  | part keep phase => exact ⟨by simp, hstate (by rw [phase]; rfl)⟩

/-- The connection of a driver stays the same but for its state. -/
lemma id_step (d : UdpDriver) (e : Event) :
    (d.step e).1.id = d.id ∧ (d.step e).1.connection.identity = d.connection.identity := by
  have hmove := d.move_step e
  generalize d.step e = r at hmove
  cases hmove with
  | leave e d' why => cases why <;> exact ⟨rfl, rfl⟩
  | _ => exact ⟨rfl, rfl⟩

/-! ### Runs -/

/-- A run is an iteration of steps. -/
lemma run_eq_iterate (d : UdpDriver) (es : List Event) : d.run es = Noted.iterate step d es := by
  induction es generalizing d with
  | nil => rfl
  | cons e es ih => simp [run, Noted.iterate, Noted.andThen, ih]

/-- A run over two sequences is the run over the first, gone on with the second. -/
lemma run_append (d : UdpDriver) (es fs : List Event) :
    d.run (es ++ fs) = (d.run es).andThen fun d => d.run fs := by
  simp only [run_eq_iterate]
  exact Noted.iterate_append step d es fs

/-- A run with one more event. -/
lemma run_concat (d : UdpDriver) (es : List Event) (e : Event) :
    d.run (es ++ [e]) = (((d.run es).1.step e).1, (d.run es).2 ++ ((d.run es).1.step e).2) := by
  simp only [run_eq_iterate]
  exact Noted.iterate_concat step d es e

lemma id_run (d : UdpDriver) (es : List Event) :
    (d.run es).1.id = d.id ∧ (d.run es).1.connection.identity = d.connection.identity := by
  induction es using List.reverseRecOn with
  | nil => exact ⟨rfl, rfl⟩
  | append_singleton es e ih =>
    obtain ⟨hid, hidentity⟩ := (d.run es).1.id_step e
    rw [run_concat]
    exact ⟨hid.trans ih.1, hidentity.trans ih.2⟩

theorem Coherent.run (h : d.Coherent) (es : List Event) : (d.run es).1.Coherent := by
  induction es using List.reverseRecOn with
  | nil => exact h
  | append_singleton es e ih =>
    rw [run_concat]
    exact ih.step e

/-- The calls about a connection go on in order in every step. -/
lemma life_step {opening : Callback} {history : List Note} (hstarted : d.phase ≠ .fresh)
    (life : Callback.Life opening d.id d.phase.isOver (Note.callbacks history)) (e : Event) :
    Callback.Life opening d.id (d.step e).1.phase.isOver
      (Note.callbacks (history ++ (d.step e).2)) := by
  have hgoes := goes_step hstarted e
  generalize d.step e = r at hgoes
  rw [Note.callbacks_append]
  cases hgoes with
  | silent same none => rwa [none, List.append_nil, same]
  | tells told before after one =>
    rw [before] at life
    rw [one, after]
    exact life.tell told
  | ends before after one =>
    rw [before] at life
    rw [one, after]
    exact life.stop

/-- The calls about a connection go on in order in every run. -/
theorem life_run {opening : Callback} {history : List Note} (h : d.Coherent)
    (life : Callback.Life opening d.id d.phase.isOver (Note.callbacks history)) (es : List Event) :
    Callback.Life opening d.id (d.run es).1.phase.isOver
      (Note.callbacks (history ++ (d.run es).2)) := by
  induction es using List.reverseRecOn with
  | nil => simpa [run] using life
  | append_singleton es e ih =>
    rw [← (d.id_run es).1] at ih
    rw [run_concat, ← List.append_assoc, ← (d.id_run es).1]
    exact life_step (h.run es).started ih e

/-- A started driver tells the service of data and of the end, and of nothing else. -/
lemma calls_run (h : d.Coherent) (es : List Event) {call : Callback}
    (hcall : call ∈ Note.callbacks (d.run es).2) :
    call.tells d.id ∨ call = .close d.id .closed := by
  induction es using List.reverseRecOn with
  | nil => cases hcall
  | append_singleton es e ih =>
    rw [run_concat, Note.callbacks_append] at hcall
    rcases List.mem_append.mp hcall with hbefore | hnow
    · exact ih hbefore
    · have hgoes := goes_step (h.run es).started e
      rw [← (d.id_run es).1]
      generalize (d.run es).1.step e = r at hgoes hnow
      cases hgoes with
      | silent same none => simp [none] at hnow
      | tells told before after one =>
        rw [one, List.mem_singleton] at hnow
        exact .inl (hnow ▸ told)
      | ends before after one =>
        rw [one, List.mem_singleton] at hnow
        exact .inr hnow

/-- A driver whose end was announced stays over. -/
lemma isOver_run (h : d.Coherent) (hover : d.phase.isOver = true) (es : List Event) :
    (d.run es).1.phase.isOver = true := by
  induction es using List.reverseRecOn with
  | nil => exact hover
  | append_singleton es e ih =>
    have hgoes := goes_step (h.run es).started e
    rw [run_concat]
    generalize (d.run es).1.step e = r at hgoes
    cases hgoes with
    | silent same none => exact same.trans ih
    | tells told before after one => rw [ih] at before; cases before
    | ends before after one => exact after

/-- Nothing can be sent when the end was announced. -/
lemma request_of_isOver (h : d.Coherent) (hover : d.phase.isOver = true) {data : Bytes}
    (hdata : data ≠ []) : d.request (.ofChunk data) = (false, d, []) := by
  have hclosed : d.connection.state = .closed := by rw [h.state, if_pos hover]
  simp [SendRequest.ofChunk, request, UdpConnection.screen, UdpConnection.isRunning, hdata, hclosed]

/-- Whyever a driver ends, it says so there and then. -/
lemma Ends.callbacks {e : Event} {d' : UdpDriver} (why : Ends d e d') :
    Note.callbacks (d.step e).2 = [.close d.id .closed] ∧ (d.step e).1.phase = .closing := by
  have hstep : d.step e = d'.leave := by
    cases why with
    | refused phase => rcases phase with phase | phase | phase <;> simp [step, returned, phase]
    | asked rest phase posted => simp [step, phase, takeCommand, Mailbox.take?, posted]
    | failed e phase unasked => simp [step, listens, phase, unasked]
    | lost source data phase unasked front => simp [step, listens, phase, unasked, sent, front]
    | dropped phase => simp [step, abort, phase]
  rw [hstep, ← why.running.2]
  exact ⟨rfl, rfl⟩

/-! ### The start -/

/-- The driver of a new connection, which runs and has sent and received nothing. -/
def ofConnection (c : UdpConnection) (maxDatagram : Nat) : UdpDriver :=
  { connection := c.withState .running, maxDatagram }

/-- What is asked of a driver that was not started yet waits in its mailbox. -/
lemma step_of_fresh (hphase : d.phase = .fresh) {e : Event} (he : e ≠ .start ∧ e ≠ .abort) :
    (d.step e).1.phase = .fresh ∧ (d.step e).1.connection = d.connection ∧
      Note.callbacks (d.step e).2 = [] := by
  obtain ⟨hstart, habort⟩ := he
  have hmove := d.move_step e
  generalize d.step e = r at hmove
  cases hmove with
  | stay | post | postClose => exact ⟨hphase, rfl, rfl⟩
  | announce => exact absurd rfl hstart
  | discard => exact absurd rfl habort
  | keep phase => rcases phase with phase | phase | phase <;> simp [phase] at hphase
  | leave e d' why =>
    cases why with
    | refused phase => rcases phase with phase | phase | phase <;> simp [phase] at hphase
    | asked rest phase | failed e phase | lost source data phase | dropped phase =>
      simp [phase] at hphase
  | enqueue data rest phase | tell datagram phase | sendLast data phase | sendOne data phase
  | part keep phase | remove e datagram rest phase => simp [phase] at hphase

/-- Until it is started or dropped a driver waits for that, whatever its handles ask for. -/
lemma run_of_fresh (hphase : d.phase = .fresh) (es : List Event)
    (hes : ∀ e ∈ es, e ≠ .start ∧ e ≠ .abort) :
    (d.run es).1.phase = .fresh ∧ (d.run es).1.connection = d.connection ∧
      Note.callbacks (d.run es).2 = [] := by
  induction es using List.reverseRecOn with
  | nil => exact ⟨hphase, rfl, rfl⟩
  | append_singleton es e ih =>
    obtain ⟨hfresh, hconnection, hcalls⟩ := ih fun e' he' => hes e' (List.mem_append_left _ he')
    obtain ⟨hfresh', hconnection', hcalls'⟩ := step_of_fresh hfresh (hes e (by simp))
    rw [run_concat, Note.callbacks_append, hcalls, hcalls']
    exact ⟨hfresh', hconnection'.trans hconnection, rfl⟩

/-- A driver that is started announces the connection, and from then on is coherent. -/
lemma started_ofConnection (c : UdpConnection) (maxDatagram : Nat) (before : List Event)
    (hbefore : ∀ e ∈ before, e ≠ .start ∧ e ≠ .abort) :
    let opened := (ofConnection c maxDatagram).run (before ++ [.start])
    opened.1.Coherent ∧ opened.1.phase = .opening ∧
      Note.callbacks opened.2 = [.connect (some c.id) c.identity] := by
  intro opened
  obtain ⟨hfresh, hconnection, hcalls⟩ :=
    run_of_fresh (d := ofConnection c maxDatagram) rfl before hbefore
  have hopened : opened = (((ofConnection c maxDatagram).run before).1.start.1,
      ((ofConnection c maxDatagram).run before).2 ++
        ((ofConnection c maxDatagram).run before).1.start.2) := run_concat ..
  rw [hopened, Note.callbacks_append, hcalls]
  generalize (ofConnection c maxDatagram).run before = r at hfresh hconnection
  have hstart : r.1.start = ({ r.1 with phase := .opening },
      [.measured (.opened .udp .active), .callback (.connect (some c.id) c.identity)]) := by
    simp [start, hfresh, UdpDriver.id, hconnection, ofConnection, UdpConnection.withState]
  rw [hstart]
  refine ⟨⟨by simp, ?_⟩, rfl, rfl⟩
  simp [hconnection, UdpPhase.isOver, ofConnection, UdpConnection.withState]

/-- The calls about a connection are in order from the start of its driver on. -/
theorem life_ofConnection (c : UdpConnection) (maxDatagram : Nat) (before after : List Event)
    (hbefore : ∀ e ∈ before, e ≠ .start ∧ e ≠ .abort) :
    let s := (ofConnection c maxDatagram).run (before ++ .start :: after)
    s.1.Coherent ∧ s.1.id = c.id ∧
      Callback.Life (.connect (some c.id) c.identity) c.id s.1.phase.isOver
        (Note.callbacks s.2) := by
  intro s
  obtain ⟨hopened, hopening, hannounced⟩ := started_ofConnection c maxDatagram before hbefore
  have hid := ((ofConnection c maxDatagram).id_run (before ++ [.start])).1
  have hids : s.1.id = c.id := ((ofConnection c maxDatagram).id_run (before ++ .start :: after)).1
  -- the run consists of what happens up to the start and of what happens from there
  have hrun : s = ((ofConnection c maxDatagram).run (before ++ [.start])).andThen
      fun d => d.run after := by
    rw [← run_append, List.append_assoc]
    rfl
  generalize (ofConnection c maxDatagram).run (before ++ [.start]) = opened at *
  have hbegun : Callback.Life (.connect (some c.id) c.identity) opened.1.id
      opened.1.phase.isOver (Note.callbacks opened.2) := by
    rw [hannounced, hopening, hid]
    exact .start
  have hlife := life_run hopened hbegun after
  rw [hid] at hlife
  rw [hrun] at hids ⊢
  exact ⟨hopened.run after, hids, hlife⟩

end UdpDriver

end Switchboard
