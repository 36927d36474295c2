import Mathlib.Data.List.Infix
import Switchboard.Proofs.Tcp.Coherence

/-!
# The calls of a stream driver

A service is called in a fixed order: the connection is announced, then the service hears of
received and of sent bytes as often as there is need, and at last it hears once that the connection
is over.  A driver ends in many ways, and each of them comes through `TcpDriver.finish`.  That it
does so once follows from the phase, which `TcpDriver.finish` moves to one that no step leads back
from; the law is `TcpDriver.callbacks_run`.

A request to close is obeyed before anything is read or written, so a driver that waits with such a
request in its mailbox has only the last call left (`TcpDriver.Ending`).  The state that the handles
see only moves forward (`TcpDriver.number_run`).
-/

namespace Switchboard

namespace TcpDriver

/-! ### One step -/

/-- The call that a step makes at the end of a driver, if the driver ends there. -/
def farewell (d d' : TcpDriver) : List Callback :=
  if d'.phase.isOver && !d.phase.isOver then [.close d.id .closed] else []

lemma farewell_of_isOver {d d' : TcpDriver} (h : d.phase.isOver = true) : farewell d d' = [] := by
  simp [farewell, h]

lemma farewell_of_not_isOver {d d' : TcpDriver} (h : d'.phase.isOver = false) :
    farewell d d' = [] := by
  simp [farewell, h]

lemma farewell_of_running {d d' : TcpDriver} (h : d.phase.isOver = false) :
    farewell d d' = if d'.phase.isOver then [.close d.id .closed] else [] := by
  simp [farewell, h]

/-- Over two stretches of a life the end is announced as over both of them together. -/
lemma farewell_append {d d' d'' : TcpDriver} (hid : d'.id = d.id)
    (hstay : d.phase.isOver = true → d'.phase.isOver = true)
    (hstay' : d'.phase.isOver = true → d''.phase.isOver = true) :
    farewell d d' ++ farewell d' d'' = farewell d d'' := by
  cases hd : d.phase.isOver <;> cases hd' : d'.phase.isOver <;> cases hd'' : d''.phase.isOver <;>
    simp_all [farewell]

/-- A driver that leaves is not over yet. -/
@[simp] lemma isOver_leave (d : TcpDriver) (reason : CloseReason) :
    (d.leave reason).1.phase.isOver = false :=
  TcpPhase.isOver_of_isLeaving (d.isLeaving_leave reason)

/-- A driver that goes on writing out is not over yet. -/
@[simp] lemma isOver_nextChunk (d : TcpDriver) : d.nextChunk.phase.isOver = false :=
  TcpPhase.isOver_of_isLeaving d.isLeaving_nextChunk

/-- Finishing says that the driver ends. -/
lemma callbacks_finish {d : TcpDriver} (hrunning : d.phase.isOver = false) (d' : TcpDriver)
    (hid : d'.id = d.id) : Note.callbacks d'.finish.2 = farewell d d'.finish.1 := by
  have hover : d'.finish.1.phase.isOver = true := rfl
  rw [farewell, hover, hrunning, ← hid]
  rfl

/-- Once a driver is over no step leads back, and nobody is called any more. -/
lemma step_of_isOver {d : TcpDriver} (h : d.phase.isOver = true) (e : Event) :
    (d.step e).1.phase.isOver = true ∧ Note.callbacks (d.step e).2 = [] := by
  have hmove := d.move_step e
  generalize d.step e = r at hmove
  cases hmove with
  | part keep phase => exact ⟨rfl, rfl⟩
  | gather _ can => simp [(waiting_of_canRead can).1, TcpPhase.isOver] at h
  | tell _ can => simp [(waiting_of_canRead can).1, TcpPhase.isOver] at h
  | write _ can => simp [(waiting_of_canWrite can).1, TcpPhase.isOver] at h
  | keep phase => rcases phase with phase | phase | phase <;> simp [phase, TcpPhase.isOver] at h
  | refuse phase => rcases phase with phase | phase <;> simp [phase, TcpPhase.isOver] at h
  | abandon phase =>
    rcases phase with phase | phase | ⟨_, _, phase⟩ | phase | phase <;>
      simp [phase, TcpPhase.isOver] at h
  | stay => exact ⟨h, rfl⟩
  | post => exact ⟨h, rfl⟩
  | postMark => exact ⟨h, rfl⟩
  | postClose => exact ⟨h, rfl⟩
  | _ => simp_all [TcpPhase.isOver]

/-- Only the answer to its last call lets a driver be done. -/
lemma done_of_step {d : TcpDriver} {e : Event} (hdone : (d.step e).1.phase = .done) :
    d.phase = .done ∨ d.phase = .closing ∧ ∃ keep, e = .returned keep := by
  have hmove := d.move_step e
  generalize d.step e = r at hmove hdone
  cases hmove with
  | part keep phase => exact .inr ⟨phase, keep, rfl⟩
  | obey rest phase posted => exact (ne_of_isLeaving (isLeaving_leave _ _) rfl hdone).elim
  | giveUp _ reason phase why => exact (ne_of_isLeaving (isLeaving_leave _ _) rfl hdone).elim
  | flushFailed source phase => exact (ne_of_isLeaving (isLeaving_leave _ _) rfl hdone).elim
  | refuse phase => exact (ne_of_isLeaving (isLeaving_leave _ _) rfl hdone).elim
  | emptyRest => exact (ne_of_isLeaving d.isLeaving_nextChunk rfl hdone).elim
  | write n can some phase next => rcases next with rfl | ⟨rfl, -⟩ <;> simp at hdone
  | stay => exact .inl hdone
  | post => exact .inl hdone
  | postMark => exact .inl hdone
  | postClose => exact .inl hdone
  | enqueue => exact .inl hdone
  | adopt => exact .inl hdone
  | gather => exact .inl hdone
  | remove => exact .inl hdone
  | set => exact .inl hdone
  | _ => simp [finish] at hdone

/-- A step of a started driver tells the service of bytes and waits for its answer, or ends the
driver and says so, or calls nobody. -/
lemma callbacks_step {d : TcpDriver} (hstarted : d.phase ≠ .fresh) (e : Event) :
    ∃ calls, (∀ call ∈ calls, call.tells d.id ∧
        ((d.step e).1.phase = .receiving ∨ (d.step e).1.phase = .drained)) ∧
      Note.callbacks (d.step e).2 = calls ++ farewell d (d.step e).1 := by
  by_cases hover : d.phase.isOver = true
  · refine ⟨[], by simp, ?_⟩
    rw [(step_of_isOver hover e).2, farewell_of_isOver hover, List.append_nil]
  have hrunning : d.phase.isOver = false := Bool.eq_false_iff.mpr hover
  have hmove := d.move_step e
  generalize d.step e = r at hmove
  cases hmove with
  | announce phase => exact absurd phase hstarted
  | discard phase => exact absurd phase hstarted
  | tell bytes can some reached =>
    refine ⟨[.receive d.id], by simp [Callback.tells], ?_⟩
    simp [Note.callbacks, farewell, TcpPhase.isOver]
  | drain phase =>
    refine ⟨[.sent d.id], by simp [Callback.tells], ?_⟩
    simp [Note.callbacks, farewell, TcpPhase.isOver]
  | obey rest phase posted => exact ⟨[], by simp, by simp [farewell]⟩
  | giveUp _ reason phase why => exact ⟨[], by simp, by simp [farewell]⟩
  | flushFailed source phase => exact ⟨[], by simp, by simp [farewell]⟩
  | refuse phase => exact ⟨[], by simp, by simp [farewell]⟩
  | emptyRest chunk written n phase some rest =>
    exact ⟨[], by simp, by simp [Note.callbacks, farewell]⟩
  | shut phase => exact ⟨[], by simp, callbacks_finish hrunning d rfl⟩
  | reject phase => exact ⟨[], by simp, callbacks_finish hrunning _ rfl⟩
  | abandon phase => exact ⟨[], by simp, callbacks_finish hrunning _ rfl⟩
  | part keep phase => simp [phase, TcpPhase.isOver] at hrunning
  | write n can some phase next =>
    refine ⟨[], by simp, ?_⟩
    rcases next with rfl | ⟨rfl, -⟩
    · simp [Note.callbacks, farewell, TcpPhase.isOver]
    · simp [Note.callbacks, farewell, TcpPhase.isOver]
  | _ => exact ⟨[], by simp, by simp [Note.callbacks, farewell, TcpPhase.isOver, prepared]⟩

/-! ### Whole runs -/

/-- A driver that is over stays so. -/
lemma isOver_run {d : TcpDriver} (h : d.phase.isOver = true) (es : List Event) :
    (d.run es).1.phase.isOver = true :=
  run_induction (motive := fun _ d _ => d.phase.isOver = true) h
    (fun _ e ih => (step_of_isOver ih e).1) es

/-- A run of a started driver tells the service of bytes any number of times; if the driver ends in
it, there is one more call, which says so. -/
theorem callbacks_run {d : TcpDriver} (hstarted : d.Coherent) (es : List Event) :
    ∃ calls, (∀ call ∈ calls, call.tells d.id) ∧
      Note.callbacks (d.run es).2 = calls ++ farewell d (d.run es).1 := by
  induction es using List.reverseRecOn with
  | nil =>
    refine ⟨[], by simp, ?_⟩
    cases hover : d.phase.isOver <;> simp [run, farewell, hover]
  | append_singleton es e ih =>
    obtain ⟨calls, htells, hcalls⟩ := ih
    obtain ⟨more, hmore, hstep⟩ := callbacks_step (coherent_run hstarted es).started e
    have hid : (d.run es).1.id = d.id := id_run d es
    have hjoin : farewell d (d.run es).1 ++ farewell (d.run es).1 ((d.run es).1.step e).1 =
        farewell d ((d.run es).1.step e).1 :=
      farewell_append hid (fun h => isOver_run h es) (fun h => (step_of_isOver h e).1)
    -- the driver is over, and nobody is called any more, or it was not, and no end was announced
    have hswap : farewell d (d.run es).1 ++ more = more ++ farewell d (d.run es).1 := by
      cases hover : (d.run es).1.phase.isOver with
      | true =>
        have hnone := (step_of_isOver hover e).2
        rw [hstep, farewell_of_isOver hover, List.append_nil] at hnone
        simp [hnone]
      | false => simp [farewell_of_not_isOver hover]
    refine ⟨calls ++ more, fun call hcall => ?_, ?_⟩
    · rcases List.mem_append.mp hcall with hcall | hcall
      · exact htells call hcall
      · exact hid ▸ (hmore call hcall).1
    · rw [run_concat, Note.callbacks_append, hcalls, hstep, ← hjoin]
      simp only [List.append_assoc]
      rw [← List.append_assoc _ more, hswap, List.append_assoc]

/-- A step that announces the end ends the driver. -/
lemma isOver_of_close_mem_step {d : TcpDriver} {e : Event}
    (hclose : .close d.id .closed ∈ Note.callbacks (d.step e).2) :
    (d.step e).1.phase.isOver = true := by
  have hmove := d.move_step e
  generalize d.step e = r at hmove hclose ⊢
  cases hmove with
  | announce phase =>
    cases hopening : d.opening <;> simp [Note.callbacks, announcement, hopening] at hclose
  | obey rest phase posted => simp at hclose
  | giveUp _ reason phase why => simp at hclose
  | flushFailed source phase => simp at hclose
  | refuse phase => simp at hclose
  | shut phase => rfl
  | reject phase => rfl
  | discard phase => rfl
  | abandon phase => rfl
  | _ => simp [Note.callbacks] at hclose

/-- A driver whose end was announced is over. -/
lemma isOver_of_close_mem {d : TcpDriver} {es : List Event}
    (hclose : .close d.id .closed ∈ Note.callbacks (d.run es).2) :
    (d.run es).1.phase.isOver = true := by
  induction es using List.reverseRecOn with
  | nil => cases hclose
  | append_singleton es e ih =>
    rw [run_concat, Note.callbacks_append] at hclose
    rw [run_concat]
    rcases List.mem_append.mp hclose with hbefore | hnow
    · exact (step_of_isOver (ih hbefore) e).1
    · rw [← id_run d es] at hnow
      exact isOver_of_close_mem_step hnow

/-! ### The end in sight -/

/-- A driver that will be told to close before anything else, that leaves, or that is over. -/
def Ending (d : TcpDriver) : Prop :=
  d.phase = .waiting ∧ .close ∈ d.mailbox.posted ∨ d.phase.isLeaving = true ∨ d.phase.isOver = true

/-- A driver whose end is in sight waits only if it will be told to close. -/
lemma Ending.close_mem {d : TcpDriver} (h : d.Ending) (hphase : d.phase = .waiting) :
    .close ∈ d.mailbox.posted := by
  simpa [Ending, hphase, TcpPhase.isLeaving, TcpPhase.isOver] using h

/-- A driver whose end is in sight serves nobody. -/
lemma Ending.not_serving {d : TcpDriver} (h : d.Ending) :
    d.phase ≠ .fresh ∧ d.phase ≠ .opening ∧ d.phase ≠ .receiving ∧ d.phase ≠ .flushing ∧
      d.phase ≠ .drained := by
  rcases h with ⟨hphase, -⟩ | hphase | hphase
  · simp [hphase]
  · refine ⟨?_, ?_, ?_, ?_, ?_⟩ <;> intro hno <;> simp [hno, TcpPhase.isLeaving] at hphase
  · refine ⟨?_, ?_, ?_, ?_, ?_⟩ <;> intro hno <;> simp [hno, TcpPhase.isOver] at hphase

/-- A posted request does not move the end out of sight. -/
lemma Ending.post {d : TcpDriver} (h : d.Ending) (command : TcpCommand) :
    ({ d with mailbox := { d.mailbox with posted := d.mailbox.posted ++ [command] } } :
      TcpDriver).Ending := by
  rcases h with ⟨hphase, hclose⟩ | hphase
  · exact .inl ⟨hphase, List.mem_append_left _ hclose⟩
  · exact .inr hphase

/-- No step loses the end out of sight. -/
lemma Ending.step {d : TcpDriver} (h : d.Ending) (e : Event) : (d.step e).1.Ending := by
  obtain ⟨hfresh, hopening, hreceiving, hflushing, hdrained⟩ := h.not_serving
  have hmove := d.move_step e
  generalize d.step e = r at hmove
  cases hmove with
  | stay => exact h
  | post data isOpen => exact h.post _
  | postMark mark isOpen => exact h.post _
  | postClose isOpen => exact h.post _
  | announce phase => exact absurd phase hfresh
  | enqueue data rest phase posted =>
    have hclose := h.close_mem phase
    rw [posted] at hclose
    exact .inl ⟨phase, by simpa using hclose⟩
  | adopt mark rest phase posted =>
    have hclose := h.close_mem phase
    rw [posted] at hclose
    exact .inl ⟨phase, by simpa using hclose⟩
  | obey rest phase posted => exact .inr (.inl (isLeaving_leave _ _))
  | giveUp _ reason phase why => exact .inr (.inl (isLeaving_leave _ _))
  | gather bytes can some below =>
    obtain ⟨hphase, hposted⟩ := waiting_of_canRead can
    simpa [hposted] using h.close_mem hphase
  | tell bytes can some reached =>
    obtain ⟨hphase, hposted⟩ := waiting_of_canRead can
    simpa [hposted] using h.close_mem hphase
  | write n can some phase next =>
    obtain ⟨hphase, hposted⟩ := waiting_of_canWrite can
    simpa [hposted] using h.close_mem hphase
  | flushFailed source phase => exact absurd phase hflushing
  | drain phase => exact absurd phase hflushing
  | emptyPart chunk written n phase some part => exact .inr (.inl rfl)
  | emptyRest chunk written n phase some rest => exact .inr (.inl d.isLeaving_nextChunk)
  | cut _ chunk written phase how => exact .inr (.inl rfl)
  | settle _ phase => exact .inr (.inl rfl)
  | shut phase => exact .inr (.inr rfl)
  | remove _ length how phase enough => exact absurd phase hreceiving
  | set mark phase => exact absurd phase hreceiving
  | keep phase => simp_all
  | reject phase => exact absurd phase hopening
  | refuse phase => simp_all
  | part keep phase => exact .inr (.inr rfl)
  | discard phase => exact absurd phase hfresh
  | abandon phase => exact .inr (.inr rfl)

/-- With the end in sight the last call is the only one left. -/
theorem Ending.callbacks_run {d : TcpDriver} (h : d.Ending) (es : List Event) :
    Note.callbacks (d.run es).2 = farewell d (d.run es).1 := by
  have hending (es : List Event) : (d.run es).1.Ending :=
    run_induction (motive := fun _ d _ => d.Ending) h (fun _ e ih => ih.step e) es
  induction es using List.reverseRecOn with
  | nil => cases hover : d.phase.isOver <;> simp [run, farewell, hover]
  | append_singleton es e ih =>
    obtain ⟨calls, hcalls, hstep⟩ := callbacks_step (hending es).not_serving.1 e
    have hnobody : calls = [] := by
      obtain ⟨-, -, hreceiving, -, hdrained⟩ := ((hending es).step e).not_serving
      refine List.eq_nil_iff_forall_not_mem.mpr fun call hcall => ?_
      exact (hcalls call hcall).2.elim hreceiving hdrained
    have hid : (d.run es).1.id = d.id := id_run d es
    rw [run_concat, Note.callbacks_append, ih, hstep, hnobody, List.nil_append]
    exact farewell_append hid (fun h => isOver_run h es) (fun h => (step_of_isOver h e).1)

/-! ### What the handles see -/

/-- The state of the connection only moves forward. -/
lemma number_step {d : TcpDriver} (h : d.Coherent) (e : Event) :
    d.connection.state.number ≤ (d.step e).1.connection.state.number := by
  have hleave (hactive : d.phase.isActive = true) (d' : TcpDriver) (reason : CloseReason) :
      d.connection.state.number ≤ (d'.leave reason).1.connection.state.number := by
    obtain ⟨posted, queue, phase, hleave, -⟩ := d'.fst_leave reason
    rw [hleave, (h.active hactive).2.2]
    exact (by decide : ConnectionState.running.number ≤ ConnectionState.closing.number)
  have hfinish (d' : TcpDriver) :
      d.connection.state.number ≤ d'.finish.1.connection.state.number := by
    have hclosed : d'.finish.1.connection.state = .closed := rfl
    rw [hclosed]
    cases d.connection.state <;> decide
  have hmove := d.move_step e
  generalize d.step e = r at hmove
  cases hmove with
  | obey rest phase posted => exact hleave (by simp [phase, TcpPhase.isActive]) _ _
  | giveUp _ reason phase why => exact hleave (by simp [phase, TcpPhase.isActive]) _ _
  | flushFailed source phase => exact hleave (by simp [phase, TcpPhase.isActive]) _ _
  | refuse phase =>
    refine hleave ?_ _ _
    rcases phase with phase | phase <;> simp [phase, TcpPhase.isActive]
  | emptyRest =>
    obtain ⟨queue, phase, hnext, -⟩ := d.nextChunk_eq
    rw [hnext]
  | shut => exact hfinish _
  | reject => exact hfinish _
  | discard => exact hfinish _
  | abandon => exact hfinish _
  | _ => exact le_rfl

/-- Over a run the state of the connection only moves forward. -/
theorem number_run {d : TcpDriver} (h : d.Coherent) (es : List Event) :
    d.connection.state.number ≤ (d.run es).1.connection.state.number := by
  induction es using List.reverseRecOn with
  | nil => exact le_rfl
  | append_singleton es e ih =>
    rw [run_concat]
    exact ih.trans (number_step (coherent_run h es) e)

/-- A driver that is over grants no request to send anything. -/
lemma request_of_isOver {d : TcpDriver} (h : d.Coherent) (hover : d.phase.isOver = true)
    {data : Bytes} (hdata : data ≠ []) : d.request (.ofChunk data) = (false, d, []) := by
  have hopen : d.mailbox.isOpen = false := (h.ended hover).1
  simp [SendRequest.ofChunk, request, Mailbox.post, hdata, hopen]

/-- A driver that is dropped where it waits announces its end there and then. -/
lemma abort_of_waits {d : TcpDriver}
    (hphase : d.phase = .waiting ∨ d.phase = .flushing ∨
      (∃ chunk written, d.phase = .emptying chunk written) ∨ d.phase = .settling ∨
      d.phase = .shutting) :
    (d.step .abort).1.phase.isOver = true ∧
      Note.callbacks (d.step .abort).2 = [.close d.id .closed] := by
  rcases hphase with h | h | ⟨chunk, written, h⟩ | h | h <;>
    simp [step, abort, h, finish, TcpPhase.isOver, Note.callbacks, id]

/-! ### Before the start -/

/-- What is asked of a driver that was not started yet waits in its mailbox. -/
lemma step_of_fresh {d : TcpDriver} (hphase : d.phase = .fresh) {e : Event}
    (he : e ≠ .start ∧ e ≠ .abort) :
    (d.step e).1.phase = .fresh ∧ Note.callbacks (d.step e).2 = [] := by
  obtain ⟨hstart, habort⟩ := he
  have hmove := d.move_step e
  generalize d.step e = r at hmove
  cases hmove with
  | stay => exact ⟨hphase, rfl⟩
  | post => exact ⟨hphase, rfl⟩
  | postMark => exact ⟨hphase, rfl⟩
  | postClose => exact ⟨hphase, rfl⟩
  | announce => exact absurd rfl hstart
  | discard => exact absurd rfl habort
  | abandon => exact absurd rfl habort
  | gather _ can => simp [(waiting_of_canRead can).1] at hphase
  | tell _ can => simp [(waiting_of_canRead can).1] at hphase
  | write _ can => simp [(waiting_of_canWrite can).1] at hphase
  | _ => simp_all

/-- Until it is started or dropped a driver waits for that, whatever its handles ask for. -/
lemma run_of_fresh {d : TcpDriver} (hphase : d.phase = .fresh) (es : List Event)
    (hes : ∀ e ∈ es, e ≠ .start ∧ e ≠ .abort) :
    (d.run es).1.phase = .fresh ∧ Note.callbacks (d.run es).2 = [] := by
  induction es using List.reverseRecOn with
  | nil => exact ⟨hphase, rfl⟩
  | append_singleton es e ih =>
    obtain ⟨hfresh, hcalls⟩ := ih fun e' he' => hes e' (List.mem_append_left _ he')
    obtain ⟨hfresh', hcalls'⟩ := step_of_fresh hfresh (hes e (by simp))
    rw [run_concat, Note.callbacks_append, hcalls, hcalls']
    exact ⟨hfresh', rfl⟩

/-- A driver that is started announces the connection, and from then on is coherent. -/
lemma started_ofConnection (c : TcpConnection) (opening : Opening) (chunkSize : Nat)
    (linger : Option Nat) (es : List Event) (hes : ∀ e ∈ es, e ≠ .start ∧ e ≠ .abort) :
    let start := ofConnection c opening chunkSize linger
    (start.run (es ++ [.start])).1.Coherent ∧
      (start.run (es ++ [.start])).1.phase = .opening ∧
      Note.callbacks (start.run (es ++ [.start])).2 = [start.announcement] := by
  intro start
  obtain ⟨hfresh, hcalls⟩ := run_of_fresh (d := start) rfl es hes
  have hsame := start.sameSettings_run es
  have hun : (start.run es).1.Unstarted := by
    rcases unstarted_or_coherent_run c opening chunkSize linger es with hun | hco
    · exact hun
    · exact absurd hfresh hco.started
  have hannounce : (start.run es).1.announcement = start.announcement := by
    simp [announcement, hsame.opening, hsame.id, hsame.identity]
  have hopening : ((start.run es).1.step .start).1.phase = .opening := by
    simp [step, TcpDriver.start, hfresh]
  rw [run_concat, Note.callbacks_append, hcalls]
  rcases hun.step .start with hun' | ⟨hco, hphase, -⟩
  · rcases hun'.fresh with ⟨h, -⟩ | h <;> simp [hopening, TcpPhase.isOver] at h
  · exact ⟨hco, hphase, by simp [step, TcpDriver.start, hfresh, Note.callbacks, hannounce]⟩

/-! ### The life of a driver -/

/-- Whatever happens to a driver after its start, its service is called in order: the connection is
announced, the service is told of bytes any number of times, and the end is announced once, as the
last thing.  A request to close that waits to be taken up leaves the last call only, a driver that
is dropped where it waits makes it at once, the state that the handles see runs while the service is
told of bytes and is closed when the end is announced, it never moves back, and from then on nothing
can be sent. -/
theorem calls_in_order (c : TcpConnection) (opening : Opening) (chunkSize : Nat)
    (linger : Option Nat) (before after : List Event)
    (hbefore : ∀ e ∈ before, e ≠ .start ∧ e ≠ .abort) :
    let start := ofConnection c opening chunkSize linger
    let r := start.run (before ++ .start :: after)
    (∃ calls, (∀ call ∈ calls, call.tells c.id) ∧
      Note.callbacks r.2 = start.announcement :: calls ++
        if r.1.phase.isOver then [.close c.id .closed] else []) ∧
    (r.1.phase = .waiting → .close ∈ r.1.mailbox.posted → ∀ es,
      Note.callbacks (r.1.run es).2 =
        if (r.1.run es).1.phase.isOver then [.close c.id .closed] else []) ∧
    (r.1.phase = .waiting ∨ r.1.phase = .flushing ∨
        (∃ chunk written, r.1.phase = .emptying chunk written) ∨ r.1.phase = .settling ∨
        r.1.phase = .shutting →
      (r.1.step .abort).1.phase.isOver = true ∧
        Note.callbacks (r.1.step .abort).2 = [.close c.id .closed]) ∧
    (∀ e, ∀ call ∈ Note.callbacks (r.1.step e).2,
      call.tells c.id ∧ (r.1.step e).1.phase.isActive = true ∨
        call = .close c.id .closed ∧ (r.1.step e).1.phase.isOver = true) ∧
    (r.1.phase.isActive = true ∧ r.1.connection.state = .running ∨
      r.1.phase.isLeaving = true ∧ r.1.connection.state = .closing ∨
      r.1.phase.isOver = true ∧ r.1.connection.state = .closed) ∧
    (∀ es, r.1.connection.state.number ≤ (r.1.run es).1.connection.state.number) ∧
    (r.1.phase.isOver = true → ∀ data, data ≠ [] →
      r.1.request (.ofChunk data) = (false, r.1, [])) := by
  intro start r
  obtain ⟨hopened, hopening, hannounced⟩ :=
    started_ofConnection c opening chunkSize linger before hbefore
  have hid : (start.run (before ++ [.start])).1.id = c.id := id_run start _
  -- the run consists of what happens up to the start and of what happens from there
  have hrun : r = (start.run (before ++ [.start])).andThen fun d => d.run after := by
    rw [← run_append, List.append_assoc]
    rfl
  change (start.run (before ++ [.start])).1.Coherent at hopened
  change (start.run (before ++ [.start])).1.phase = .opening at hopening
  change Note.callbacks (start.run (before ++ [.start])).2 = [start.announcement] at hannounced
  generalize start.run (before ++ [.start]) = opened at hopened hopening hannounced hrun hid
  have hco : r.1.Coherent := by
    rw [hrun]
    exact coherent_run hopened after
  have hidr : r.1.id = c.id := id_run start _
  refine ⟨?_, fun hwaiting hclose es => ?_, fun hwaits => ?_, fun e call hcall => ?_, ?_,
    fun es => number_run hco es, fun hover data hdata => request_of_isOver hco hover hdata⟩
  · obtain ⟨calls, htells, hcalls⟩ := callbacks_run hopened after
    have hrunning : opened.1.phase.isOver = false := by simp [hopening, TcpPhase.isOver]
    rw [hid] at htells
    rw [farewell_of_running hrunning, hid] at hcalls
    refine ⟨calls, htells, ?_⟩
    simp only [hrun, Noted.andThen, Note.callbacks_append, hannounced, hcalls]
    rfl
  · have hending : r.1.Ending := .inl ⟨hwaiting, hclose⟩
    rw [hending.callbacks_run es, farewell_of_running (by simp [hwaiting, TcpPhase.isOver]), hidr]
  · have habort := abort_of_waits hwaits
    rwa [hidr] at habort
  · obtain ⟨calls, hcalls, hstep⟩ := callbacks_step hco.started e
    rw [hidr] at hcalls
    rw [hstep] at hcall
    rcases List.mem_append.mp hcall with hcall | hcall
    · obtain ⟨htells, hphase⟩ := hcalls call hcall
      refine .inl ⟨htells, ?_⟩
      rcases hphase with hphase | hphase <;> simp [hphase, TcpPhase.isActive]
    · unfold farewell at hcall
      split at hcall
      · rename_i hends
        rw [hidr] at hcall
        exact .inr ⟨List.mem_singleton.mp hcall, (Bool.and_eq_true_iff.mp hends).1⟩
      · cases hcall
  · rcases r.1.phase.isActive_or with hactive | hleaving | hover
    · exact .inl ⟨hactive, (hco.active hactive).2.2⟩
    · exact .inr (.inl ⟨hleaving, (hco.leaving hleaving).2.2⟩)
    · exact .inr (.inr ⟨hover, (hco.ended hover).2⟩)

/-- A connection for which a watermark was asked for before the start, whose service is told of two
bytes once, and which is dropped while it writes out what was granted. -/
theorem calls_in_order_dropped :
    let c : TcpConnection :=
      { id := ⟨1⟩, direction := .passive, identity := .anonymous
        host := ⟨.loopback, 80⟩, peer := ⟨.loopback, 4000⟩ }
    let start := ofConnection c (.accepted 80) 4 (some 1)
    let after : List Event :=
      [.returned true, .command, .readDone (.ok [1, 2]), .returned true, .request (.chunk [9]),
        .requestClose, .command, .command, .abort]
    (∀ e ∈ [Event.requestMark 2], e ≠ .start ∧ e ≠ .abort) ∧
      Note.callbacks (start.run ([.requestMark 2] ++ .start :: after)).2 =
        [.accept ⟨1⟩ 80, .receive ⟨1⟩, .close ⟨1⟩ .closed] ∧
      ∃ calls, (∀ call ∈ calls, call.tells c.id) ∧
        Note.callbacks (start.run ([.requestMark 2] ++ .start :: after)).2 =
          start.announcement :: calls ++ [.close c.id .closed] := by
  intro c start after
  have hbefore : ∀ e ∈ [Event.requestMark 2], e ≠ .start ∧ e ≠ .abort := by simp
  have hover : (start.run ([.requestMark 2] ++ .start :: after)).1.phase.isOver = true := by
    decide +kernel
  have h := (calls_in_order c (.accepted 80) 4 (some 1) [.requestMark 2] after hbefore).1
  simp only [start, hover, if_true] at h
  exact ⟨hbefore, by decide +kernel, h⟩

end TcpDriver

end Switchboard
