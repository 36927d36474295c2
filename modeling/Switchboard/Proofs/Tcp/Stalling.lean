import Switchboard.Proofs.Tcp.Sending

/-!
# What a stalled socket holds up

A socket may keep a driver waiting for ever: nothing is read, nothing can be written, and what was
written is not flushed.  `TcpDriver.prompt?` is the step that a driver has left then, the one that
its loop, its service, its mailbox or the lack of a closing time lets it take, and
`TcpDriver.goOn` takes such steps one after the other.

Without a closing time a request to close comes through that way.  In its wait the driver takes up
one request after the other, at the one to close it leaves, and the end of the socket is not waited
for; `TcpDriver.Unheld` is what each of these steps keeps, and `TcpDriver.Unheld.errands` counts
them.  The exception is the flush behind the last queued chunk.  The driver takes nothing up
meanwhile, and an encrypted socket that took the chunk over may still have records to send, so there
the request waits as long as the peer likes (`TcpDriver.run_of_flushing`).
-/

namespace Switchboard

namespace TcpDriver

/-! ### Going on without the socket -/

/-- The step that a driver takes without waiting for its socket, if there is one. In case it is the
service that goes on, this is its answer. -/
def prompt? (d : TcpDriver) (keep : Bool) : Option Event :=
  match d.phase with
  | .fresh => some .start
  | .opening | .receiving | .drained | .closing => some (.returned keep)
  | .waiting => if d.mailbox.posted.isEmpty then none else some .command
  | .flushing | .settling => if d.connection.encrypted then none else some (.flushDone (.ok ()))
  | .shutting => if d.linger.isSome then none else some .shutdownOver
  | .emptying _ _ | .done => none

/-- A driver that is not done has a step of its own exactly if it does not wait for its socket. -/
lemma prompt?_eq_none_iff (d : TcpDriver) (keep : Bool) :
    d.prompt? keep = none ↔ d.waitsForSocket = true ∨ d.phase = .done := by
  unfold prompt? waitsForSocket
  cases d.phase <;> simp [Option.isSome_iff_ne_none]

/-- Takes one step after the other as long as the socket is not waited for. The service has an
answer ready for each of them. -/
def goOn (d : TcpDriver) : List Bool → Noted TcpDriver
  | [] => (d, [])
  | keep :: answers =>
    match d.prompt? keep with
    | none => (d, [])
    | some e => (d.step e).andThen fun d => d.goOn answers

/-! ### The end is announced once it is reached -/

/-- A step that ends a driver announces it. -/
lemma close_mem_of_isOver_step {d : TcpDriver} (hrunning : d.phase.isOver = false) {e : Event}
    (hover : (d.step e).1.phase.isOver = true) :
    .close d.id .closed ∈ Note.callbacks (d.step e).2 := by
  by_cases hfresh : d.phase = .fresh
  · by_cases hdropped : e = .abort
    · subst hdropped
      simp [step, abort, hfresh, finish, Note.callbacks]
    · by_cases hstart : e = .start
      · subst hstart
        simp [step, start, hfresh, TcpPhase.isOver] at hover
      · simp [(step_of_fresh hfresh ⟨hstart, hdropped⟩).1, TcpPhase.isOver] at hover
  · obtain ⟨calls, -, hcalls⟩ := callbacks_step hfresh e
    simp [hcalls, farewell, hover, hrunning]

/-- A driver is over exactly if its end was announced. -/
lemma isOver_iff_close_mem (c : TcpConnection) (opening : Opening) (chunkSize : Nat)
    (linger : Option Nat) (es : List Event) :
    ((ofConnection c opening chunkSize linger).run es).1.phase.isOver = true ↔
      .close c.id .closed ∈
        Note.callbacks ((ofConnection c opening chunkSize linger).run es).2 := by
  refine ⟨?_, fun hclose => isOver_of_close_mem hclose⟩
  induction es using List.reverseRecOn with
  | nil => simp [run, ofConnection, TcpPhase.isOver]
  | append_singleton es e ih =>
    intro hover
    rw [run_concat] at hover ⊢
    rw [Note.callbacks_append]
    cases hbefore : ((ofConnection c opening chunkSize linger).run es).1.phase.isOver with
    | true => exact List.mem_append_left _ (ih hbefore)
    | false =>
      have hclose := close_mem_of_isOver_step hbefore hover
      rw [id_run] at hclose
      exact List.mem_append_right _ hclose

/-- Whether a connection is encrypted never changes. -/
lemma encrypted_run (d : TcpDriver) (es : List Event) :
    (d.run es).1.connection.encrypted = d.connection.encrypted := by
  refine run_induction (motive := fun _ d' _ => d'.connection.encrypted = d.connection.encrypted)
    rfl (fun es e ih => Eq.trans ?_ ih) es
  have hleave (d : TcpDriver) (reason : CloseReason) :
      (d.leave reason).1.connection.encrypted = d.connection.encrypted := by
    obtain ⟨posted, queue, phase, hleave, -⟩ := d.fst_leave reason
    rw [hleave]
    rfl
  have hmove := (d.run es).1.move_step e
  generalize (d.run es).1.step e = r at hmove
  cases hmove with
  | obey => exact hleave _ _
  | giveUp => exact hleave _ _
  | flushFailed => exact hleave _ _
  | refuse => exact hleave _ _
  | emptyRest =>
    obtain ⟨queue, phase, hnext, -⟩ := (d.run es).1.nextChunk_eq
    rw [hnext]
  | _ => rfl

/-! ### Nothing is in the way -/

/-- A driver without a closing time that was asked to close, or has left, and does not wait for its
socket to flush. -/
structure Unheld (d : TcpDriver) : Prop where
  /-- It has no closing time. -/
  linger : d.linger = none
  /-- It has not announced its end. -/
  running : d.phase.isOver = false
  /-- It has not left unless it is at the end of its socket. -/
  active : d.phase ≠ .shutting → d.phase.isActive = true ∧ .close ∈ d.mailbox.posted
  /-- If it flushes its socket, it does so at once. -/
  plain : d.phase = .flushing → d.connection.encrypted = false

namespace Unheld

variable {d : TcpDriver}

/-- What an active driver becomes while the request to close waits is not held up either. -/
lemma ofActive (h : d.Unheld) {d' : TcpDriver} (hlinger : d'.linger = d.linger)
    (hactive : d'.phase.isActive = true) (hphase : d'.phase ≠ .flushing)
    (hclose : .close ∈ d'.mailbox.posted) : d'.Unheld where
  linger := hlinger.trans h.linger
  running := by cases hphase : d'.phase <;> simp_all [TcpPhase.isActive, TcpPhase.isOver]
  active _ := ⟨hactive, hclose⟩
  plain hflushing := absurd hflushing hphase

/-- Without a closing time a driver that leaves goes to the end of its socket. -/
lemma leave (hlinger : d.linger = none) (reason : CloseReason) :
    (d.leave reason).1.Unheld ∧ (d.leave reason).1.phase = .shutting := by
  obtain ⟨posted, queue, phase, hleave, rfl | ⟨-, -, -, hpatient⟩⟩ := d.fst_leave reason
  · rw [hleave]
    exact ⟨⟨hlinger, rfl, fun hactive => absurd rfl hactive, by simp⟩, rfl⟩
  · simp [hlinger] at hpatient

end Unheld

/-- How many steps a driver that is not held up takes at most until its end is announced. -/
def Unheld.errands (d : TcpDriver) : Nat :=
  match d.phase with
  | .shutting => 1
  | .waiting => d.mailbox.posted.length + 1
  | .opening | .receiving | .drained => d.mailbox.posted.length + 2
  | _ => d.mailbox.posted.length + 3

/-- A driver that leaves without a closing time is close to its end. -/
lemma Unheld.of_leave {d d' : TcpDriver} (hlinger : d'.linger = none) (reason : CloseReason)
    (hfar : 1 < Unheld.errands d) :
    (d'.leave reason).1.Unheld ∧ Unheld.errands (d'.leave reason).1 < Unheld.errands d := by
  obtain ⟨hunheld, hphase⟩ := Unheld.leave hlinger reason
  exact ⟨hunheld, by simpa [Unheld.errands, hphase] using hfar⟩

/-- Whatever the service answers brings the end of a driver nearer. -/
lemma Unheld.returned {d : TcpDriver} (h : d.Unheld)
    (hphase : d.phase = .opening ∨ d.phase = .receiving ∨ d.phase = .drained) (keep : Bool) :
    (d.returned keep).1.phase.isOver = true ∨
      (d.returned keep).1.Unheld ∧ Unheld.errands (d.returned keep).1 < Unheld.errands d := by
  have hclose := (h.active (by rcases hphase with hphase | hphase | hphase <;> simp [hphase])).2
  have hfar : Unheld.errands d = d.mailbox.posted.length + 2 := by
    rcases hphase with hphase | hphase | hphase <;> simp [Unheld.errands, hphase]
  cases keep with
  | true =>
    have hreturned : d.returned true = ({ d with phase := .waiting }, []) := by
      rcases hphase with hphase | hphase | hphase <;> simp [TcpDriver.returned, hphase]
    rw [hreturned, hfar]
    exact .inr ⟨h.ofActive rfl rfl (by simp) hclose, by simp [Unheld.errands]⟩
  | false =>
    rcases hphase with hphase | hphase
    · exact .inl (by simp [TcpDriver.returned, hphase, finish, TcpPhase.isOver])
    · have hreturned : d.returned false = d.leave .rejected := by
        rcases hphase with hphase | hphase <;> simp [TcpDriver.returned, hphase]
      rw [hreturned]
      exact .inr (Unheld.of_leave h.linger _ (by omega))

/-- Every request that is taken up brings the end of a driver nearer. -/
lemma Unheld.takeCommand {d : TcpDriver} (h : d.Unheld) (hphase : d.phase = .waiting) :
    d.takeCommand.1.Unheld ∧ Unheld.errands d.takeCommand.1 < Unheld.errands d := by
  have hclose := (h.active (by simp [hphase])).2
  rcases hposted : d.mailbox.posted with _ | ⟨command, rest⟩
  · simp [hposted] at hclose
  · have hfar : Unheld.errands d = rest.length + 2 := by simp [Unheld.errands, hphase, hposted]
    rw [hposted] at hclose
    cases command with
    | send data =>
      simp only [TcpDriver.takeCommand, Mailbox.take?, hposted, hfar]
      refine ⟨h.ofActive rfl ?_ ?_ (by simpa using hclose), ?_⟩ <;>
        simp [Unheld.errands, prepared, hphase, TcpPhase.isActive]
    | mark mark =>
      simp only [TcpDriver.takeCommand, Mailbox.take?, hposted, hfar]
      refine ⟨h.ofActive rfl ?_ ?_ (by simpa using hclose), ?_⟩ <;>
        simp [Unheld.errands, prepared, hphase, TcpPhase.isActive]
    | close =>
      have hobeyed : d.takeCommand = ({ d.prepared with
          mailbox := { d.mailbox with posted := rest } } : TcpDriver).leave .requested := by
        simp [TcpDriver.takeCommand, Mailbox.take?, hposted]
      have hbehind : 1 < Unheld.errands d := by omega
      rw [hobeyed]
      refine Unheld.of_leave ?_ _ hbehind
      exact h.linger

/-- The next step of a driver that is not held up announces its end, or brings it nearer. -/
lemma Unheld.step {d : TcpDriver} (h : d.Unheld) (keep : Bool) :
    ∃ e, d.prompt? keep = some e ∧
      ((d.step e).1.phase.isOver = true ∨
        (d.step e).1.Unheld ∧ Unheld.errands (d.step e).1 < Unheld.errands d) := by
  cases hphase : d.phase with
  | fresh =>
    have hclose := (h.active (by simp [hphase])).2
    refine ⟨.start, by simp [prompt?, hphase], .inr ?_⟩
    simp only [TcpDriver.step, start, hphase, if_true]
    exact ⟨h.ofActive rfl rfl (by simp) hclose, by simp [Unheld.errands, hphase]⟩
  | opening =>
    exact ⟨.returned keep, by simp [prompt?, hphase], h.returned (.inl hphase) keep⟩
  | waiting =>
    refine ⟨.command, ?_, .inr ?_⟩
    · have hposted := List.ne_nil_of_mem (h.active (by simp [hphase])).2
      simp [prompt?, hphase, hposted]
    · simp only [TcpDriver.step, hphase, if_true]
      exact h.takeCommand hphase
  | receiving =>
    exact ⟨.returned keep, by simp [prompt?, hphase], h.returned (.inr (.inl hphase)) keep⟩
  | flushing =>
    have hclose := (h.active (by simp [hphase])).2
    refine ⟨.flushDone (.ok ()), by simp [prompt?, hphase, h.plain hphase], .inr ?_⟩
    simp only [TcpDriver.step, flushed, hphase]
    exact ⟨h.ofActive rfl rfl (by simp) hclose, by simp [Unheld.errands, hphase]⟩
  | drained =>
    exact ⟨.returned keep, by simp [prompt?, hphase], h.returned (.inr (.inr hphase)) keep⟩
  | shutting =>
    exact ⟨.shutdownOver, by simp [prompt?, hphase, h.linger],
      .inl (by simp [TcpDriver.step, hphase, finish, TcpPhase.isOver])⟩
  | emptying chunk written =>
    simpa [hphase, TcpPhase.isActive] using (h.active (by simp [hphase])).1
  | settling => simpa [hphase, TcpPhase.isActive] using (h.active (by simp [hphase])).1
  | closing => simpa [hphase, TcpPhase.isOver] using h.running
  | done => simpa [hphase, TcpPhase.isOver] using h.running

/-- A driver that is not held up announces its end without its socket, whatever its service
answers. -/
lemma Unheld.close_mem_goOn {d : TcpDriver} (h : d.Unheld) (answers : List Bool)
    (henough : Unheld.errands d ≤ answers.length) :
    .close d.id .closed ∈ Note.callbacks (d.goOn answers).2 := by
  induction answers generalizing d with
  | nil =>
    have hpositive : 0 < Unheld.errands d := by
      unfold Unheld.errands
      split <;> omega
    simp only [List.length_nil] at henough
    omega
  | cons keep answers ih =>
    obtain ⟨e, hprompt, hnext⟩ := h.step keep
    have hid : (d.step e).1.id = d.id := (d.sameSettings_step e).id
    simp only [goOn, hprompt, Noted.andThen, Note.callbacks_append]
    rcases hnext with hover | ⟨hunheld, hnearer⟩
    · exact List.mem_append_left _ (close_mem_of_isOver_step h.running hover)
    · have hclose := ih hunheld (by simp only [List.length_cons] at henough; omega)
      rw [hid] at hclose
      exact List.mem_append_right _ hclose

/-! ### What is in the way -/

/-- As long as the flush goes on and the loop does, a driver that flushes its socket does nothing
else. -/
lemma run_of_flushing {d : TcpDriver} (hphase : d.phase = .flushing) (fs : List Event)
    (hfs : ∀ f ∈ fs, f ≠ .abort ∧ ∀ outcome, f ≠ .flushDone outcome) :
    (d.run fs).1.phase = .flushing ∧ Note.callbacks (d.run fs).2 = [] := by
  induction fs using List.reverseRecOn with
  | nil => exact ⟨hphase, rfl⟩
  | append_singleton fs f ih =>
    obtain ⟨hflushing, hcalls⟩ := ih fun f' hf' => hfs f' (List.mem_append_left _ hf')
    obtain ⟨habort, hflush⟩ := hfs f (by simp)
    rw [run_concat, Note.callbacks_append, hcalls, List.nil_append]
    have hmove := (d.run fs).1.move_step f
    generalize (d.run fs).1.step f = r at hmove
    cases hmove with
    | stay => exact ⟨hflushing, rfl⟩
    | post => exact ⟨hflushing, rfl⟩
    | postMark => exact ⟨hflushing, rfl⟩
    | postClose => exact ⟨hflushing, rfl⟩
    | flushFailed => exact absurd rfl (hflush _)
    | drain => exact absurd rfl (hflush _)
    | discard => exact absurd rfl habort
    | abandon => exact absurd rfl habort
    | gather _ can => simp [(waiting_of_canRead can).1] at hflushing
    | tell _ can => simp [(waiting_of_canRead can).1] at hflushing
    | write _ can => simp [(waiting_of_canWrite can).1] at hflushing
    | keep phase => simp [hflushing] at phase
    | refuse phase => simp [hflushing] at phase
    | _ => simp_all

/-- Without a closing time, a driver that was asked to close and has not announced its end waits for
its socket exactly if it flushes an encrypted one, and then it has no step of its own.  If it does
not wait, the end is announced after as many steps as there are requests, and three more at most,
whatever the service answers and without anything from the socket.  If it waits, nothing but the
end of the flush or the loss of the loop leads on, whatever else is asked of it. -/
theorem held_up_by_flush_only (c : TcpConnection) (opening : Opening) (chunkSize : Nat)
    (es : List Event) :
    let start := ofConnection c opening chunkSize none
    let d := (start.run es).1
    .close ∈ d.mailbox.posted → .close c.id .closed ∉ Note.callbacks (start.run es).2 →
      (d.waitsForSocket = true ↔ d.phase = .flushing ∧ c.encrypted = true) ∧
      (d.waitsForSocket = true ↔ ∀ keep, d.prompt? keep = none) ∧
      (d.waitsForSocket = false → ∀ answers : List Bool,
        d.mailbox.posted.length + 3 ≤ answers.length →
          .close c.id .closed ∈ Note.callbacks (d.goOn answers).2) ∧
      (d.waitsForSocket = true → ∀ fs : List Event,
        (∀ f ∈ fs, f ≠ .abort ∧ ∀ outcome, f ≠ .flushDone outcome) →
          (d.run fs).1.phase = .flushing ∧ Note.callbacks (d.run fs).2 = []) := by
  intro start d hclose hopen
  have hid : d.id = c.id := id_run start es
  have hlinger : d.linger = none := (start.sameSettings_run es).linger
  have hencrypted : d.connection.encrypted = c.encrypted := encrypted_run start es
  have hrunning : d.phase.isOver = false := by
    rw [Bool.eq_false_iff]
    exact fun hover => hopen ((isOver_iff_close_mem c opening chunkSize none es).mp hover)
  have hactive (hphase : d.phase ≠ .shutting) : d.phase.isActive = true := by
    by_contra hidle
    have hmute : d.phase.isMute = true :=
      isMute_of_linger_eq_none (unstarted_or_coherent_run c opening chunkSize none es) hlinger
        (by simpa using hidle)
    cases h : d.phase <;> simp_all [TcpPhase.isMute, TcpPhase.isOver]
  have hwaits : d.waitsForSocket = true ↔ d.phase = .flushing ∧ c.encrypted = true := by
    have hposted : d.mailbox.posted ≠ [] := List.ne_nil_of_mem hclose
    rw [← hencrypted]
    unfold waitsForSocket
    cases h : d.phase <;> simp_all [TcpPhase.isActive]
  have hdone : d.phase ≠ .done := by
    rintro hdone
    simp [hdone, TcpPhase.isOver] at hrunning
  refine ⟨hwaits, by simp [prompt?_eq_none_iff, hdone], fun hfree answers henough => ?_,
    fun hheld fs hfs => ?_⟩
  · have hunheld : d.Unheld := by
      refine ⟨hlinger, hrunning, fun hphase => ⟨hactive hphase, hclose⟩, fun hphase => ?_⟩
      rw [hencrypted]
      by_contra hsecret
      rw [hwaits.mpr ⟨hphase, by simpa using hsecret⟩] at hfree
      cases hfree
    have hbound : Unheld.errands d ≤ d.mailbox.posted.length + 3 := by
      unfold Unheld.errands
      split <;> omega
    exact hid ▸ hunheld.close_mem_goOn answers (hbound.trans henough)
  · exact run_of_flushing (hwaits.mp hheld).1 fs hfs

/-- A plain connection that is asked to close while its socket is flushed: the service hears of the
end of sending and of the end, and the socket is not waited for. -/
theorem held_up_by_flush_only_plain :
    let c : TcpConnection :=
      { id := ⟨1⟩, direction := .passive, identity := .anonymous
        host := ⟨.loopback, 80⟩, peer := ⟨.loopback, 4000⟩ }
    let start := ofConnection c (.accepted 80) 4 none
    let es : List Event :=
      [.start, .returned true, .request (.chunk [1, 2]), .command, .writeDone (.ok 2),
        .requestClose]
    let d := (start.run es).1
    .close ∈ d.mailbox.posted ∧ .close c.id .closed ∉ Note.callbacks (start.run es).2 ∧
      d.waitsForSocket = false ∧
      .close c.id .closed ∈ Note.callbacks (d.goOn [true, true, true, true]).2 := by
  intro c start es d
  have hclose : .close ∈ d.mailbox.posted := by decide +kernel
  have hopen : .close c.id .closed ∉ Note.callbacks (start.run es).2 := by decide +kernel
  have hfree : d.waitsForSocket = false := by decide +kernel
  have h := (held_up_by_flush_only c (.accepted 80) 4 es hclose hopen).2.2.1
  exact ⟨hclose, hopen, hfree, h hfree _ (by decide +kernel)⟩

/-- An encrypted connection that is asked to close while its socket is flushed waits for the socket:
it has taken the chunk over and may have records of it left. -/
theorem stalled_flush :
    let c : TcpConnection :=
      { id := ⟨1⟩, direction := .passive, identity := .anonymous, encrypted := true
        host := ⟨.loopback, 80⟩, peer := ⟨.loopback, 4000⟩ }
    let start := ofConnection c (.accepted 80) 4 none
    let es : List Event :=
      [.start, .returned true, .request (.chunk [1, 2]), .command, .writeDone (.ok 2),
        .requestClose]
    let d := (start.run es).1
    .close ∈ d.mailbox.posted ∧ .close c.id .closed ∉ Note.callbacks (start.run es).2 ∧
      d.waitsForSocket = true := by
  decide +kernel

end TcpDriver

end Switchboard
