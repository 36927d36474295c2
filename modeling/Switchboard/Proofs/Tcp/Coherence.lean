import Switchboard.Proofs.Tcp.Moves

/-!
# What the parts of a stream driver agree on

A driver keeps its phase, the reason for which it left, its mailbox and the state that the handles
of its connection see.  None of these is read off another one, and they are set in different places.
`TcpDriver.Coherent` says how they go together: as long as the driver is active nothing is decided,
requests are taken and the connection runs; while it leaves, and once it is over, nothing more is
posted.  `TcpDriver.coherent_step` shows that every step keeps them together, and
`TcpDriver.coherent_run` that they are together in every run of a new driver.

Before that come the laws of leaving, which is the one step that touches everything at once.
-/

namespace Switchboard

/-! ### Leaving -/

namespace TcpDriver

/-- What leaving does: nothing more can be posted, the connection is closing, and the driver goes on
to the end of its socket, or starts on the first chunk if there is time to write out what is left.
-/
lemma fst_leave (d : TcpDriver) (reason : CloseReason) :
    ∃ posted queue phase,
      (d.leave reason).1 = { d with
        connection := d.connection.withState .closing
        mailbox := ⟨posted, false⟩
        reason := some reason
        queue, phase } ∧
      (phase = .shutting ∨
        (∃ chunk, phase = .emptying chunk 0) ∧ posted = [] ∧ reason.isOrderly = true ∧
          d.linger.isSome = true) := by
  unfold leave
  dsimp only
  split
  · rename_i hpatient
    obtain ⟨horderly, hlinger⟩ := Bool.and_eq_true_iff.mp hpatient
    split
    · exact ⟨_, _, _, rfl, .inl rfl⟩
    · rename_i hqueue
      unfold nextChunk
      split
      · exact ⟨_, _, _, rfl, .inr ⟨⟨_, rfl⟩, rfl, horderly, hlinger⟩⟩
      · rename_i hfront
        exact absurd (by simpa [SendQueue.front?, SendQueue.isEmpty] using hfront) hqueue
  · exact ⟨_, _, _, rfl, .inl rfl⟩

/-- The only notes of leaving are those of chunks that join the queue. -/
lemma snd_leave (d : TcpDriver) (reason : CloseReason) :
    ∃ chunks : List Bytes, (d.leave reason).2 = chunks.map (Note.queued d.id) := by
  unfold leave
  dsimp only
  split
  · split <;> exact ⟨_, rfl⟩
  · exact ⟨[], rfl⟩

/-- Leaving calls nobody. -/
@[simp] lemma callbacks_leave (d : TcpDriver) (reason : CloseReason) :
    Note.callbacks (d.leave reason).2 = [] := by
  obtain ⟨chunks, hchunks⟩ := d.snd_leave reason
  simp [hchunks, Note.callbacks]

/-- Leaving moves data into the queue only. -/
@[simp] lemma data_leave (d : TcpDriver) (reason : CloseReason) {hand : Hand}
    (hhand : hand ≠ .queued) (id : ConnectionId) :
    Note.data hand id (d.leave reason).2 = [] := by
  obtain ⟨chunks, hchunks⟩ := d.snd_leave reason
  refine Note.data_eq_nil hand id fun n hn => ?_
  rw [hchunks] at hn
  obtain ⟨chunk, -, rfl⟩ := List.mem_map.mp hn
  simp [Note.datum?, Note.passage?, hhand.symm]

/-- The next chunk, or the flush behind the last one. -/
lemma nextChunk_eq (d : TcpDriver) :
    ∃ queue phase, d.nextChunk = { d with queue, phase } ∧
      ((∃ chunk, phase = .emptying chunk 0) ∨ phase = .settling ∧ queue = d.queue ∧
        d.queue.entries = []) := by
  unfold nextChunk
  split
  · exact ⟨_, _, rfl, .inl ⟨_, rfl⟩⟩
  · rename_i hfront
    exact ⟨_, _, rfl, .inr ⟨rfl, rfl, by simpa [SendQueue.front?] using hfront⟩⟩

end TcpDriver

/-! ### The stages of a driver's life -/

/-- A driver that takes requests and serves its connection. -/
def TcpPhase.isActive : TcpPhase → Bool
  | .fresh | .opening | .waiting | .receiving | .flushing | .drained => true
  | _ => false

/-- A driver that has left and is still busy with its socket. -/
def TcpPhase.isLeaving : TcpPhase → Bool
  | .emptying _ _ | .settling | .shutting => true
  | _ => false

/-- A driver that has announced the end. -/
def TcpPhase.isOver : TcpPhase → Bool
  | .closing | .done => true
  | _ => false

/-- A driver that has nothing more to do with data. -/
def TcpPhase.isMute : TcpPhase → Bool
  | .shutting | .closing | .done => true
  | _ => false

/-- A driver that writes out what is left. -/
def TcpPhase.isWritingOut : TcpPhase → Bool
  | .emptying _ _ | .settling => true
  | _ => false

/-- A driver that waits for its service. -/
def TcpPhase.isCalling : TcpPhase → Bool
  | .opening | .receiving | .drained | .closing => true
  | _ => false

/-- A driver is active, leaves, or is over. -/
lemma TcpPhase.isActive_or (p : TcpPhase) :
    p.isActive = true ∨ p.isLeaving = true ∨ p.isOver = true := by
  cases p <;> simp [isActive, isLeaving, isOver]

/-- A driver that leaves is not over yet. -/
lemma TcpPhase.isOver_of_isLeaving {p : TcpPhase} (h : p.isLeaving = true) : p.isOver = false := by
  cases p <;> simp_all [isLeaving, isOver]

namespace TcpDriver

/-- A driver that left is leaving. -/
@[simp] lemma isLeaving_leave (d : TcpDriver) (reason : CloseReason) :
    (d.leave reason).1.phase.isLeaving = true := by
  obtain ⟨posted, queue, phase, hleave, rfl | ⟨⟨chunk, rfl⟩, -⟩⟩ := d.fst_leave reason
  · simp [hleave, TcpPhase.isLeaving]
  · simp [hleave, TcpPhase.isLeaving]

/-- A driver that goes on writing out is still leaving. -/
@[simp] lemma isLeaving_nextChunk (d : TcpDriver) : d.nextChunk.phase.isLeaving = true := by
  obtain ⟨queue, phase, hnext, ⟨chunk, rfl⟩ | ⟨rfl, -⟩⟩ := d.nextChunk_eq
  · simp [hnext, TcpPhase.isLeaving]
  · simp [hnext, TcpPhase.isLeaving]

/-- A driver that leaves is in no phase of another stage. -/
lemma ne_of_isLeaving {p q : TcpPhase} (hp : p.isLeaving = true) (hq : q.isLeaving = false) :
    p ≠ q := by
  rintro rfl
  simp [hp] at hq

/-- The parts of a driver that was started agree with each other. -/
structure Coherent (d : TcpDriver) : Prop where
  /-- The driver was started. -/
  started : d.phase ≠ .fresh
  /-- An active driver has no reason to leave, takes requests, and its connection runs. -/
  active : d.phase.isActive = true →
    d.reason = none ∧ d.mailbox.isOpen = true ∧ d.connection.state = .running
  /-- A leaving driver has a reason, takes no requests, and its connection is closing. -/
  leaving : d.phase.isLeaving = true →
    d.reason.isSome = true ∧ d.mailbox.isOpen = false ∧ d.connection.state = .closing
  /-- A driver that is over takes no requests, and its connection is closed. -/
  ended : d.phase.isOver = true → d.mailbox.isOpen = false ∧ d.connection.state = .closed
  /-- Only a driver with time to write out does so, and it has taken all requests up. -/
  writingOut : d.phase.isWritingOut = true →
    d.mailbox.posted = [] ∧ d.linger.isSome = true ∧
      ∃ reason, d.reason = some reason ∧ reason.isOrderly = true
  /-- Behind the last chunk nothing is queued. -/
  settling : d.phase = .settling → d.queue.entries = []

namespace Coherent

variable {d : TcpDriver}

/-- A driver that takes requests is active. -/
lemma isActive_of_isOpen (h : d.Coherent) (hopen : d.mailbox.isOpen = true) :
    d.phase.isActive = true := by
  by_contra hidle
  have hclosed : d.mailbox.isOpen = false := by
    rcases d.phase.isActive_or with hactive | hleaving | hover
    · exact absurd hactive hidle
    · exact (h.leaving hleaving).2.1
    · exact (h.ended hover).1
  simp [hopen] at hclosed

/-- A started driver that serves a running connection is coherent. -/
lemma ofActive (hstarted : d.phase ≠ .fresh) (hactive : d.phase.isActive = true)
    (hparts : d.reason = none ∧ d.mailbox.isOpen = true ∧ d.connection.state = .running) :
    d.Coherent where
  started := hstarted
  active _ := hparts
  leaving hleaving := by cases hphase : d.phase <;> simp_all [TcpPhase.isActive, TcpPhase.isLeaving]
  ended hover := by cases hphase : d.phase <;> simp_all [TcpPhase.isActive, TcpPhase.isOver]
  writingOut hout := by
    cases hphase : d.phase <;> simp_all [TcpPhase.isActive, TcpPhase.isWritingOut]
  settling hsettling := by simp [hsettling, TcpPhase.isActive] at hactive

/-- A driver that takes no requests and is at the end of its socket is coherent. -/
lemma ofShutting (hphase : d.phase = .shutting)
    (hparts : d.reason.isSome = true ∧ d.mailbox.isOpen = false ∧ d.connection.state = .closing) :
    d.Coherent where
  started := by simp [hphase]
  active hactive := by simp [hphase, TcpPhase.isActive] at hactive
  leaving _ := hparts
  ended hover := by simp [hphase, TcpPhase.isOver] at hover
  writingOut hout := by simp [hphase, TcpPhase.isWritingOut] at hout
  settling hsettling := by simp [hphase] at hsettling

/-- A driver that takes no requests and whose connection is closed is coherent once it is over. -/
lemma ofOver (hover : d.phase.isOver = true)
    (hparts : d.mailbox.isOpen = false ∧ d.connection.state = .closed) : d.Coherent where
  started hfresh := by simp [hfresh, TcpPhase.isOver] at hover
  active hactive := by cases hphase : d.phase <;> simp_all [TcpPhase.isActive, TcpPhase.isOver]
  leaving hleaving := by cases hphase : d.phase <;> simp_all [TcpPhase.isLeaving, TcpPhase.isOver]
  ended _ := hparts
  writingOut hout := by
    cases hphase : d.phase <;> simp_all [TcpPhase.isOver, TcpPhase.isWritingOut]
  settling hsettling := by simp [hsettling, TcpPhase.isOver] at hover

/-- Whatever becomes of the data of an active driver, it stays coherent. -/
lemma withData (h : d.Coherent) (hactive : d.phase.isActive = true) {d' : TcpDriver}
    (hconnection : d'.connection = d.connection) (hreason : d'.reason = d.reason)
    (hopen : d'.mailbox.isOpen = d.mailbox.isOpen) (hstarted : d'.phase ≠ .fresh)
    (hactive' : d'.phase.isActive = true) : d'.Coherent := by
  refine ofActive hstarted hactive' ?_
  rw [hconnection, hreason, hopen]
  exact h.active hactive

end Coherent

/-- A driver that leaves is coherent. -/
lemma coherent_leave (d : TcpDriver) (reason : CloseReason) : (d.leave reason).1.Coherent := by
  obtain ⟨posted, queue, phase, hleave, hshut | ⟨⟨chunk, rfl⟩, hposted, horderly, hlinger⟩⟩ :=
    d.fst_leave reason
  · rw [hleave]
    exact .ofShutting hshut ⟨rfl, rfl, rfl⟩
  · rw [hleave]
    exact {
      started := by simp
      active := by simp [TcpPhase.isActive]
      leaving := fun _ => ⟨rfl, rfl, rfl⟩
      ended := by simp [TcpPhase.isOver]
      writingOut := fun _ => ⟨hposted, hlinger, reason, rfl, horderly⟩
      settling := by simp }

/-- A driver that goes on writing out stays coherent. -/
lemma Coherent.nextChunk {d : TcpDriver} (h : d.Coherent) (hout : d.phase.isWritingOut = true) :
    d.nextChunk.Coherent := by
  have hleaving : d.phase.isLeaving = true := by
    cases hphase : d.phase <;> simp_all [TcpPhase.isLeaving, TcpPhase.isWritingOut]
  obtain ⟨queue, phase, hnext, ⟨chunk, rfl⟩ | ⟨rfl, hqueue, hempty⟩⟩ := d.nextChunk_eq
  · rw [hnext]
    exact {
      started := by simp
      active := by simp [TcpPhase.isActive]
      leaving := fun _ => h.leaving hleaving
      ended := by simp [TcpPhase.isOver]
      writingOut := fun _ => h.writingOut hout
      settling := by simp }
  · rw [hnext]
    exact {
      started := by simp
      active := by simp [TcpPhase.isActive]
      leaving := fun _ => h.leaving hleaving
      ended := by simp [TcpPhase.isOver]
      writingOut := fun _ => h.writingOut hout
      settling := fun _ => hqueue ▸ hempty }

/-- A driver that takes no requests is coherent once it has announced the end. -/
lemma coherent_finish {d : TcpDriver} (hopen : d.mailbox.isOpen = false) : d.finish.1.Coherent :=
  .ofOver rfl ⟨hopen, rfl⟩

/-- No step takes the parts of a started driver apart. -/
theorem coherent_step {d : TcpDriver} (h : d.Coherent) (e : Event) : (d.step e).1.Coherent := by
  have hmove := d.move_step e
  generalize d.step e = r at hmove
  cases hmove with
  | stay => exact h
  | post data isOpen =>
    have hactive := h.isActive_of_isOpen isOpen
    exact h.withData hactive rfl rfl rfl h.started hactive
  | postMark mark isOpen =>
    have hactive := h.isActive_of_isOpen isOpen
    exact h.withData hactive rfl rfl rfl h.started hactive
  | postClose isOpen =>
    have hactive := h.isActive_of_isOpen isOpen
    exact h.withData hactive rfl rfl rfl h.started hactive
  | announce phase => exact absurd phase h.started
  | enqueue data rest phase posted =>
    have hactive : d.phase.isActive = true := by simp [phase, TcpPhase.isActive]
    exact h.withData hactive rfl rfl rfl h.started hactive
  | adopt mark rest phase posted =>
    have hactive : d.phase.isActive = true := by simp [phase, TcpPhase.isActive]
    exact h.withData hactive rfl rfl rfl h.started hactive
  | obey rest phase posted => exact coherent_leave _ _
  | giveUp _ reason phase why => exact coherent_leave _ _
  | gather bytes can some below =>
    have hactive : d.phase.isActive = true := by
      simp [(waiting_of_canRead can).1, TcpPhase.isActive]
    exact h.withData hactive rfl rfl rfl h.started hactive
  | tell bytes can some reached =>
    have hactive : d.phase.isActive = true := by
      simp [(waiting_of_canRead can).1, TcpPhase.isActive]
    exact h.withData hactive rfl rfl rfl (by simp) rfl
  | write n can some phase next =>
    have hactive : d.phase.isActive = true := by
      simp [(waiting_of_canWrite can).1, TcpPhase.isActive]
    rcases next with rfl | ⟨rfl, -⟩
    · exact h.withData hactive rfl rfl rfl (by simp) rfl
    · exact h.withData hactive rfl rfl rfl (by simp) rfl
  | flushFailed source phase => exact coherent_leave _ _
  | drain phase =>
    have hactive : d.phase.isActive = true := by simp [phase, TcpPhase.isActive]
    exact h.withData hactive rfl rfl rfl (by simp) rfl
  | emptyPart chunk written n phase some part =>
    have hout : d.phase.isWritingOut = true := by simp [phase, TcpPhase.isWritingOut]
    have hleaving : d.phase.isLeaving = true := by simp [phase, TcpPhase.isLeaving]
    exact {
      started := by simp
      active := by simp [TcpPhase.isActive]
      leaving := fun _ => h.leaving hleaving
      ended := by simp [TcpPhase.isOver]
      writingOut := fun _ => h.writingOut hout
      settling := by simp }
  | emptyRest chunk written n phase some rest =>
    exact h.nextChunk (by simp [phase, TcpPhase.isWritingOut])
  | cut _ chunk written phase how =>
    exact .ofShutting rfl (h.leaving (by simp [phase, TcpPhase.isLeaving]))
  | settle _ phase => exact .ofShutting rfl (h.leaving (by simp [phase, TcpPhase.isLeaving]))
  | shut phase => exact coherent_finish (h.leaving (by simp [phase, TcpPhase.isLeaving])).2.1
  | remove _ length how phase enough =>
    have hactive : d.phase.isActive = true := by simp [phase, TcpPhase.isActive]
    exact h.withData hactive rfl rfl rfl h.started hactive
  | set mark phase =>
    have hactive : d.phase.isActive = true := by simp [phase, TcpPhase.isActive]
    exact h.withData hactive rfl rfl rfl h.started hactive
  | keep phase =>
    have hactive : d.phase.isActive = true := by
      rcases phase with phase | phase | phase <;> simp [phase, TcpPhase.isActive]
    exact h.withData hactive rfl rfl rfl (by simp) rfl
  | reject phase => exact coherent_finish rfl
  | refuse phase => exact coherent_leave _ _
  | part keep phase =>
    exact .ofOver rfl ⟨rfl, (h.ended (by simp [phase, TcpPhase.isOver])).2⟩
  | discard phase => exact absurd phase h.started
  | abandon phase => exact coherent_finish rfl

/-! ### What never changes -/

/-- The connection's name and the driver's settings are those of the start. -/
structure SameSettings (d d' : TcpDriver) : Prop where
  /-- The id of the connection. -/
  id : d'.id = d.id
  /-- How the connection came to exist. -/
  opening : d'.opening = d.opening
  /-- The identity of the connection. -/
  identity : d'.connection.identity = d.connection.identity
  /-- The size of reads. -/
  chunkSize : d'.chunkSize = d.chunkSize
  /-- The closing time. -/
  linger : d'.linger = d.linger

lemma SameSettings.refl (d : TcpDriver) : SameSettings d d := ⟨rfl, rfl, rfl, rfl, rfl⟩

lemma SameSettings.trans {d d' d'' : TcpDriver} (h : SameSettings d d') (k : SameSettings d' d'') :
    SameSettings d d'' :=
  ⟨k.id.trans h.id, k.opening.trans h.opening, k.identity.trans h.identity,
    k.chunkSize.trans h.chunkSize, k.linger.trans h.linger⟩

lemma sameSettings_leave (d : TcpDriver) (reason : CloseReason) :
    SameSettings d (d.leave reason).1 := by
  obtain ⟨posted, queue, phase, hleave, -⟩ := d.fst_leave reason
  rw [hleave]
  exact ⟨rfl, rfl, rfl, rfl, rfl⟩

lemma sameSettings_step (d : TcpDriver) (e : Event) : SameSettings d (d.step e).1 := by
  have hmove := d.move_step e
  generalize d.step e = r at hmove
  cases hmove with
  | obey rest =>
    refine SameSettings.trans ?_ (sameSettings_leave _ _)
    exact ⟨rfl, rfl, rfl, rfl, rfl⟩
  | giveUp =>
    refine SameSettings.trans ?_ (sameSettings_leave _ _)
    exact ⟨rfl, rfl, rfl, rfl, rfl⟩
  | flushFailed => exact sameSettings_leave _ _
  | refuse => exact sameSettings_leave _ _
  | emptyRest =>
    obtain ⟨queue, phase, hnext, -⟩ := d.nextChunk_eq
    rw [hnext]
    exact ⟨rfl, rfl, rfl, rfl, rfl⟩
  | _ => exact ⟨rfl, rfl, rfl, rfl, rfl⟩

/-! ### Runs -/

/-- The driver of a new connection, which runs and has sent and received nothing. -/
def ofConnection (c : TcpConnection) (opening : Opening) (chunkSize : Nat) (linger : Option Nat) :
    TcpDriver :=
  { connection := c.withState .running, opening, chunkSize, linger }

/-- A run is an iteration of steps. -/
lemma run_eq_iterate (d : TcpDriver) (es : List Event) : d.run es = Noted.iterate step d es := by
  induction es generalizing d with
  | nil => rfl
  | cons e es ih => simp [run, Noted.iterate, Noted.andThen, ih]

/-- What holds at the start of a run and is preserved by every further step holds at each of its
moments. -/
lemma run_induction {d : TcpDriver} {motive : List Event → TcpDriver → List Note → Prop}
    (start : motive [] d [])
    (next : ∀ es e, motive es (d.run es).1 (d.run es).2 →
      motive (es ++ [e]) ((d.run es).1.step e).1 ((d.run es).2 ++ ((d.run es).1.step e).2))
    (es : List Event) : motive es (d.run es).1 (d.run es).2 := by
  simp only [run_eq_iterate] at next ⊢
  exact Noted.iterate_induction start next es

/-- A run over two sequences is the run over the first, gone on with the second. -/
lemma run_append (d : TcpDriver) (es fs : List Event) :
    d.run (es ++ fs) = (d.run es).andThen fun d => d.run fs := by
  simp only [run_eq_iterate]
  exact Noted.iterate_append step d es fs

/-- A run with one more event. -/
lemma run_concat (d : TcpDriver) (es : List Event) (e : Event) :
    d.run (es ++ [e]) =
      (((d.run es).1.step e).1, (d.run es).2 ++ ((d.run es).1.step e).2) := by
  simp only [run_eq_iterate]
  exact Noted.iterate_concat step d es e

/-- No run changes the settings of a driver. -/
lemma sameSettings_run (d : TcpDriver) (es : List Event) : SameSettings d (d.run es).1 :=
  run_induction (motive := fun _ d' _ => SameSettings d d') (.refl d)
    (fun _ e ih => ih.trans (sameSettings_step _ e)) es

/-- The id is that of the start. -/
@[simp] lemma id_run (d : TcpDriver) (es : List Event) : (d.run es).1.id = d.id :=
  (d.sameSettings_run es).id

/-- A started driver stays coherent. -/
theorem coherent_run {d : TcpDriver} (h : d.Coherent) (es : List Event) :
    (d.run es).1.Coherent :=
  run_induction (motive := fun _ d _ => d.Coherent) h (fun _ e ih => coherent_step ih e) es

/-- A driver that was never started waits for that, or was dropped without it. -/
structure Unstarted (d : TcpDriver) : Prop where
  /-- It has not left. -/
  reason : d.reason = none
  /-- Before it is dropped it takes requests, and its connection runs. -/
  fresh : d.phase = .fresh ∧ d.mailbox.isOpen = true ∧ d.connection.state = .running ∨
    d.phase.isOver = true

/-- Only the start makes something else of a driver that was never started. -/
lemma Unstarted.step {d : TcpDriver} (h : d.Unstarted) (e : Event) :
    (d.step e).1.Unstarted ∨
      (d.step e).1.Coherent ∧ (d.step e).1.phase = .opening ∧ e = .start := by
  have hmove := d.move_step e
  generalize d.step e = r at hmove
  obtain ⟨hreason, ⟨hphase, hopen, hstate⟩ | hover⟩ := h
  · cases hmove with
    | stay => exact .inl ⟨hreason, .inl ⟨hphase, hopen, hstate⟩⟩
    | post => exact .inl ⟨hreason, .inl ⟨hphase, hopen, hstate⟩⟩
    | postMark => exact .inl ⟨hreason, .inl ⟨hphase, hopen, hstate⟩⟩
    | postClose => exact .inl ⟨hreason, .inl ⟨hphase, hopen, hstate⟩⟩
    | announce => exact .inr ⟨.ofActive (by simp) rfl ⟨hreason, hopen, hstate⟩, rfl, rfl⟩
    | discard => exact .inl ⟨hreason, .inr rfl⟩
    | gather _ can => simp [(waiting_of_canRead can).1] at hphase
    | tell _ can => simp [(waiting_of_canRead can).1] at hphase
    | write _ can => simp [(waiting_of_canWrite can).1] at hphase
    | _ => simp_all
  · cases hmove with
    | stay => exact .inl ⟨hreason, .inr hover⟩
    | post => exact .inl ⟨hreason, .inr hover⟩
    | postMark => exact .inl ⟨hreason, .inr hover⟩
    | postClose => exact .inl ⟨hreason, .inr hover⟩
    | part => exact .inl ⟨hreason, .inr rfl⟩
    | gather _ can => simp [(waiting_of_canRead can).1, TcpPhase.isOver] at hover
    | tell _ can => simp [(waiting_of_canRead can).1, TcpPhase.isOver] at hover
    | write _ can => simp [(waiting_of_canWrite can).1, TcpPhase.isOver] at hover
    | keep phase =>
      rcases phase with phase | phase | phase <;> simp [phase, TcpPhase.isOver] at hover
    | refuse phase => rcases phase with phase | phase <;> simp [phase, TcpPhase.isOver] at hover
    | abandon phase =>
      rcases phase with phase | phase | ⟨_, _, phase⟩ | phase | phase <;>
        simp [phase, TcpPhase.isOver] at hover
    | _ => simp_all [TcpPhase.isOver]

/-- The driver of a new connection waits to be started. -/
lemma unstarted_ofConnection (c : TcpConnection) (opening : Opening) (chunkSize : Nat)
    (linger : Option Nat) : (ofConnection c opening chunkSize linger).Unstarted :=
  ⟨rfl, .inl ⟨rfl, rfl, rfl⟩⟩

/-- At every moment of its runs the driver of a new connection was never started or is coherent. -/
theorem unstarted_or_coherent_run (c : TcpConnection) (opening : Opening) (chunkSize : Nat)
    (linger : Option Nat) (es : List Event) :
    ((ofConnection c opening chunkSize linger).run es).1.Unstarted ∨
      ((ofConnection c opening chunkSize linger).run es).1.Coherent := by
  refine run_induction (motive := fun _ d _ => d.Unstarted ∨ d.Coherent)
    (.inl (unstarted_ofConnection c opening chunkSize linger)) (fun es e ih => ?_) es
  rcases ih with hun | hco
  · rcases hun.step e with h | h
    · exact .inl h
    · exact .inr h.1
  · exact .inr (coherent_step hco e)

end TcpDriver

end Switchboard
