import Switchboard.Proofs.Tcp.Calls

/-!
# What a stream driver sends

A chunk that was granted passes from the mailbox to the queue, from there to the socket, and on the
way its front may already be gone.  `TcpDriver.backlog` puts the pieces that are still here together
again: the rest of the chunk that is being written out, then the queue, then the mailbox.  As long
as a driver has to do with data, what left and the backlog together are what was granted
(`TcpDriver.owed_run`). The requests for a watermark or for the end that stand between the chunks do
not count.

With no closing time nothing is written once the driver has left.  With one, writing out ends with
an empty backlog unless it is cut short (`TcpDriver.cutsShort`), so everything that was granted has
left when the end is announced (`TcpDriver.flushed_run`).
-/

namespace Switchboard

namespace TcpDriver

/-! ### The backlog -/

/-- What is left of the chunk that is being written out. -/
def inHand (d : TcpDriver) : Bytes :=
  match d.phase with
  | .emptying chunk written => chunk.drop written
  | _ => []

/-- What waits behind the chunk that is being written out: the queue, and then the mailbox. -/
def unsent (d : TcpDriver) : Bytes := d.queue.bytes ++ (chunksOf d.mailbox.posted).flatten

/-- All bytes that were granted and have not left, in order. -/
def backlog (d : TcpDriver) : Bytes := d.inHand ++ d.unsent

@[simp] lemma chunksOf_nil : chunksOf [] = [] := rfl

@[simp] lemma chunksOf_cons_send (data : Bytes) (rest : List TcpCommand) :
    chunksOf (.send data :: rest) = data :: chunksOf rest := rfl

@[simp] lemma chunksOf_cons_mark (mark : Nat) (rest : List TcpCommand) :
    chunksOf (.mark mark :: rest) = chunksOf rest := rfl

@[simp] lemma chunksOf_cons_close (rest : List TcpCommand) :
    chunksOf (.close :: rest) = chunksOf rest := rfl

@[simp] lemma chunksOf_append (l k : List TcpCommand) :
    chunksOf (l ++ k) = chunksOf l ++ chunksOf k := by
  simp [chunksOf]

/-- Chunks that join a queue one after the other follow its bytes. -/
lemma bytes_foldl_push (chunks : List Bytes) (q : SendQueue Bytes) :
    (chunks.foldl SendQueue.push q).bytes = q.bytes ++ chunks.flatten := by
  induction chunks generalizing q with
  | nil => simp
  | cons chunk chunks ih => rw [List.foldl_cons, ih, SendQueue.bytes_push]; simp

/-- Nothing waits in an empty queue. -/
lemma bytes_of_entries_eq_nil {q : SendQueue Bytes} (h : q.entries = []) : q.bytes = [] := by
  simp [SendQueue.bytes, h]

/-- A driver that does not write out has no chunk in hand. -/
lemma inHand_of_isWritingOut {d : TcpDriver} (h : d.phase.isWritingOut = false) :
    d.inHand = [] := by
  cases hphase : d.phase <;> simp_all [inHand, TcpPhase.isWritingOut]

/-- A waiting driver has no chunk in hand. -/
lemma inHand_of_waiting {d : TcpDriver} (h : d.phase = .waiting) : d.inHand = [] := by
  simp [inHand, h]

/-- The next chunk is taken from the front of the queue. -/
lemma backlog_nextChunk (d : TcpDriver) : d.nextChunk.backlog = d.unsent := by
  unfold nextChunk
  cases hfront : d.queue.front? with
  | none => simp [backlog, inHand, unsent]
  | some chunk =>
    have hentries : d.queue.entries = chunk :: d.queue.entries.tail :=
      (List.cons_head?_tail hfront).symm
    have hbytes : d.queue.bytes = chunk ++ d.queue.pop.bytes := by
      rw [SendQueue.bytes, hentries]
      rfl
    simp [backlog, inHand, unsent, hbytes]

/-- Leaving loses nothing. -/
lemma backlog_leave (d : TcpDriver) (reason : CloseReason) :
    (d.leave reason).1.backlog = d.unsent := by
  unfold leave
  dsimp only
  split
  · split
    · simp [backlog, inHand, unsent, Mailbox.close, bytes_foldl_push]
    · rw [backlog_nextChunk]
      simp [unsent, Mailbox.close, bytes_foldl_push]
  · rfl

/-! ### One step -/

/-- A step either moves bytes along without losing any, or it gives the backlog up; then nothing
passes, and the driver has nothing more to do with data. -/
lemma backlog_step (d : TcpDriver) (e : Event) :
    Note.stream .left d.id (d.step e).2 ++ (d.step e).1.backlog =
        d.backlog ++ Note.stream .posted d.id (d.step e).2 ∨
      Note.stream .left d.id (d.step e).2 = [] ∧ Note.stream .posted d.id (d.step e).2 = [] ∧
        (d.step e).1.phase.isMute = true := by
  have hmove := d.move_step e
  generalize d.step e = r at hmove
  cases hmove with
  | stay => exact .inl (by simp)
  | post data isOpen =>
    left
    simp [Note.stream, Note.data_cons, Note.datum?, backlog, inHand, unsent]
  | postMark mark isOpen => left; simp [backlog, inHand, unsent]
  | postClose isOpen => left; simp [backlog, inHand, unsent]
  | announce phase =>
    left
    simp [Note.stream, Note.data_cons, Note.datum?, backlog, inHand, unsent, phase]
  | enqueue data rest phase posted =>
    left
    simp [Note.stream, Note.data_cons, Note.datum?, backlog, inHand, unsent, prepared, phase,
      posted]
  | adopt mark rest phase posted =>
    left
    simp [backlog, inHand, unsent, prepared, phase, posted]
  | obey rest phase posted =>
    left
    rw [backlog_leave, backlog, inHand_of_waiting phase]
    simp [Note.stream, prepared, unsent, posted]
  | giveUp _ reason phase why =>
    left
    rw [backlog_leave, backlog, inHand_of_waiting phase]
    simp [Note.stream, prepared, unsent]
  | gather bytes can some below =>
    left
    simp [Note.stream, Note.data_cons, Note.datum?, backlog, inHand, unsent]
  | tell bytes can some reached =>
    left
    simp [Note.stream, Note.data_cons, Note.datum?, backlog, inHand, unsent,
      (waiting_of_canRead can).1]
  | write n can some phase next =>
    left
    have htaken := d.queue.take_append_bytes_advance n
    have hwaiting := (waiting_of_canWrite can).1
    rcases next with rfl | ⟨rfl, -⟩
    · simp [Note.stream, Note.data_cons, Note.datum?, backlog, ← htaken, inHand, unsent, prepared,
        hwaiting]
    · simp [Note.stream, Note.data_cons, Note.datum?, backlog, ← htaken, inHand, unsent, prepared,
        hwaiting]
  | flushFailed source phase =>
    left
    rw [backlog_leave, backlog, inHand_of_isWritingOut (by simp [phase, TcpPhase.isWritingOut])]
    simp [Note.stream]
  | drain phase =>
    left
    simp [Note.stream, Note.data_cons, Note.datum?, backlog, inHand, unsent, phase]
  | emptyPart chunk written n phase some part =>
    left
    have hsplit := List.take_append_drop n (chunk.drop written)
    rw [List.drop_drop] at hsplit
    simp only [Note.stream, Note.data_cons, Note.datum?, backlog, inHand, phase, unsent]
    simp [← List.append_assoc, hsplit]
  | emptyRest chunk written n phase some rest =>
    left
    rw [backlog_nextChunk]
    have hall : (chunk.drop written).take n = chunk.drop written :=
      List.take_of_length_le (by rw [List.length_drop]; omega)
    simp [Note.stream, Note.data_cons, Note.datum?, backlog, inHand, phase, hall]
  | cut _ chunk written phase how => exact .inr ⟨rfl, rfl, rfl⟩
  | settle _ phase => left; simp [backlog, inHand, unsent, phase]
  | shut phase =>
    left
    simp [Note.stream, Note.data_cons, Note.datum?, backlog, inHand, unsent, finish, phase]
  | remove _ length how phase enough =>
    left
    simp [Note.stream, Note.data_cons, Note.datum?, backlog, inHand, unsent]
  | set mark phase => left; simp [backlog, inHand, unsent]
  | keep phase =>
    left
    rcases phase with phase | phase | phase <;> simp [backlog, inHand, unsent, phase]
  | reject phase =>
    left
    simp [Note.stream, Note.data_cons, Note.datum?, backlog, inHand, unsent, finish, phase,
      Mailbox.close]
  | refuse phase =>
    left
    rw [backlog_leave, backlog, inHand_of_isWritingOut]
    · simp [Note.stream]
    · rcases phase with phase | phase <;> simp [phase, TcpPhase.isWritingOut]
  | part keep phase => exact .inr ⟨rfl, rfl, rfl⟩
  | discard phase =>
    left
    simp [Note.stream, Note.data_cons, Note.datum?, backlog, inHand, unsent, finish, phase]
  | abandon phase => exact .inr ⟨rfl, rfl, rfl⟩

/-- A driver that has nothing more to do with data sends nothing and stays as it is in that. -/
lemma step_of_isMute {d : TcpDriver} (hmute : d.phase.isMute = true) (e : Event) :
    (d.step e).1.phase.isMute = true ∧ (d.step e).1.reason = d.reason ∧
      Note.data .left d.id (d.step e).2 = [] := by
  have hmove := d.move_step e
  generalize d.step e = r at hmove
  cases hmove with
  | stay => exact ⟨hmute, rfl, rfl⟩
  | post data isOpen => exact ⟨hmute, rfl, by simp [Note.data_cons, Note.datum?]⟩
  | postMark => exact ⟨hmute, rfl, rfl⟩
  | postClose => exact ⟨hmute, rfl, rfl⟩
  | shut phase => exact ⟨rfl, rfl, rfl⟩
  | part keep phase => exact ⟨rfl, rfl, rfl⟩
  | abandon phase => exact ⟨rfl, rfl, rfl⟩
  | gather _ can => simp [(waiting_of_canRead can).1, TcpPhase.isMute] at hmute
  | tell _ can => simp [(waiting_of_canRead can).1, TcpPhase.isMute] at hmute
  | write _ can => simp [(waiting_of_canWrite can).1, TcpPhase.isMute] at hmute
  | keep phase => rcases phase with phase | phase | phase <;> simp [phase, TcpPhase.isMute] at hmute
  | refuse phase => rcases phase with phase | phase <;> simp [phase, TcpPhase.isMute] at hmute
  | _ => simp_all [TcpPhase.isMute]

/-- What has nothing to do with data stays so, and sends nothing. -/
lemma run_of_isMute {d : TcpDriver} (hmute : d.phase.isMute = true) (es : List Event) :
    Note.data .left d.id (d.run es).2 = [] ∧ (d.run es).1.phase.isMute = true := by
  refine run_induction (motive := fun _ d' history =>
    Note.data .left d.id history = [] ∧ d'.phase.isMute = true) ⟨rfl, hmute⟩ (fun es e ih => ?_) es
  obtain ⟨hmute', -, hleft⟩ := step_of_isMute ih.2 e
  rw [id_run] at hleft
  exact ⟨by rw [Note.data_append, ih.1, hleft, List.append_nil], hmute'⟩

/-! ### What was granted -/

/-- The chunk that an event asks to send, if that is granted. -/
def grant? (d : TcpDriver) : Event → Option Bytes
  | .request (.chunk data) => if (d.request (.chunk data)).1 then some data else none
  | _ => none

/-- The chunks whose sending is granted in a run, in the order in which they are asked for. -/
def granted (d : TcpDriver) : List Event → List Bytes
  | [] => []
  | e :: es => (d.grant? e).toList ++ (d.step e).1.granted es

/-- The chunk that a step grants is the one that it posts. -/
lemma posted_step (d : TcpDriver) (e : Event) :
    Note.data .posted d.id (d.step e).2 = (d.grant? e).toList := by
  by_cases hsend : ∃ data, e = .request (.chunk data)
  · obtain ⟨data, rfl⟩ := hsend
    cases hopen : d.mailbox.isOpen <;>
      simp [step, request, grant?, Mailbox.post, hopen, Note.data_cons, Note.datum?]
  · have hnone : d.grant? e = none := by
      cases e with
      | request r => cases r <;> simp_all [grant?]
      | _ => rfl
    have hmove := d.move_step e
    generalize d.step e = r at hmove
    rw [hnone, Option.toList_none]
    cases hmove with
    | post data isOpen => exact absurd ⟨data, rfl⟩ hsend
    | obey rest phase posted => simp [prepared]
    | giveUp _ reason phase why => simp [prepared]
    | flushFailed source phase => simp
    | refuse phase => simp
    | _ => rfl

/-- A driver that takes no requests grants none. -/
lemma posted_of_closed {d : TcpDriver} (hclosed : d.mailbox.isOpen = false) (e : Event) :
    Note.stream .posted d.id (d.step e).2 = [] := by
  have hnone : d.grant? e = none := by
    cases e with
    | request r => cases r <;> simp [grant?, request, Mailbox.post, hclosed]
    | _ => rfl
  exact Note.stream_of_data_eq_nil (by rw [posted_step, hnone, Option.toList_none])

/-- The granted chunks are those that were posted. -/
lemma posted_run (d : TcpDriver) (es : List Event) :
    Note.data .posted d.id (d.run es).2 = d.granted es := by
  induction es generalizing d with
  | nil => rfl
  | cons e es ih =>
    have hid : (d.step e).1.id = d.id := (d.sameSettings_step e).id
    simp only [run, Noted.andThen, Note.data_append, granted, posted_step]
    rw [← hid, ih]

/-! ### Whole runs -/

variable (c : TcpConnection) (opening : Opening) (chunkSize : Nat) (linger : Option Nat)

/-- What left is a part from the front of what was granted, and as long as the driver has to do with
data the rest is its backlog. -/
theorem owed_run (es : List Event) :
    let start := ofConnection c opening chunkSize linger
    Note.stream .left c.id (start.run es).2 <+: Note.stream .posted c.id (start.run es).2 ∧
      ((start.run es).1.phase.isMute = false →
        Note.stream .left c.id (start.run es).2 ++ (start.run es).1.backlog =
          Note.stream .posted c.id (start.run es).2) := by
  intro start
  induction es using List.reverseRecOn with
  | nil => exact ⟨List.prefix_rfl, fun _ => rfl⟩
  | append_singleton es e ih =>
    obtain ⟨hpart, howed⟩ := ih
    have hid : (start.run es).1.id = c.id := id_run start es
    rw [run_concat, Note.stream_append, Note.stream_append]
    cases hmute : (start.run es).1.phase.isMute with
    | true =>
      obtain ⟨hmute', -, hleft⟩ := step_of_isMute hmute e
      rw [hid] at hleft
      refine ⟨?_, fun h => absurd hmute' (by simp [h])⟩
      rw [Note.stream_of_data_eq_nil hleft, List.append_nil]
      exact hpart.trans (List.prefix_append _ _)
    | false =>
      have howed := howed hmute
      rcases backlog_step (start.run es).1 e with hstep | ⟨hleft, hposted, hmute'⟩
      · rw [hid] at hstep
        have hnext : Note.stream .left c.id (start.run es).2 ++
            Note.stream .left c.id ((start.run es).1.step e).2 ++
              ((start.run es).1.step e).1.backlog =
            Note.stream .posted c.id (start.run es).2 ++
              Note.stream .posted c.id ((start.run es).1.step e).2 := by
          rw [List.append_assoc, hstep, ← List.append_assoc, howed]
        exact ⟨⟨_, hnext⟩, fun _ => hnext⟩
      · rw [hid] at hleft hposted
        refine ⟨?_, fun h => absurd hmute' (by simp [h])⟩
        simpa [hleft, hposted] using hpart

/-! ### Writing out -/

/-- Whether an event cuts the writing out of what is left short: the socket fails, the closing time
is over, or the loop drops the driver. -/
def cutsShort (d : TcpDriver) (e : Event) : Bool :=
  match d.phase, e with
  | .emptying _ _, .writeDone (.error _) | .emptying _ _, .writeDone (.ok 0)
  | .emptying _ _, .lingerOver | .emptying _ _, .abort => true
  | _, _ => false

/-- Whether in a run nothing cuts the writing out of what is left short. -/
def writesOut (d : TcpDriver) : List Event → Bool
  | [] => true
  | e :: es => !d.cutsShort e && (d.step e).1.writesOut es

lemma writesOut_concat (d : TcpDriver) (es : List Event) (e : Event) :
    d.writesOut (es ++ [e]) = (d.writesOut es && !(d.run es).1.cutsShort e) := by
  induction es generalizing d with
  | nil => simp [writesOut, run]
  | cons e' es ih => simp [writesOut, run, Noted.andThen, ih, Bool.and_assoc]

/-- With time to write out, a driver that leaves in an orderly way and goes straight on to the end
of its socket has nothing left. -/
lemma unsent_of_isMute_leave {d : TcpDriver} {reason : CloseReason}
    (horderly : reason.isOrderly = true) (hlinger : d.linger.isSome = true)
    (hmute : (d.leave reason).1.phase.isMute = true) : d.unsent = [] := by
  unfold leave at hmute
  simp only [horderly, hlinger, Bool.and_self, if_true] at hmute
  split at hmute
  · rename_i hempty
    have hbytes := bytes_of_entries_eq_nil ((SendQueue.isEmpty_iff _).mp hempty)
    rwa [bytes_foldl_push] at hbytes
  · rename_i hqueue
    obtain ⟨queue, phase, hnext, ⟨chunk, rfl⟩ | ⟨rfl, -⟩⟩ := nextChunk_eq _
    · rw [hnext] at hmute
      simp [TcpPhase.isMute] at hmute
    · rw [hnext] at hmute
      simp [TcpPhase.isMute] at hmute

/-- A driver that left in an orderly way, with time to write out that was not cut short, comes to
the end of its socket with nothing left. -/
lemma backlog_of_isMute_step {d : TcpDriver} (h : d.Coherent) (hlinger : d.linger.isSome = true)
    (hbusy : d.phase.isMute = false) {e : Event} (hmute : (d.step e).1.phase.isMute = true)
    {reason : CloseReason} (hreason : (d.step e).1.reason = some reason)
    (horderly : reason.isOrderly = true) (hcut : d.cutsShort e = false) :
    d.backlog = [] ∧ Note.stream .left d.id (d.step e).2 = [] ∧
      Note.stream .posted d.id (d.step e).2 = [] := by
  -- an active driver has not left
  have hidle (hactive : d.phase.isActive = true) (hsame : d.reason = some reason) : False := by
    simp [(h.active hactive).1] at hsame
  have hmove := d.move_step e
  generalize d.step e = r at hmove hmute hreason
  cases hmove with
  | obey rest phase posted =>
    have hunsent := unsent_of_isMute_leave
      (d := { d.prepared with mailbox := { d.mailbox with posted := rest } }) rfl hlinger hmute
    refine ⟨?_, by simp [Note.stream, prepared], by simp [Note.stream, prepared]⟩
    rw [backlog, inHand_of_waiting phase]
    simpa [unsent, prepared, posted] using hunsent
  | giveUp _ why phase hwhy =>
    have hsame : why = reason := by
      obtain ⟨posted, queue, phase, hleave, -⟩ := d.prepared.fst_leave why
      simpa [hleave] using hreason
    have hunsent := unsent_of_isMute_leave (d := d.prepared) (hsame ▸ horderly) hlinger hmute
    refine ⟨?_, by simp [Note.stream, prepared], by simp [Note.stream, prepared]⟩
    rw [backlog, inHand_of_waiting phase]
    exact hunsent
  | flushFailed source phase =>
    have hsame : CloseReason.failed source = reason := by
      obtain ⟨posted, queue, phase, hleave, -⟩ := d.fst_leave (.failed source)
      simpa [hleave] using hreason
    simp [← hsame, CloseReason.isOrderly] at horderly
  | refuse phase =>
    have hunsent := unsent_of_isMute_leave rfl hlinger hmute
    refine ⟨?_, by simp [Note.stream], by simp [Note.stream]⟩
    rw [backlog, inHand_of_isWritingOut, hunsent, List.append_nil]
    rcases phase with phase | phase <;> simp [phase, TcpPhase.isWritingOut]
  | cut _ chunk written phase how =>
    rcases how with ⟨source, rfl⟩ | rfl | rfl <;> simp [cutsShort, phase] at hcut
  | settle _ phase =>
    have hqueue := bytes_of_entries_eq_nil (h.settling phase)
    have hposted := (h.writingOut (by simp [phase, TcpPhase.isWritingOut])).1
    exact ⟨by simp [backlog, inHand, unsent, phase, hqueue, hposted], rfl, rfl⟩
  | reject phase => exact (hidle (by simp [phase, TcpPhase.isActive]) hreason).elim
  | discard phase => exact absurd phase h.started
  | abandon phase =>
    rcases phase with phase | phase | ⟨chunk, written, phase⟩ | phase | phase
    · exact (hidle (by simp [phase, TcpPhase.isActive]) hreason).elim
    · exact (hidle (by simp [phase, TcpPhase.isActive]) hreason).elim
    · simp [cutsShort, phase] at hcut
    · have hqueue := bytes_of_entries_eq_nil (h.settling phase)
      have hposted := (h.writingOut (by simp [phase, TcpPhase.isWritingOut])).1
      exact ⟨by simp [backlog, inHand, unsent, phase, hqueue, hposted], rfl, rfl⟩
    · simp [phase, TcpPhase.isMute] at hbusy
  | shut phase => simp [phase, TcpPhase.isMute] at hbusy
  | part keep phase => simp [phase, TcpPhase.isMute] at hbusy
  | write n can some phase next =>
    rcases next with rfl | ⟨rfl, -⟩ <;> simp [TcpPhase.isMute] at hmute
  | emptyRest chunk written n phase some rest =>
    obtain ⟨queue, phase, hnext, ⟨chunk, rfl⟩ | ⟨rfl, -⟩⟩ := d.nextChunk_eq <;>
      simp [hnext, TcpPhase.isMute] at hmute
  | _ => simp_all [TcpPhase.isMute, prepared]

/-- A driver that has nothing more to do with data takes no requests. -/
lemma closed_of_isMute {d : TcpDriver} (h : d.Coherent) (hmute : d.phase.isMute = true) :
    d.mailbox.isOpen = false := by
  by_contra hopen
  have hactive := h.isActive_of_isOpen (by simpa using hopen)
  cases hphase : d.phase <;> simp_all [TcpPhase.isActive, TcpPhase.isMute]

/-- With time to write out that was not cut short, a driver that left in an orderly way has sent all
that was granted by the time it comes to the end of its socket. -/
theorem flushed_run (hlinger : linger.isSome = true) (es : List Event) :
    let start := ofConnection c opening chunkSize linger
    start.writesOut es = true → (start.run es).1.phase.isMute = true →
      ∀ reason, (start.run es).1.reason = some reason → reason.isOrderly = true →
        Note.stream .left c.id (start.run es).2 = Note.stream .posted c.id (start.run es).2 := by
  intro start
  induction es using List.reverseRecOn with
  | nil => intro _ _ _ _ _; rfl
  | append_singleton es e ih =>
    intro hout hmute' reason hreason horderly
    obtain ⟨hout, hcut⟩ := Bool.and_eq_true_iff.mp (writesOut_concat start es e ▸ hout)
    have hcut : (start.run es).1.cutsShort e = false := by simpa using hcut
    have hid : (start.run es).1.id = c.id := id_run start es
    have hpatient : (start.run es).1.linger.isSome = true := by
      rw [(start.sameSettings_run es).linger]
      exact hlinger
    rw [run_concat] at hmute' hreason ⊢
    have hco : (start.run es).1.Coherent := by
      rcases unstarted_or_coherent_run c opening chunkSize linger es with hun | hco
      · rcases hun.step e with hun' | ⟨-, hopening, -⟩
        · exact absurd (hun'.reason.symm.trans hreason) (by simp)
        · exact absurd (hopening ▸ hmute') (by simp [TcpPhase.isMute])
      · exact hco
    rw [Note.stream_append, Note.stream_append]
    cases hmute : (start.run es).1.phase.isMute with
    | true =>
      obtain ⟨-, hsame, hleft⟩ := step_of_isMute hmute e
      have hposted := posted_of_closed (closed_of_isMute hco hmute) e
      rw [hid] at hleft hposted
      rw [Note.stream_of_data_eq_nil hleft, hposted, List.append_nil, List.append_nil]
      exact ih hout hmute reason (hsame ▸ hreason) horderly
    | false =>
      obtain ⟨hnothing, hleft, hposted⟩ :=
        backlog_of_isMute_step hco hpatient hmute hmute' hreason horderly hcut
      have howed := (owed_run c opening chunkSize linger es).2 hmute
      change Note.stream .left c.id (start.run es).2 ++ (start.run es).1.backlog =
        Note.stream .posted c.id (start.run es).2 at howed
      rw [hid] at hleft hposted
      rw [hleft, hposted, List.append_nil, List.append_nil, ← howed, hnothing, List.append_nil]

/-- A driver that is over has nothing more to do with data. -/
lemma isMute_of_isOver {d : TcpDriver} (hover : d.phase.isOver = true) : d.phase.isMute = true := by
  cases hphase : d.phase <;> simp_all [TcpPhase.isOver, TcpPhase.isMute]

/-- With no time to write out, a driver that left has nothing more to do with data. -/
lemma isMute_of_linger_eq_none {d : TcpDriver} (h : d.Unstarted ∨ d.Coherent)
    (hlinger : d.linger = none) (hidle : d.phase.isActive = false) : d.phase.isMute = true := by
  rcases h with hun | hco
  · rcases hun.fresh with ⟨hphase, -⟩ | hover
    · simp [hphase, TcpPhase.isActive] at hidle
    · exact isMute_of_isOver hover
  · have hout : d.phase.isWritingOut = false := by
      by_contra hout
      have hpatient := (hco.writingOut (by simpa using hout)).2.1
      simp [hlinger] at hpatient
    cases hphase : d.phase <;>
      simp_all [TcpPhase.isActive, TcpPhase.isWritingOut, TcpPhase.isMute]

/-- At every moment of every run what the socket took over is a part from the front of the chunks
that were granted, one after the other.  With no closing time nothing is written once the driver
left.  With one, if the driver left for another reason than a failure and nothing cuts the writing
out of what is left short, the socket has taken over all of it when the end is announced. -/
theorem sends_in_order (es : List Event) :
    let start := ofConnection c opening chunkSize linger
    let r := start.run es
    let granted := (start.granted es).flatten
    Note.stream .left c.id r.2 <+: granted ∧
    (linger = none → r.1.phase.isActive = false →
      ∀ fs, Note.data .left c.id (r.1.run fs).2 = []) ∧
    (linger.isSome = true → start.writesOut es = true →
      ∀ reason, r.1.reason = some reason → reason.isOrderly = true →
        .close c.id .closed ∈ Note.callbacks r.2 → Note.stream .left c.id r.2 = granted) := by
  intro start r granted
  have hgranted : Note.stream .posted c.id r.2 = granted := by
    have hposted := posted_run start es
    exact congrArg List.flatten hposted
  refine ⟨?_, fun hlinger hidle fs => ?_, fun hlinger hout reason hreason horderly hclose => ?_⟩
  · rw [← hgranted]
    exact (owed_run c opening chunkSize linger es).1
  · have hid : r.1.id = c.id := id_run start es
    have hlinger : r.1.linger = none := (start.sameSettings_run es).linger.trans hlinger
    have hmute := isMute_of_linger_eq_none
      (unstarted_or_coherent_run c opening chunkSize linger es) hlinger hidle
    have hleft := (run_of_isMute hmute fs).1
    rwa [hid] at hleft
  · have hover : r.1.phase.isOver = true := isOver_of_close_mem (d := start) hclose
    rw [← hgranted]
    exact flushed_run c opening chunkSize linger hlinger es hout (isMute_of_isOver hover) reason
      hreason horderly

/-- Two chunks are granted before the request to close and one behind it; the first is written in
two pieces, one of them after the driver left, and all three have left at the end. -/
theorem sends_in_order_behind_close :
    let c : TcpConnection :=
      { id := ⟨1⟩, direction := .active, identity := .anonymous
        host := ⟨.loopback, 4000⟩, peer := ⟨.loopback, 80⟩ }
    let start := ofConnection c .connected 4 (some 1)
    let es : List Event :=
      [.start, .request (.chunk [1, 2, 3]), .returned true, .command, .writeDone (.ok 2),
        .request (.chunk [4]), .requestClose, .request (.chunk [5, 6]), .command, .command,
        .writeDone (.ok 1), .writeDone (.ok 1), .writeDone (.ok 2), .flushDone (.ok ()),
        .shutdownOver]
    start.granted es = [[1, 2, 3], [4], [5, 6]] ∧
      Note.data .left c.id (start.run es).2 = [[1, 2], [3], [4], [5, 6]] ∧
      Note.stream .left c.id (start.run es).2 = (start.granted es).flatten := by
  intro c start es
  have h := (sends_in_order c .connected 4 (some 1) es).2.2
  exact ⟨by decide +kernel, by decide +kernel,
    h rfl (by decide +kernel) .requested (by decide +kernel) rfl (by decide +kernel)⟩

end TcpDriver

end Switchboard
