import Switchboard.Proofs.Tcp.Spared

/-!
# What a stream driver offers its socket

A driver hands its socket space for a read wherever it waits (`TcpDriver.space?`), and bytes for a
write wherever there is something to be written (`TcpDriver.offer?`).  It takes a read that brings
nothing for the end of the stream, and a write that takes over nothing for a refusal.  Both would be
wrong of a read without space or of a write without bytes.

Space is as long as the reads of the driver are, whatever an overtaken read left of it.  Bytes for a
write are the front of a chunk that is under way, so what has to be kept is that no chunk is empty
anywhere on its way: `TcpDriver.Filled` says so of the mailbox, the queue and the chunk in hand.
Handles post no empty chunk, and a chunk that is written in pieces leaves the queue with its last
byte.

Hence a read that brings nothing means that the stream has ended, and a write that takes over
nothing that the socket refused it, and a driver that leaves for one of them leaves for good reason
(`TcpDriver.offersSome`).
-/

namespace Switchboard

/-! ### Queues without empty chunks -/

namespace SendQueue

/-- Chunks that join a queue one after the other stand behind its own. -/
lemma entries_foldl_push {α : Type} (chunks : List α) (q : SendQueue α) :
    (chunks.foldl push q).entries = q.entries ++ chunks := by
  induction chunks generalizing q with
  | nil => exact (List.append_nil _).symm
  | cons chunk chunks ih =>
    rw [List.foldl_cons, ih, entries_push, List.append_assoc, List.singleton_append]

/-- A write leaves something of the front chunk, or takes it out of the queue. -/
lemma ne_nil_of_mem_advance {q : SendQueue Bytes} (h : ∀ chunk ∈ q.entries, chunk ≠ []) (n : Nat) :
    ∀ chunk ∈ (q.advance n).1.entries, chunk ≠ [] := by
  rcases q with ⟨_ | ⟨front, rest⟩⟩
  · exact h
  · have hrest : ∀ chunk ∈ rest, chunk ≠ [] := fun chunk hchunk =>
      h chunk (List.mem_cons_of_mem _ hchunk)
    unfold advance
    dsimp only
    split
    · exact hrest
    · rename_i hpart
      refine List.forall_mem_cons.mpr ⟨List.ne_nil_of_length_pos ?_, hrest⟩
      rw [List.length_drop]
      omega

end SendQueue

namespace TcpDriver

/-! ### Offers -/

/-- The space that a driver hands to a read. -/
def space? (d : TcpDriver) : Option Bytes :=
  if d.phase = .waiting then some d.prepared.received.reserved else none

/-- The bytes that a driver hands to a write: in its wait the rest of the front chunk, and within
the closing time that of the chunk in hand. -/
def offer? (d : TcpDriver) : Option Bytes :=
  match d.phase with
  | .waiting => if d.queue.isEmpty then none else some d.queue.unwritten
  | .emptying chunk written => some (chunk.drop written)
  | _ => none

/-- The space for a read is as long as reads are. -/
lemma length_space {d : TcpDriver} {space : Bytes} (h : d.space? = some space) :
    space.length = d.chunkSize := by
  unfold space? at h
  split at h
  · obtain rfl := Option.some.inj h
    exact Bytes.length_zeros d.chunkSize
  · cases h

/-- Only where there was something to be written the outcome of a write matters. -/
lemma step_writeDone_of_no_offer {d : TcpDriver} (h : d.offer? = none)
    (outcome : Except SystemError Nat) : d.step (.writeDone outcome) = (d, []) := by
  unfold offer? at h
  split at h
  · rename_i phase
    have hempty : d.queue.isEmpty = true := by
      by_contra hqueue
      simp [hqueue] at h
    have hcannot : d.canWrite outcome = false := by
      cases outcome <;> simp [canWrite, hempty]
    simp [step, phase, hcannot]
  · cases h
  · rename_i hwaiting hemptying
    have hcannot : ¬d.canWrite outcome = true := fun hcan => hwaiting (waiting_of_canWrite hcan).1
    rw [step]
    split
    · exact absurd ‹_› (hemptying _ _)
    · exact if_neg hcannot

/-- Leaving is noted of chunks that join the queue only. -/
lemma notMem_leave {d : TcpDriver} {reason : CloseReason} {note : Note}
    (h : ∀ id data, note ≠ .queued id data) : note ∉ (d.leave reason).2 := by
  obtain ⟨chunks, hchunks⟩ := d.snd_leave reason
  intro hmem
  obtain ⟨chunk, -, hchunk⟩ := List.mem_map.mp (hchunks ▸ hmem)
  exact h _ _ hchunk.symm

/-- Nothing leaves but the front of what is offered, when the write of that ends. -/
lemma offer_of_left {d : TcpDriver} {e : Event} {id : ConnectionId} {bytes : Bytes}
    (h : .left id bytes ∈ (d.step e).2) :
    ∃ buffer n, d.offer? = some buffer ∧ e = .writeDone (.ok n) ∧ n ≠ 0 ∧ n ≤ buffer.length ∧
      id = d.id ∧ bytes = buffer.take n := by
  have hmove := d.move_step e
  generalize d.step e = r at hmove h
  cases hmove with
  | write n can some =>
    obtain ⟨⟨⟨phase, -⟩, hqueue⟩, hfits⟩ : ((d.phase = .waiting ∧ d.mailbox.posted = []) ∧
        d.queue.isEmpty = false) ∧ n ≤ d.queue.unwritten.length := by
      simpa [canWrite, listens] using can
    refine ⟨d.queue.unwritten, n, by simp [offer?, phase, hqueue], rfl, some, hfits, ?_⟩
    simpa using h
  | emptyPart chunk written n phase some part =>
    refine ⟨chunk.drop written, n, by simp [offer?, phase], rfl, some, ?_, by simpa using h⟩
    rw [List.length_drop]
    omega
  | emptyRest chunk written n phase some rest =>
    refine ⟨chunk.drop written, n, by simp [offer?, phase], rfl, some, ?_, by simpa using h⟩
    rw [List.length_drop]
    omega
  | obey | giveUp | flushFailed | refuse => exact absurd h (notMem_leave (by simp))
  | _ => simp [finish] at h

/-- Nothing comes in but into the space that is offered, when the read into it ends. -/
lemma space_of_arrived {d : TcpDriver} {e : Event} {id : ConnectionId} {bytes : Bytes}
    (h : .arrived id bytes ∈ (d.step e).2) :
    ∃ space, d.space? = some space ∧ e = .readDone (.ok bytes) ∧ bytes ≠ [] ∧
      bytes.length ≤ space.length := by
  have hmove := d.move_step e
  generalize d.step e = r at hmove h
  have hoffered : ∀ {read}, d.canRead (.ok read) = true →
      ∃ space, d.space? = some space ∧ read.length ≤ space.length := by
    intro read can
    have phase := (waiting_of_canRead can).1
    have hfits : read.length ≤ d.chunkSize := by simp_all [canRead]
    exact ⟨_, if_pos phase, hfits.trans_eq (Bytes.length_zeros d.chunkSize).symm⟩
  cases hmove with
  | gather read can some below =>
    obtain ⟨space, hspace, hfits⟩ := hoffered can
    obtain ⟨-, rfl⟩ : id = d.id ∧ bytes = read := by simpa using h
    exact ⟨space, hspace, rfl, some, hfits⟩
  | tell read can some reached =>
    obtain ⟨space, hspace, hfits⟩ := hoffered can
    obtain ⟨-, rfl⟩ : id = d.id ∧ bytes = read := by simpa using h
    exact ⟨space, hspace, rfl, some, hfits⟩
  | obey | giveUp | flushFailed | refuse => exact absurd h (notMem_leave (by simp))
  | _ => simp [finish] at h

/-! ### No chunk is empty -/

/-- No chunk is empty, wherever it is on its way to the socket. -/
structure Filled (d : TcpDriver) : Prop where
  /-- In the mailbox. -/
  posted : ∀ chunk ∈ chunksOf d.mailbox.posted, chunk ≠ []
  /-- In the queue, where the front one may have been written in part. -/
  queued : ∀ chunk ∈ d.queue.entries, chunk ≠ []
  /-- In hand, as far as it has not been written. -/
  inHand : ∀ chunk written, d.phase = .emptying chunk written → written < chunk.length

namespace Filled

variable {d d' : TcpDriver}

/-- What is offered to a write is not empty. -/
lemma offer_ne_nil (h : d.Filled) {buffer : Bytes} (hoffer : d.offer? = some buffer) :
    buffer ≠ [] := by
  unfold offer? at hoffer
  split at hoffer
  · split at hoffer
    · cases hoffer
    · rename_i hqueue
      obtain rfl := Option.some.inj hoffer
      obtain ⟨chunk, rest, hentries⟩ :=
        List.exists_cons_of_ne_nil (mt (SendQueue.isEmpty_iff d.queue).mpr hqueue)
      have hchunk := h.queued chunk (hentries ▸ List.mem_cons_self)
      simpa [SendQueue.unwritten, SendQueue.front?, hentries] using hchunk
  · rename_i chunk written phase
    obtain rfl := Option.some.inj hoffer
    have hrest := h.inHand chunk written phase
    exact List.ne_nil_of_length_pos (by rw [List.length_drop]; omega)
  · cases hoffer

/-- With no other chunks around, none is empty. -/
lemma ofFewer (h : d.Filled)
    (hposted : ∀ chunk ∈ chunksOf d'.mailbox.posted, chunk ∈ chunksOf d.mailbox.posted)
    (hqueued : ∀ chunk ∈ d'.queue.entries, chunk ∈ d.queue.entries)
    (hphase : d'.phase = d.phase ∨ ∀ chunk written, d'.phase ≠ .emptying chunk written) :
    d'.Filled where
  posted chunk hchunk := h.posted chunk (hposted chunk hchunk)
  queued chunk hchunk := h.queued chunk (hqueued chunk hchunk)
  inHand chunk written hemptying := by
    rcases hphase with hsame | hno
    · exact h.inHand chunk written (hsame.symm.trans hemptying)
    · exact absurd hemptying (hno chunk written)

/-- A driver that goes on to the next chunk has no empty one in hand. -/
lemma nextChunk (h : d.Filled) : d.nextChunk.Filled := by
  unfold TcpDriver.nextChunk
  split
  · rename_i chunk hfront
    exact {
      posted := h.posted
      queued := fun later hlater => h.queued later (List.mem_of_mem_tail hlater)
      inHand := fun chunk' written hphase => by
        cases hphase
        exact List.length_pos_iff.mpr (h.queued chunk (List.mem_of_mem_head? hfront)) }
  · exact h.ofFewer (fun _ hchunk => hchunk) (fun _ hchunk => hchunk) (.inr nofun)

/-- What a driver that leaves has still to write out is not empty. -/
lemma leave (h : d.Filled) (reason : CloseReason) : (d.leave reason).1.Filled := by
  unfold TcpDriver.leave
  dsimp only
  split
  · -- the posted chunks join the queue
    have hqueued : ∀ chunk ∈ ((chunksOf d.mailbox.posted).foldl SendQueue.push d.queue).entries,
        chunk ≠ [] := by
      rw [SendQueue.entries_foldl_push]
      exact fun chunk hchunk => (List.mem_append.mp hchunk).elim (h.queued chunk) (h.posted chunk)
    split
    · exact ⟨nofun, hqueued, nofun⟩
    · exact nextChunk ⟨nofun, hqueued, h.inHand⟩
  · exact h.ofFewer (fun _ hchunk => hchunk) (fun _ hchunk => hchunk) (.inr nofun)

/-- No step makes a chunk empty, as long as no empty one is asked to be sent. -/
lemma step (h : d.Filled) {e : Event} (hasked : ∀ data, e = .request (.chunk data) → data ≠ []) :
    (d.step e).1.Filled := by
  have hmove := d.move_step e
  generalize d.step e = r at hmove
  cases hmove with
  | stay => exact h
  | post data isOpen =>
    refine { h with posted := fun chunk hchunk => ?_ }
    rw [chunksOf_append, chunksOf_cons_send, chunksOf_nil] at hchunk
    rcases List.mem_append.mp hchunk with hbefore | hnow
    · exact h.posted chunk hbefore
    · exact List.mem_singleton.mp hnow ▸ hasked data rfl
  | postMark mark isOpen =>
    refine { h with posted := fun chunk hchunk => h.posted chunk ?_ }
    simpa using hchunk
  | postClose isOpen =>
    refine { h with posted := fun chunk hchunk => h.posted chunk ?_ }
    simpa using hchunk
  | enqueue data rest phase posted =>
    have hposted := h.posted
    rw [posted, chunksOf_cons_send, List.forall_mem_cons] at hposted
    refine ⟨hposted.2, fun chunk hchunk => ?_, h.inHand⟩
    rcases List.mem_append.mp hchunk with hbefore | hnow
    · exact h.queued chunk hbefore
    · exact List.mem_singleton.mp hnow ▸ hposted.1
  | adopt mark rest phase posted =>
    have hposted := h.posted
    rw [posted, chunksOf_cons_mark] at hposted
    exact ⟨hposted, h.queued, h.inHand⟩
  | obey rest phase posted =>
    have hposted := h.posted
    rw [posted, chunksOf_cons_close] at hposted
    have hfilled : Filled { d.prepared with mailbox := { d.mailbox with posted := rest } } :=
      ⟨hposted, h.queued, h.inHand⟩
    exact hfilled.leave _
  | giveUp _ reason phase why =>
    have hfilled : d.prepared.Filled := ⟨h.posted, h.queued, h.inHand⟩
    exact hfilled.leave _
  | write n can some phase next =>
    refine ⟨h.posted, SendQueue.ne_nil_of_mem_advance h.queued n, fun chunk written hemptying => ?_⟩
    rcases next with rfl | ⟨rfl, -⟩ <;> cases hemptying
  | flushFailed source phase => exact h.leave _
  | emptyPart chunk written n phase some part =>
    refine ⟨h.posted, h.queued, fun chunk' written' hemptying => ?_⟩
    cases hemptying
    exact part
  | emptyRest chunk written n phase some rest => exact h.nextChunk
  | refuse phase => exact h.leave _
  | reject phase => exact h.ofFewer (fun _ hchunk => hchunk) (fun _ hchunk => hchunk) (.inr nofun)
  | part keep phase => exact h.ofFewer nofun (fun _ hchunk => hchunk) (.inr nofun)
  | abandon phase => exact h.ofFewer nofun (fun _ hchunk => hchunk) (.inr nofun)
  | gather bytes can some below => exact ⟨h.posted, h.queued, h.inHand⟩
  | remove _ length how phase enough => exact ⟨h.posted, h.queued, h.inHand⟩
  | set mark phase => exact ⟨h.posted, h.queued, h.inHand⟩
  | _ => exact h.ofFewer (fun _ hchunk => hchunk) (fun _ hchunk => hchunk) (.inr nofun)

/-- In a run in which all that is asked to be sent comes from handles no chunk is ever empty. -/
lemma run (h : d.Filled) (es : List Event) (hissued : ∀ r, .request r ∈ es → r.IsIssued) :
    (d.run es).1.Filled := by
  induction es using List.reverseRecOn with
  | nil => exact h
  | append_singleton es e ih =>
    rw [run_concat]
    refine (ih fun r hr => hissued r (List.mem_append_left _ hr)).step fun data he => ?_
    subst he
    exact (hissued (.chunk data) (by simp)).ne_nil rfl

end Filled

/-! ### Why a driver leaves -/

/-- The failure of the socket that an event tells of. -/
def Event.failure? : Event → Option SystemError
  | .readDone (.error source) => some source
  | .writeDone (.error source) => some source
  | .flushDone (.error source) => some source
  | _ => none

/-- What can make a driver leave for a reason. -/
inductive Cause (d : TcpDriver) : Event → CloseReason → Prop where
  /-- A request to close is taken up. -/
  | request : Cause d .command .requested
  /-- The service does not want to go on. -/
  | refusal : Cause d (.returned false) .rejected
  /-- The socket fails. -/
  | failure {e : Event} {source : SystemError} (tells : e.failure? = some source) :
      Cause d e (.failed source)
  /-- A read into some space brings nothing. -/
  | nothingRead {space : Bytes} (into : d.space? = some space) :
      Cause d (.readDone (.ok [])) .peerClosed
  /-- A write of what is offered takes over nothing. -/
  | nothingWritten {buffer : Bytes} (of : d.offer? = some buffer) :
      Cause d (.writeDone (.ok 0)) (.failed writeZero)

/-- The end of a wait that makes a driver leave is the cause of it. -/
lemma cause_of_verdict {d : TcpDriver} {e : Event} {reason : CloseReason}
    (phase : d.phase = .waiting) (why : e.verdict? = some reason) :
    d.Cause e reason ∨ d.step e = (d, []) := by
  unfold Event.verdict? at why
  split at why <;> cases why
  · exact .inl (.failure rfl)
  · exact .inl (.failure rfl)
  · exact .inl (.nothingRead (if_pos phase))
  · cases hoffer : d.offer? with
    | none => exact .inr (step_writeDone_of_no_offer hoffer _)
    | some buffer => exact .inl (.nothingWritten hoffer)

/-- A step leaves the reason as it is, or is the cause of it. -/
lemma reason_step {d : TcpDriver} {e : Event} {reason : CloseReason}
    (h : (d.step e).1.reason = some reason) : d.reason = some reason ∨ d.Cause e reason := by
  have hmove := d.move_step e
  generalize hr : d.step e = r at hmove h
  cases hmove with
  | obey rest phase posted =>
    rw [reason_leave] at h
    cases h
    exact .inr .request
  | giveUp _ reason' phase why =>
    rcases cause_of_verdict phase why with hcause | hstays
    · rw [reason_leave] at h
      cases h
      exact .inr hcause
    · rw [← hr, hstays] at h
      exact .inl h
  | flushFailed source phase =>
    rw [reason_leave] at h
    cases h
    exact .inr (.failure rfl)
  | refuse phase =>
    rw [reason_leave] at h
    cases h
    exact .inr .refusal
  | emptyRest chunk written n phase some rest =>
    obtain ⟨queue, phase', hnext, -⟩ := d.nextChunk_eq
    rw [hnext] at h
    exact .inl h
  | _ => exact .inl h

/-- Whatever a driver left for was caused at some moment of the run. -/
lemma exists_cause {d : TcpDriver} (hnew : d.reason = none) {es : List Event} {reason : CloseReason}
    (h : (d.run es).1.reason = some reason) :
    ∃ before e, before ++ [e] <+: es ∧ (d.run before).1.Cause e reason := by
  induction es using List.reverseRecOn with
  | nil => cases hnew.symm.trans h
  | append_singleton es e ih =>
    rw [run_concat] at h
    rcases reason_step h with hbefore | hnow
    · obtain ⟨before, e', hpart, hcause⟩ := ih hbefore
      exact ⟨before, e', hpart.trans (List.prefix_append _ _), hcause⟩
    · exact ⟨es, e, List.prefix_rfl, hnow⟩

/-! ### Results of no bytes -/

/-- What is so of a socket after so many events. -/
structure Socket where
  /-- The peer has ended the stream. -/
  ended : List Event → Prop
  /-- No more bytes are taken over. -/
  refuses : List Event → Prop

/-- A socket has no bytes for a read only if there is no space for any or the stream has ended, and
takes over none from a write only if there are none or it refuses them. -/
structure Socket.Answers (socket : Socket) (d : TcpDriver) (es : List Event) : Prop where
  /-- How it answers reads. -/
  read : ∀ {before space}, before ++ [.readDone (.ok [])] <+: es →
    (d.run before).1.space? = some space → space = [] ∨ socket.ended before
  /-- How it answers writes. -/
  write : ∀ {before buffer}, before ++ [.writeDone (.ok 0)] <+: es →
    (d.run before).1.offer? = some buffer → buffer = [] ∨ socket.refuses before

/-- What a driver whose reads have some size has offered its socket by the end of a run, and what
came of it. -/
structure OffersSome (d : TcpDriver) (size : Nat) (es : List Event) : Prop where
  /-- No chunk in the queue is empty. -/
  queued : ∀ chunk ∈ (d.run es).1.queue.entries, chunk ≠ []
  /-- There are bytes for every write. -/
  offers : ∀ {buffer}, (d.run es).1.offer? = some buffer → buffer ≠ []
  /-- Nothing leaves but from the front of them, and then something does. -/
  leaves : ∀ {e id bytes}, .left id bytes ∈ ((d.run es).1.step e).2 →
    bytes ≠ [] ∧ ∃ buffer, (d.run es).1.offer? = some buffer ∧ bytes <+: buffer
  /-- There is space of the size for every read. -/
  spaces : ∀ {space}, (d.run es).1.space? = some space → space.length = size ∧ 1 ≤ size
  /-- Nothing comes in but what fits into it, and then something does. -/
  arrives : ∀ {e id bytes}, .arrived id bytes ∈ ((d.run es).1.step e).2 →
    bytes ≠ [] ∧ ∃ space, (d.run es).1.space? = some space ∧ bytes.length ≤ space.length
  /-- A write that takes over nothing ends the driver's wait, for a reason of its own. -/
  closes : (d.run es).1.canWrite (.ok 0) = true →
    let after := ((d.run es).1.step (.writeDone (.ok 0))).1
    after.phase = .shutting ∧ after.reason = some (.failed writeZero)
  /-- A write that takes over nothing was refused, be it in the wait or within the closing time. -/
  refused : ∀ {socket : Socket}, socket.Answers d es →
    ∀ {before buffer}, before ++ [.writeDone (.ok 0)] <+: es →
      (d.run before).1.offer? = some buffer → socket.refuses before
  /-- A read that brings nothing met the end of the stream. -/
  ended : ∀ {socket : Socket}, socket.Answers d es →
    ∀ {before space}, before ++ [.readDone (.ok [])] <+: es →
      (d.run before).1.space? = some space → socket.ended before
  /-- If the driver left because nothing was taken over, the socket refused bytes or failed like
  that itself. -/
  failed : ∀ {socket : Socket}, socket.Answers d es →
    (d.run es).1.reason = some (.failed writeZero) →
      (∃ before, before ++ [.writeDone (.ok 0)] <+: es ∧ socket.refuses before) ∨
        ∃ e ∈ es, e.failure? = some writeZero
  /-- If the driver left because the peer ended the stream, it did. -/
  parted : ∀ {socket : Socket}, socket.Answers d es → (d.run es).1.reason = some .peerClosed →
    ∃ before, before ++ [.readDone (.ok [])] <+: es ∧ socket.ended before

/-- A write in the wait that takes over nothing makes the driver leave at once. -/
lemma step_nothingWritten {d : TcpDriver} (can : d.canWrite (.ok 0) = true) :
    (d.step (.writeDone (.ok 0))).1.phase = .shutting ∧
      (d.step (.writeDone (.ok 0))).1.reason = some (.failed writeZero) := by
  have hstep : d.step (.writeDone (.ok 0)) = d.prepared.leave (.failed writeZero) := by
    simp only [step, (waiting_of_canWrite can).1, can, if_true]
    rfl
  rw [hstep]
  exact ⟨rfl, rfl⟩

/-- A driver with no empty chunk offers its socket some bytes, or some space, at any moment of a run
in which all that is asked to be sent comes from handles. -/
theorem offersSome {d : TcpDriver} (hfilled : d.Filled) (hsize : 1 ≤ d.chunkSize)
    (hnew : d.reason = none) {es : List Event} (hissued : ∀ r, .request r ∈ es → r.IsIssued) :
    d.OffersSome d.chunkSize es := by
  have hoffer : ∀ {before buffer}, before <+: es → (d.run before).1.offer? = some buffer →
      buffer ≠ [] := fun hpart hbuffer =>
    (hfilled.run _ fun r hr => hissued r (hpart.subset hr)).offer_ne_nil hbuffer
  have hspace : ∀ {before space}, (d.run before).1.space? = some space →
      space.length = d.chunkSize := fun hsome =>
    (length_space hsome).trans (d.sameSettings_run _).chunkSize
  have hrefused : ∀ {socket : Socket}, socket.Answers d es →
      ∀ {before buffer}, before ++ [.writeDone (.ok 0)] <+: es →
        (d.run before).1.offer? = some buffer → socket.refuses before := by
    intro socket hanswers before buffer hpart hbuffer
    have hbefore : before <+: es := (List.prefix_append before _).trans hpart
    exact (hanswers.write hpart hbuffer).resolve_left (hoffer hbefore hbuffer)
  have hended : ∀ {socket : Socket}, socket.Answers d es →
      ∀ {before space}, before ++ [.readDone (.ok [])] <+: es →
        (d.run before).1.space? = some space → socket.ended before := by
    intro socket hanswers before space hpart hsome
    refine (hanswers.read hpart hsome).resolve_left ?_
    exact List.ne_nil_of_length_pos (hspace hsome ▸ hsize)
  constructor
  case queued => exact (hfilled.run es hissued).queued
  case offers => exact hoffer List.prefix_rfl
  case leaves =>
    intro e id bytes hleft
    obtain ⟨buffer, n, hbuffer, -, hn, -, -, rfl⟩ := offer_of_left hleft
    have hsome := hoffer List.prefix_rfl hbuffer
    exact ⟨by simpa [hn] using hsome, buffer, hbuffer, List.take_prefix n buffer⟩
  case spaces => exact fun hsome => ⟨hspace hsome, hsize⟩
  case arrives =>
    intro e id bytes harrived
    obtain ⟨space, hsome, -, hbytes, hfits⟩ := space_of_arrived harrived
    exact ⟨hbytes, space, hsome, hfits⟩
  case closes => exact step_nothingWritten
  case refused => exact hrefused
  case ended => exact hended
  case failed =>
    intro socket hanswers hreason
    obtain ⟨before, e, hpart, hcause⟩ := exists_cause hnew hreason
    cases hcause with
    | failure tells => exact .inr ⟨e, hpart.subset (by simp), tells⟩
    | nothingWritten hbuffer => exact .inl ⟨before, hpart, hrefused hanswers hpart hbuffer⟩
  case parted =>
    intro socket hanswers hreason
    obtain ⟨before, e, hpart, hcause⟩ := exists_cause hnew hreason
    cases hcause with
    | nothingRead hsome => exact ⟨before, hpart, hended hanswers hpart hsome⟩

end TcpDriver

end Switchboard
