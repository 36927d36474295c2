import Mathlib.Algebra.Ring.Nat
import Switchboard.Proofs.Tcp.Coherence

/-!
# What a stream driver receives

The service of a stream connection sees the receive buffer of its driver, and nothing else of what
the network brings.  Here the buffer is tied to the events of a whole run.  `TcpDriver.intakes` are
the bytes of the reads that were taken in, and `TcpDriver.removals` the lengths that the service was
granted to remove; the history has a note of each (`TcpDriver.arrived_run`,
`TcpDriver.length_removed_run`).  What the service removed, followed by what is in the buffer, is
what came in (`TcpDriver.removed_append_data`).  Space that was handed out to a read which something
else overtook never shows, since the next read is given fresh space.

The watermark may be set by the service, at once, or through a handle, when the driver takes the
request up.  `TcpDriver.marks` lists the settings of a run in their order, and the last one is the
one in force (`TcpDriver.watermark_run`).  `TcpDriver.told_iff` tells exactly when the service is
told of received bytes.  `TcpDriver.Shows` is the whole of what a service is shown.
-/

namespace Switchboard

namespace TcpDriver

/-! ### The watermark in force -/

/-- The watermark that an event sets, if it sets one: the service sets it while it is told of
received bytes, and a posted watermark is set when it is taken up. -/
def mark? (d : TcpDriver) : Event → Option Nat
  | .setMark mark => if d.phase = .receiving then some mark else none
  | .command =>
    match d.phase, d.mailbox.posted with
    | .waiting, .mark mark :: _ => some mark
    | _, _ => none
  | _ => none

/-- The watermarks that are set in a run, in order. -/
def marks (d : TcpDriver) : List Event → List Nat
  | [] => []
  | e :: es => (d.mark? e).toList ++ (d.step e).1.marks es

lemma marks_append (d : TcpDriver) (es fs : List Event) :
    d.marks (es ++ fs) = d.marks es ++ (d.run es).1.marks fs := by
  induction es generalizing d with
  | nil => rfl
  | cons e es ih => simp [marks, run, Noted.andThen, ih]

/-- Leaving does not touch the receive buffer. -/
@[simp] lemma received_leave (d : TcpDriver) (reason : CloseReason) :
    (d.leave reason).1.received = d.received := by
  obtain ⟨posted, queue, phase, hleave, -⟩ := d.fst_leave reason
  rw [hleave]

/-- Writing out does not touch the receive buffer. -/
@[simp] lemma received_nextChunk (d : TcpDriver) : d.nextChunk.received = d.received := by
  obtain ⟨queue, phase, hnext, -⟩ := d.nextChunk_eq
  rw [hnext]

/-- The watermark after a step is the one that the step set, or else the one before. -/
lemma watermark_step (d : TcpDriver) (e : Event) :
    (d.step e).1.received.watermark = (d.mark? e).getD d.received.watermark := by
  by_cases hset : (∃ mark, e = .setMark mark) ∨ e = .command
  · rcases hset with ⟨mark, rfl⟩ | rfl
    · by_cases hphase : d.phase = .receiving <;> simp [step, setMark, mark?, hphase]
    · by_cases hphase : d.phase = .waiting
      · rcases hposted : d.mailbox.posted with _ | ⟨_ | _ | _, rest⟩ <;>
          simp [step, takeCommand, Mailbox.take?, mark?, prepared, hphase, hposted]
      · simp [step, mark?, hphase]
  · have hnone : d.mark? e = none := by
      cases e <;> simp_all [mark?]
    have hmove := d.move_step e
    generalize d.step e = r at hmove
    rw [hnone, Option.getD_none]
    cases hmove with
    | adopt => simp at hset
    | set => simp at hset
    | enqueue => simp at hset
    | obey => simp at hset
    | giveUp => simp [prepared]
    | gather => simp [ReceiveBuffer.receive]
    | tell => simp [ReceiveBuffer.receive]
    | write => simp [prepared]
    | remove => simp
    | flushFailed => simp
    | emptyRest => simp
    | refuse => simp
    | _ => rfl

/-- The watermark in force is the last one set. -/
lemma watermark_run (d : TcpDriver) (es : List Event) :
    (d.run es).1.received.watermark = (d.marks es).getLastD d.received.watermark := by
  refine run_induction
    (motive := fun es d' _ => d'.received.watermark = (d.marks es).getLastD d.received.watermark)
    rfl (fun es e ih => ?_) es
  rw [watermark_step, ih, marks_append]
  cases hmark : (d.run es).1.mark? e <;> simp [marks, hmark]

/-! ### The buffer and the history -/

/-- A read brings at most what was asked for. -/
lemma length_le_of_canRead {d : TcpDriver} {bytes : Bytes} (can : d.canRead (.ok bytes) = true) :
    bytes.length ≤ d.chunkSize := by
  simpa [canRead] using (Bool.and_eq_true_iff.mp can).2

/-- A read that stays within its reservation wakes the service if there are enough bytes with it. -/
lemma reachedWatermark_receive {b : ReceiveBuffer} {n : Nat} {bytes : Bytes}
    (hfit : bytes.length ≤ n) :
    (b.receive n bytes).reachedWatermark = true ↔ b.watermark ≤ b.size + bytes.length := by
  have hmark : (b.receive n bytes).watermark = b.watermark := rfl
  simp [ReceiveBuffer.reachedWatermark, ReceiveBuffer.size, ReceiveBuffer.data_receive hfit, hmark]

/-- What a step adds to the buffer is what came in, and what it takes out is what was removed. -/
lemma data_step (d : TcpDriver) (e : Event) :
    Note.stream .removed d.id (d.step e).2 ++ (d.step e).1.received.data =
      d.received.data ++ Note.stream .arrived d.id (d.step e).2 := by
  have hmove := d.move_step e
  generalize d.step e = r at hmove
  cases hmove with
  | gather bytes can some below =>
    have hfit := length_le_of_canRead can
    simp [Note.stream, Note.data_cons, Note.datum?, ReceiveBuffer.data_receive hfit]
  | tell bytes can some reached =>
    have hfit := length_le_of_canRead can
    simp [Note.stream, Note.data_cons, Note.datum?, ReceiveBuffer.data_receive hfit]
  | remove _ length how phase enough => simp [Note.stream, Note.data_cons, Note.datum?]
  | obey rest phase posted => simp [Note.stream, prepared]
  | giveUp _ reason phase why => simp [Note.stream, prepared]
  | flushFailed source phase => simp [Note.stream]
  | refuse phase => simp [Note.stream]
  | _ => simp [Note.stream, Note.data_cons, Note.datum?, prepared, finish]

/-- What the service removed, followed by what is in the buffer, is what came in. -/
theorem removed_append_data (c : TcpConnection) (opening : Opening) (chunkSize : Nat)
    (linger : Option Nat) (es : List Event) :
    Note.stream .removed c.id ((ofConnection c opening chunkSize linger).run es).2 ++
        ((ofConnection c opening chunkSize linger).run es).1.received.data =
      Note.stream .arrived c.id ((ofConnection c opening chunkSize linger).run es).2 := by
  refine run_induction (motive := fun _ d history =>
    Note.stream .removed c.id history ++ d.received.data = Note.stream .arrived c.id history)
    rfl (fun es e ih => ?_) es
  have hstep := data_step ((ofConnection c opening chunkSize linger).run es).1 e
  have hid : ((ofConnection c opening chunkSize linger).run es).1.id = c.id := id_run _ es
  rw [hid] at hstep
  rw [Note.stream_append, Note.stream_append, List.append_assoc, hstep, ← List.append_assoc, ih]

/-- Only the service removes bytes. -/
lemma removed_step_eq_nil {d : TcpDriver} {e : Event}
    (htake : ∀ length, e ≠ .take length ∧ e ≠ .dropFront length) (i : ConnectionId) :
    Note.data .removed i (d.step e).2 = [] := by
  have hmove := d.move_step e
  generalize d.step e = r at hmove
  cases hmove with
  | remove _ length how =>
    rcases how with rfl | rfl
    · exact absurd rfl (htake length).1
    · exact absurd rfl (htake length).2
  | obey rest phase posted => simp
  | giveUp _ reason phase why => simp
  | flushFailed source phase => simp
  | refuse phase => simp
  | _ => rfl

/-- Only a request to send is posted, and only the service removes bytes. -/
lemma data_step_eq_nil {d : TcpDriver} {e : Event} (hrequest : ∀ r, e ≠ .request r)
    (htake : ∀ length, e ≠ .take length ∧ e ≠ .dropFront length) (i : ConnectionId) :
    Note.data .removed i (d.step e).2 = [] ∧ Note.data .posted i (d.step e).2 = [] := by
  refine ⟨removed_step_eq_nil htake i, ?_⟩
  have hmove := d.move_step e
  generalize d.step e = r at hmove
  cases hmove with
  | post data => exact absurd rfl (hrequest _)
  | obey rest phase posted => simp
  | giveUp _ reason phase why => simp
  | flushFailed source phase => simp
  | refuse phase => simp
  | _ => rfl

/-! ### What is read and what is removed -/

/-- The bytes that an event brings, if it is the end of a read that the driver takes in; no bytes
stand for the end of the stream. -/
def intake? (d : TcpDriver) : Event → Option Bytes
  | .readDone (.ok bytes) => if d.canRead (.ok bytes) then some bytes else none
  | _ => none

/-- What the reads of a run brought, in order. -/
def intakes (d : TcpDriver) (es : List Event) : List Bytes := Noted.gather step intake? d es

/-- How many bytes the service removes with an event, if that is granted. -/
def removal? (d : TcpDriver) : Event → Option Nat
  | .take length => if (d.take length).1.isSome then some length else none
  | .dropFront length => if (d.dropFront length).1 then some length else none
  | _ => none

/-- How many bytes the service removed in a run, time after time. -/
def removals (d : TcpDriver) (es : List Event) : List Nat := Noted.gather step removal? d es

lemma intakes_concat (d : TcpDriver) (es : List Event) (e : Event) :
    d.intakes (es ++ [e]) = d.intakes es ++ ((d.run es).1.intake? e).toList := by
  rw [run_eq_iterate]
  exact Noted.gather_concat step intake? d es e

lemma removals_concat (d : TcpDriver) (es : List Event) (e : Event) :
    d.removals (es ++ [e]) = d.removals es ++ ((d.run es).1.removal? e).toList := by
  rw [run_eq_iterate]
  exact Noted.gather_concat step removal? d es e

/-- Only reads bring bytes. -/
lemma arrived_step_eq_nil {d : TcpDriver} {e : Event} (hread : ∀ bytes, e ≠ .readDone (.ok bytes))
    (i : ConnectionId) : Note.data .arrived i (d.step e).2 = [] := by
  have hmove := d.move_step e
  generalize d.step e = r at hmove
  cases hmove with
  | gather bytes => exact absurd rfl (hread bytes)
  | tell bytes => exact absurd rfl (hread bytes)
  | obey rest phase posted => simp
  | giveUp _ reason phase why => simp
  | flushFailed source phase => simp
  | refuse phase => simp
  | _ => rfl

/-- What a step notes to have arrived is what it takes in. -/
lemma arrived_step (d : TcpDriver) (e : Event) :
    Note.stream .arrived d.id (d.step e).2 = (d.intake? e).getD [] := by
  by_cases hread : ∃ bytes, e = .readDone (.ok bytes)
  · obtain ⟨bytes, rfl⟩ := hread
    cases hcan : d.canRead (.ok bytes) with
    | false => simp [step, intake?, hcan]
    | true =>
      by_cases hbytes : bytes = []
      · subst hbytes
        simp [step, intake?, hcan, read, Note.stream]
      · rw [step, if_pos hcan, read_ok hbytes]
        split <;> simp [intake?, hcan, Note.stream, Note.data_cons, Note.datum?]
  · rw [Note.stream_of_data_eq_nil (arrived_step_eq_nil (not_exists.mp hread) d.id)]
    cases e with
    | readDone outcome =>
      cases outcome with
      | error source => rfl
      | ok bytes => exact absurd ⟨bytes, rfl⟩ hread
    | _ => rfl

/-- Over a run, what is noted to have arrived is what the reads brought. -/
lemma arrived_run (d : TcpDriver) (es : List Event) :
    Note.stream .arrived d.id (d.run es).2 = (d.intakes es).flatten := by
  induction es using List.reverseRecOn with
  | nil => rfl
  | append_singleton es e ih =>
    have hstep := arrived_step (d.run es).1 e
    rw [id_run] at hstep
    rw [run_concat, Note.stream_append, ih, hstep, intakes_concat, List.flatten_append]
    cases (d.run es).1.intake? e <;> simp

/-- What the service takes out is as long as what it asked for, if it is granted. -/
lemma length_removed_take (d : TcpDriver) (length : Nat) :
    (Note.stream .removed d.id (d.take length).2.2).length =
      if (d.take length).1.isSome then length else 0 := by
  by_cases phase : d.phase = .receiving
  · rcases Nat.lt_or_ge d.received.size length with few | enough
    · simp [take_of_lt few]
    · have hlength : length ≤ d.received.data.length := enough
      simp [take_of_le phase enough, Note.stream, Note.data_cons, Note.datum?, hlength]
  · simp [take_of_ne phase]

/-- What the service removes with a step is as long as what it was granted to remove. -/
lemma length_removed_step (d : TcpDriver) (e : Event) :
    (Note.stream .removed d.id (d.step e).2).length = (d.removal? e).getD 0 := by
  cases e with
  | take length =>
    rw [step, length_removed_take, removal?]
    split <;> rfl
  | dropFront length =>
    rw [step, dropFront, length_removed_take, removal?, dropFront]
    split <;> rfl
  | _ =>
    rw [Note.stream_of_data_eq_nil (removed_step_eq_nil (by simp) d.id)]
    rfl

/-- Over a run, as many bytes are removed as the service was granted to remove. -/
lemma length_removed_run (d : TcpDriver) (es : List Event) :
    (Note.stream .removed d.id (d.run es).2).length = (d.removals es).sum := by
  induction es using List.reverseRecOn with
  | nil => rfl
  | append_singleton es e ih =>
    have hstep := length_removed_step (d.run es).1 e
    rw [id_run] at hstep
    rw [run_concat, Note.stream_append, List.length_append, ih, hstep, removals_concat,
      List.sum_append]
    cases (d.run es).1.removal? e <;> simp

/-! ### When the service is told -/

/-- A driver only waits for its service to look at received bytes if a read brings some. -/
lemma read_of_receiving_step {d : TcpDriver} {e : Event}
    (hreceiving : (d.step e).1.phase = .receiving) :
    d.phase = .receiving ∨
      ∃ bytes, e = .readDone (.ok bytes) ∧ bytes ≠ [] ∧ d.canRead (.ok bytes) = true := by
  have hmove := d.move_step e
  generalize d.step e = r at hmove hreceiving
  cases hmove with
  | tell bytes can some reached => exact .inr ⟨bytes, rfl, some, can⟩
  | obey rest phase posted => exact (ne_of_isLeaving (isLeaving_leave _ _) rfl hreceiving).elim
  | giveUp _ reason phase why => exact (ne_of_isLeaving (isLeaving_leave _ _) rfl hreceiving).elim
  | flushFailed source phase => exact (ne_of_isLeaving (isLeaving_leave _ _) rfl hreceiving).elim
  | refuse phase => exact (ne_of_isLeaving (isLeaving_leave _ _) rfl hreceiving).elim
  | emptyRest => exact (ne_of_isLeaving d.isLeaving_nextChunk rfl hreceiving).elim
  | write n can some phase next =>
    rcases next with rfl | ⟨rfl, -⟩ <;> simp at hreceiving
  | stay => exact .inl hreceiving
  | post => exact .inl hreceiving
  | postMark => exact .inl hreceiving
  | postClose => exact .inl hreceiving
  | enqueue => exact .inl hreceiving
  | adopt => exact .inl hreceiving
  | gather => exact .inl hreceiving
  | remove _ length how phase => exact .inl phase
  | set mark phase => exact .inl phase
  | _ => simp [finish] at hreceiving

/-- The service is told of received bytes exactly when a read brings some and the buffer then has as
many as the watermark asks for. -/
theorem told_iff (d : TcpDriver) (e : Event) :
    .receive d.id ∈ Note.callbacks (d.step e).2 ↔
      ∃ bytes, e = .readDone (.ok bytes) ∧ bytes ≠ [] ∧ d.canRead (.ok bytes) = true ∧
        d.received.watermark ≤ d.received.size + bytes.length := by
  constructor
  · intro htold
    have hmove := d.move_step e
    generalize d.step e = r at hmove htold
    cases hmove with
    | tell bytes can some reached =>
      exact ⟨bytes, rfl, some, can,
        (reachedWatermark_receive (length_le_of_canRead can)).mp reached⟩
    | announce phase =>
      cases hopening : d.opening <;> simp [Note.callbacks, announcement, hopening] at htold
    | obey rest phase posted => simp at htold
    | giveUp _ reason phase why => simp at htold
    | flushFailed source phase => simp at htold
    | refuse phase => simp at htold
    | _ => simp [Note.callbacks, finish] at htold
  · rintro ⟨bytes, rfl, hbytes, hcan, hmark⟩
    have hreached := (reachedWatermark_receive (length_le_of_canRead hcan)).mpr hmark
    simp [step, hcan, read_ok hbytes, hreached, Note.callbacks]

/-! ### Whole runs -/

/-- A removal of more bytes than there are changes nothing. -/
lemma dropFront_of_lt {d : TcpDriver} {length : Nat} (few : d.received.size < length) :
    d.dropFront length = (false, d, []) := by
  simp [dropFront, take_of_lt few]

/-- What the service of a connection is shown by its driver, given all bytes that were read, how
many of them are gone, and the watermark in force. -/
structure Shows (d : TcpDriver) (id : ConnectionId) (read : Bytes) (gone mark : Nat) : Prop where
  /-- No more is gone than was read. -/
  within : gone ≤ read.length
  /-- The service sees what was read, without what is gone. -/
  data : d.received.data = read.drop gone
  /-- It is told of received bytes when a read brings some and the watermark is reached with them,
  and on no other event. -/
  told : ∀ e, .receive id ∈ Note.callbacks (d.step e).2 ↔
    ∃ bytes, e = .readDone (.ok bytes) ∧ bytes ≠ [] ∧ d.canRead (.ok bytes) = true ∧
      mark ≤ (read ++ bytes).length - gone
  /-- What it asks for beyond what it sees is refused without a trace. -/
  refused : ∀ n, read.length - gone < n →
    d.received.copy? n = none ∧ d.take n = (none, d, []) ∧ d.dropFront n = (false, d, [])
  /-- What it asks for within what it sees is granted, while it is told of received bytes. -/
  granted : ∀ n ≤ read.length - gone, d.phase = .receiving →
    d.received.copy? n = some ((read.drop gone).take n) ∧
      (d.take n).1 = some ((read.drop gone).take n) ∧ (d.dropFront n).1 = true
  /-- Whatever an overtaken read left in its space does not show in the next one. -/
  fresh : ∀ scratch bytes, d.canRead (.ok bytes) = true →
    (({ d.received with reserved := scratch } : ReceiveBuffer).receive d.chunkSize bytes).data =
      (read ++ bytes).drop gone

/-- A driver shows its buffer. -/
lemma shows_of_data {d : TcpDriver} {read : Bytes} {gone : Nat} (hgone : gone ≤ read.length)
    (hdata : d.received.data = read.drop gone) :
    d.Shows d.id read gone d.received.watermark := by
  have hsize : d.received.size = read.length - gone := by
    rw [ReceiveBuffer.size, hdata, List.length_drop]
  constructor
  case within => exact hgone
  case data => exact hdata
  case told =>
    intro e
    have hcount (bytes : Bytes) :
        (read ++ bytes).length - gone = d.received.size + bytes.length := by
      rw [hsize, List.length_append, Nat.sub_add_comm hgone]
    simp only [told_iff, hcount]
  case refused =>
    intro n hn
    rw [← hsize] at hn
    exact ⟨(ReceiveBuffer.copy?_eq_none_iff _ _).mpr hn, take_of_lt hn, dropFront_of_lt hn⟩
  case granted =>
    intro n hn hphase
    rw [← hsize] at hn
    have hcopy : d.received.copy? n = some ((read.drop gone).take n) := by
      rw [← hdata]
      exact if_pos hn
    have hout := take_of_le hphase hn
    rw [hdata] at hout
    exact ⟨hcopy, by rw [hout], by simp [dropFront, hout]⟩
  case fresh =>
    intro scratch bytes hcan
    rw [ReceiveBuffer.data_receive (length_le_of_canRead hcan), List.drop_append_of_le_length hgone,
      ← hdata]

/-- **What is received is seen in order, and from the watermark on.**  At every moment of every run
the service sees what the reads brought, one after the other, without as many bytes from the front
as it removed.  It is told of a read exactly if that leaves as many bytes as the last watermark set
asks for, and whatever it asks for beyond what it sees is refused without a trace. -/
theorem receives_in_order (c : TcpConnection) (opening : Opening) (chunkSize : Nat)
    (linger : Option Nat) (es : List Event) :
    let start := ofConnection c opening chunkSize linger
    let r := start.run es
    let read := (start.intakes es).flatten
    let gone := (start.removals es).sum
    r.1.Shows c.id read gone ((start.marks es).getLastD 1) ∧
      Note.stream .arrived c.id r.2 = read ∧ Note.stream .removed c.id r.2 = read.take gone := by
  intro start r read gone
  have hid : r.1.id = c.id := id_run start es
  have hread : Note.stream .arrived c.id r.2 = read := arrived_run start es
  have hgone : (Note.stream .removed c.id r.2).length = gone := length_removed_run start es
  have hwhole : Note.stream .removed c.id r.2 ++ r.1.received.data = read :=
    (removed_append_data c opening chunkSize linger es).trans hread
  have hwithin : gone ≤ read.length := by
    rw [← hwhole, List.length_append, hgone]
    exact Nat.le_add_right _ _
  have hdata : r.1.received.data = read.drop gone := by
    rw [← hwhole, ← hgone, List.drop_left]
  have hremoved : Note.stream .removed c.id r.2 = read.take gone := by
    rw [← hwhole, ← hgone, List.take_left]
  have hshows := shows_of_data hwithin hdata
  rw [hid, watermark_run start es] at hshows
  exact ⟨hshows, hread, hremoved⟩

/-- The service removes one of two bytes, asks for five in vain, and waits for three; through a
handle it then asks to be told of two.  A request and a chunk overtake the next read.  It is told of
that read, and sees the byte that it left and the one that the read brought. -/
theorem receives_in_order_overtaken :
    let c : TcpConnection :=
      { id := ⟨1⟩, direction := .active, identity := .anonymous
        host := ⟨.loopback, 4000⟩, peer := ⟨.loopback, 80⟩ }
    let start := ofConnection c .connected 4 none
    let es : List Event :=
      [.start, .returned true, .readDone (.ok [1, 2]), .setMark 3, .take 5, .dropFront 1,
        .returned true, .requestMark 2, .request (.chunk [9]), .command, .command]
    let es' := es ++ [.readDone (.ok [3])]
    let d := (start.run es).1
    let d' := (start.run es').1
    start.intakes es' = [[1, 2], [3]] ∧ start.removals es' = [1] ∧ start.marks es' = [3, 2] ∧
      d.received.data = [2] ∧ .receive c.id ∈ Note.callbacks (d.step (.readDone (.ok [3]))).2 ∧
      d'.received.data = [2, 3] := by
  intro c start es es' d d'
  have hintakes : start.intakes es = [[1, 2]] := by decide +kernel
  have hremovals : start.removals es = [1] := by decide +kernel
  have hmarks : start.marks es = [3, 2] := by decide +kernel
  have hintakes' : start.intakes es' = [[1, 2], [3]] := by decide +kernel
  have hremovals' : start.removals es' = [1] := by decide +kernel
  have hshows : d.Shows c.id (start.intakes es).flatten (start.removals es).sum
      ((start.marks es).getLastD 1) := (receives_in_order c .connected 4 none es).1
  have hshows' : d'.Shows c.id (start.intakes es').flatten (start.removals es').sum
      ((start.marks es').getLastD 1) := (receives_in_order c .connected 4 none es').1
  rw [hintakes, hremovals, hmarks] at hshows
  rw [hintakes', hremovals'] at hshows'
  have hcan : d.canRead (.ok [3]) = true := by decide +kernel
  exact ⟨hintakes', hremovals', by decide +kernel, hshows.data,
    (hshows.told _).mpr ⟨[3], rfl, List.cons_ne_nil _ _, hcan, by decide⟩, hshows'.data⟩

end TcpDriver

end Switchboard
