import Switchboard.Proofs.Accounts.Books
import Switchboard.Proofs.Tcp.Sending

/-!
# The bytes that a stream driver counts

A stream driver measures what the socket brings at each read, and what the socket takes over at each
write.  Only within the closing time it measures by the chunk, when the last byte of one is gone.
What the socket took over of the chunk in hand is `TcpDriver.begun`, and until the chunk is through
nothing counts it.

So a step is `TcpDriver.Metered`: the counters move by what passed the socket, up to what is begun
before and after it.  Where the writing out is cut short the chunk in hand is given up with all that
is begun of it, and these bytes are never counted (`TcpDriver.uncounted`).  Over whole runs the
counter of received bytes is right, and that of sent bytes is right up to the chunk in hand and up
to what was given up.
-/

namespace Switchboard

namespace Note

/-! ### Series over a history -/

/-- By how much a history moves a series. -/
def shift (s : Series) (history : List Note) : Int :=
  ((measurements history).map fun m => m.move s).sum

lemma shift_append (s : Series) (h h' : List Note) :
    shift s (h ++ h') = shift s h + shift s h' := by
  rw [shift, measurements, List.filterMap_append, List.map_append, List.sum_append]
  rfl

lemma shift_cons (s : Series) (n : Note) (h : List Note) :
    shift s (n :: h) = shift s [n] + shift s h := shift_append s [n] h

lemma shift_measured (s : Series) (m : Measurement) : shift s [.measured m] = m.move s :=
  List.sum_singleton

end Note

/-- A series is moved by a history as by its measurements. -/
lemma Metrics.value_recordAll (x : Metrics) (history : List Note) (s : Series) :
    (x.recordAll (Note.measurements history)).value s = x.value s + Note.shift s history := by
  rw [recordAll, Note.shift]
  induction Note.measurements history generalizing x with
  | nil => exact (Int.add_zero _).symm
  | cons m rest ih => rw [List.foldl_cons, ih, value_record, List.map_cons, List.sum_cons,
      Int.add_assoc]

lemma Measurement.move_received (c k : Carrier) (n : Nat) :
    (received c n).move (.received k) = if k = c then (n : Int) else 0 := by
  by_cases h : k = c
  · simp [move, changes, h]
  · simp [move, changes, h, Ne.symm h]

lemma Measurement.move_sent (c k : Carrier) (n : Nat) :
    (sent c n).move (.sent k) = if k = c then (n : Int) else 0 := by
  by_cases h : k = c
  · simp [move, changes, h]
  · simp [move, changes, h, Ne.symm h]

/-- Whether a note neither counts bytes nor is about bytes that pass the socket. -/
def Note.isWeightless : Note → Bool
  | measured (.received ..) | measured (.sent ..) | arrived .. | left .. => false
  | _ => true

namespace Note

variable {history : List Note}

lemma shift_of_isWeightless (h : history.all isWeightless = true) (k : Carrier) :
    shift (.received k) history = 0 ∧ shift (.sent k) history = 0 := by
  induction history with
  | nil => exact ⟨rfl, rfl⟩
  | cons n rest ih =>
    rw [List.all_cons, Bool.and_eq_true_iff] at h
    obtain ⟨hreceived, hsent⟩ := ih h.2
    rw [shift_cons, shift_cons _ n rest, hreceived, hsent]
    cases n with
    | measured m =>
      rw [shift_measured, shift_measured]
      cases m with
      | received => exact absurd h.1 Bool.false_ne_true
      | sent => exact absurd h.1 Bool.false_ne_true
      | _ => exact ⟨rfl, rfl⟩
    | _ => exact ⟨rfl, rfl⟩

lemma stream_of_isWeightless (h : history.all isWeightless = true) (id : ConnectionId) :
    stream .arrived id history = [] ∧ stream .left id history = [] := by
  rw [List.all_eq_true] at h
  constructor
  · refine stream_of_data_eq_nil (data_eq_nil _ _ fun n hn => ?_)
    have hn := h n hn
    cases n <;> simp_all [datum?, isWeightless]
  · refine stream_of_data_eq_nil (data_eq_nil _ _ fun n hn => ?_)
    have hn := h n hn
    cases n <;> simp_all [datum?, isWeightless]

end Note

namespace TcpDriver

/-! ### One step -/

/-- How many bytes the socket took over of the chunk in hand. -/
def begun (d : TcpDriver) : Nat :=
  match d.phase with
  | .emptying _ written => written
  | _ => 0

/-- How many bytes that the socket took over will never be counted if a driver goes on as another
one: where it has nothing more to do with data, it gives the chunk in hand up. -/
def givesUp (d d' : TcpDriver) : Nat := if d'.phase.isMute then d.begun else 0

/-- How many bytes that the socket took over will never be counted after a run. -/
def uncounted (d : TcpDriver) : List Event → Nat
  | [] => 0
  | e :: es => d.givesUp (d.step e).1 + (d.step e).1.uncounted es

/-- What a stretch of a driver's life is that counts bytes up to those of the chunk in hand, and but
for some that are given up. -/
structure Metered (d d' : TcpDriver) (gone : Nat) (notes : List Note) : Prop where
  /-- The connection is another one in nothing that matters. -/
  same : d'.id = d.id ∧ d'.carrier = d.carrier
  /-- Received bytes are counted. -/
  received : ∀ k, Note.shift (.received k) notes =
    if k = d.carrier then ((Note.stream .arrived d.id notes).length : Int) else 0
  /-- Sent bytes are counted when their chunk is through. -/
  sent : ∀ k, Note.shift (.sent k) notes =
    if k = d.carrier then
      (d.begun + (Note.stream .left d.id notes).length : Int) - (d'.begun + gone)
    else 0

namespace Metered

variable {d d' d'' : TcpDriver} {gone gone' : Nat} {notes notes' : List Note}

/-- Nothing passes the socket. -/
lemma ofWeightless (same : d'.id = d.id ∧ d'.carrier = d.carrier)
    (hbegun : d.begun = d'.begun + gone) (hnotes : notes.all Note.isWeightless = true) :
    Metered d d' gone notes where
  same := same
  received k := by
    rw [(Note.shift_of_isWeightless hnotes k).1, (Note.stream_of_isWeightless hnotes d.id).1]
    exact (ite_self 0).symm
  sent k := by
    rw [(Note.shift_of_isWeightless hnotes k).2, (Note.stream_of_isWeightless hnotes d.id).2,
      hbegun, List.length_nil]
    split
    · omega
    · rfl

/-- One stretch of a life follows another one. -/
lemma append (h : Metered d d' gone notes) (h' : Metered d' d'' gone' notes') :
    Metered d d'' (gone + gone') (notes ++ notes') where
  same := ⟨h'.same.1.trans h.same.1, h'.same.2.trans h.same.2⟩
  received k := by
    rw [Note.shift_append, h.received, h'.received, h.same.1, h.same.2, Note.stream_append,
      List.length_append]
    split
    · omega
    · rfl
  sent k := by
    rw [Note.shift_append, h.sent, h'.sent, h.same.1, h.same.2, Note.stream_append,
      List.length_append]
    split
    · omega
    · rfl

end Metered

variable {d : TcpDriver}

/-- Unless a chunk is being written out, nothing is begun. -/
lemma begun_of_isWritingOut (h : d.phase.isWritingOut = false) : d.begun = 0 := by
  unfold begun
  split
  · rename_i hphase
    rw [hphase] at h
    cases h
  · rfl

/-- Who has nothing more to do with data has no chunk in hand. -/
lemma begun_of_isMute (h : d.phase.isMute = true) : d.begun = 0 := by
  unfold begun
  split
  · rename_i hphase
    rw [hphase] at h
    cases h
  · rfl

@[simp] lemma begun_leave (d : TcpDriver) (reason : CloseReason) :
    (d.leave reason).1.begun = 0 := by
  obtain ⟨posted, queue, phase, hleave, rfl | ⟨⟨chunk, rfl⟩, -⟩⟩ := d.fst_leave reason
  · rw [hleave]
    rfl
  · rw [hleave]
    rfl

@[simp] lemma begun_nextChunk (d : TcpDriver) : d.nextChunk.begun = 0 := by
  obtain ⟨queue, phase, hnext, ⟨chunk, rfl⟩ | ⟨rfl, -⟩⟩ := d.nextChunk_eq
  · rw [hnext]
    rfl
  · rw [hnext]
    rfl

/-- Who has nothing in hand gives nothing up. -/
lemma givesUp_of_begun_eq_zero (h : d.begun = 0) (d' : TcpDriver) : d.givesUp d' = 0 := by
  rw [givesUp, h]
  exact ite_self 0

/-- Who still has to do with data gives nothing up. -/
lemma givesUp_of_not_isMute {d' : TcpDriver} (h : d'.phase.isMute = false) : d.givesUp d' = 0 := by
  rw [givesUp, h]
  rfl

/-- Who stays in its phase gives nothing up. -/
lemma givesUp_of_phase_eq {d' : TcpDriver} (h : d'.phase = d.phase) : d.givesUp d' = 0 := by
  cases hmute : d'.phase.isMute with
  | true => exact givesUp_of_begun_eq_zero (begun_of_isMute (h ▸ hmute)) d'
  | false => exact givesUp_of_not_isMute hmute

/-- Nothing passes the socket, and nothing is in hand. -/
lemma metered_of_idle {d' : TcpDriver} {notes : List Note}
    (same : d'.id = d.id ∧ d'.carrier = d.carrier) (hbefore : d.begun = 0) (hafter : d'.begun = 0)
    (hnotes : notes.all Note.isWeightless = true) : Metered d d' (d.givesUp d') notes := by
  refine .ofWeightless same ?_ hnotes
  rw [givesUp_of_begun_eq_zero hbefore, hbefore, hafter]

/-- Nothing passes the socket, and the chunk in hand stays there. -/
lemma metered_of_phase_eq {d' : TcpDriver} {notes : List Note}
    (same : d'.id = d.id ∧ d'.carrier = d.carrier) (hphase : d'.phase = d.phase)
    (hnotes : notes.all Note.isWeightless = true) : Metered d d' (d.givesUp d') notes := by
  refine .ofWeightless same ?_ hnotes
  rw [givesUp_of_phase_eq hphase, begun, begun, hphase]
  rfl

/-- A driver that leaves has no chunk in hand yet. -/
lemma metered_leave {d' : TcpDriver} (same : d'.id = d.id ∧ d'.carrier = d.carrier)
    (hbegun : d.begun = 0) (reason : CloseReason) :
    Metered d (d'.leave reason).1 (d.givesUp (d'.leave reason).1) (d'.leave reason).2 := by
  obtain ⟨chunks, hchunks⟩ := d'.snd_leave reason
  obtain ⟨posted, queue, phase, hleave, -⟩ := d'.fst_leave reason
  refine metered_of_idle ?_ hbegun (begun_leave d' reason) ?_
  · rw [hleave]
    exact same
  · rw [hchunks, List.all_map, List.all_eq_true]
    intro chunk _
    rfl

/-- Bytes come in. -/
lemma metered_arrival (d : TcpDriver) (bytes : Bytes) :
    Metered d d 0 [.arrived d.id bytes, .measured (.received d.carrier bytes.length)] where
  same := ⟨rfl, rfl⟩
  received k := by
    rw [Note.shift_cons, Note.shift_measured, Measurement.move_received]
    simp [Note.shift, Note.measurements, Note.stream, Note.data_cons, Note.datum?]
  sent k := by
    simp [Note.shift, Note.measurements, Note.stream, Note.data_cons, Note.datum?,
      Measurement.move, Measurement.changes]

/-- Bytes go out, and those that are counted are through. -/
lemma metered_departure {d' : TcpDriver} {bytes : Bytes} {counts : List Note} {n : Nat}
    (same : d'.id = d.id ∧ d'.carrier = d.carrier)
    (hcounts : counts = [.measured (.sent d.carrier n)] ∨ counts = [] ∧ n = 0)
    (hbytes : d.begun + bytes.length = d'.begun + n) :
    Metered d d' 0 (.left d.id bytes :: counts) where
  same := same
  received k := by
    rcases hcounts with rfl | ⟨rfl, -⟩ <;>
      simp [Note.shift, Note.measurements, Note.stream, Note.data_cons, Note.datum?,
        Measurement.move, Measurement.changes]
  sent k := by
    have hstream : Note.stream .left d.id (.left d.id bytes :: counts) = bytes := by
      rcases hcounts with rfl | ⟨rfl, -⟩ <;> simp [Note.stream, Note.data_cons, Note.datum?]
    have hshift : Note.shift (.sent k) (.left d.id bytes :: counts) =
        if k = d.carrier then (n : Int) else 0 := by
      rcases hcounts with rfl | ⟨rfl, rfl⟩
      · rw [← Measurement.move_sent d.carrier k n, Note.shift_cons, Note.shift_measured]
        exact Int.zero_add _
      · exact (ite_self 0).symm
    rw [hstream, hshift]
    split
    · omega
    · rfl

/-- Every step counts what passes the socket, up to the chunk in hand, unless that is given up. -/
lemma metered_step (d : TcpDriver) (e : Event) :
    Metered d (d.step e).1 (d.givesUp (d.step e).1) (d.step e).2 := by
  have hmove := d.move_step e
  generalize d.step e = r at hmove
  -- outside the writing out nothing is in hand
  have hidle {p : TcpPhase} (phase : d.phase = p) (hp : p.isWritingOut = false) : d.begun = 0 :=
    begun_of_isWritingOut (by rw [phase, hp])
  cases hmove with
  | announce phase => exact metered_of_idle ⟨rfl, rfl⟩ (hidle phase rfl) rfl rfl
  | obey rest phase posted =>
    refine metered_leave ?_ (hidle phase rfl) _
    exact ⟨rfl, rfl⟩
  | giveUp _ reason phase why =>
    refine metered_leave ?_ (hidle phase rfl) _
    exact ⟨rfl, rfl⟩
  | gather bytes can some below =>
    let d' : TcpDriver := { d with received := d.received.receive d.chunkSize bytes }
    have hrest : Metered d d' (d.givesUp d') [] := metered_of_phase_eq ⟨rfl, rfl⟩ rfl rfl
    simpa using (metered_arrival d bytes).append hrest
  | tell bytes can some reached =>
    let d' : TcpDriver :=
      { d with received := d.received.receive d.chunkSize bytes, phase := .receiving }
    have hrest : Metered d d' (d.givesUp d') [.callback (.receive d.id)] :=
      metered_of_idle ⟨rfl, rfl⟩ (hidle (waiting_of_canRead can).1 rfl) rfl rfl
    simpa using (metered_arrival d bytes).append hrest
  | write n can some phase next =>
    have hbegun := hidle (waiting_of_canWrite can).1 rfl
    have htaken : n ≤ d.queue.unwritten.length := by
      simp only [canWrite, Bool.and_eq_true, decide_eq_true_eq] at can
      exact can.2
    rw [givesUp_of_begun_eq_zero hbegun]
    refine metered_departure (n := n) ⟨rfl, rfl⟩ (.inl rfl) ?_
    rw [hbegun, List.length_take, Nat.min_eq_left htaken]
    rcases next with rfl | ⟨rfl, -⟩ <;> rfl
  | flushFailed source phase => exact metered_leave ⟨rfl, rfl⟩ (hidle phase rfl) _
  | drain phase => exact metered_of_idle ⟨rfl, rfl⟩ (hidle phase rfl) rfl rfl
  | emptyPart chunk written n phase some part =>
    rw [givesUp_of_not_isMute rfl]
    refine metered_departure ⟨rfl, rfl⟩ (.inr ⟨rfl, rfl⟩) ?_
    rw [List.length_take, List.length_drop, Nat.min_eq_left (by omega)]
    simp only [begun, phase]
    rfl
  | emptyRest chunk written n phase some rest =>
    obtain ⟨queue, phase', hnext, hphase'⟩ := d.nextChunk_eq
    have hmute : d.nextChunk.phase.isMute = false := by
      rw [hnext]
      rcases hphase' with ⟨next, rfl⟩ | ⟨rfl, -⟩ <;> rfl
    rw [givesUp_of_not_isMute hmute]
    refine metered_departure (n := chunk.length) ?_ (.inl rfl) ?_
    · rw [hnext]
      exact ⟨rfl, rfl⟩
    · rw [List.length_take, List.length_drop, Nat.min_eq_left (by omega), begun_nextChunk]
      simp only [begun, phase]
      omega
  | cut _ chunk written phase how => exact .ofWeightless ⟨rfl, rfl⟩ (Nat.zero_add _).symm rfl
  | settle _ phase =>
    exact metered_of_idle ⟨rfl, rfl⟩ (by simp only [begun, phase]) rfl rfl
  | shut phase => exact metered_of_idle ⟨rfl, rfl⟩ (hidle phase rfl) rfl rfl
  | keep phase =>
    rcases phase with phase | phase | phase <;>
      exact metered_of_idle ⟨rfl, rfl⟩ (hidle phase rfl) rfl rfl
  | reject phase => exact metered_of_idle ⟨rfl, rfl⟩ (hidle phase rfl) rfl rfl
  | refuse phase =>
    rcases phase with phase | phase <;> exact metered_leave ⟨rfl, rfl⟩ (hidle phase rfl) _
  | part keep phase => exact metered_of_idle ⟨rfl, rfl⟩ (hidle phase rfl) rfl rfl
  | discard phase => exact metered_of_idle ⟨rfl, rfl⟩ (hidle phase rfl) rfl rfl
  | abandon phase => exact .ofWeightless ⟨rfl, rfl⟩ (Nat.zero_add _).symm rfl
  | _ => exact metered_of_phase_eq ⟨rfl, rfl⟩ rfl rfl

/-! ### Whole runs -/

/-- Over a run all that passed the socket is counted, up to the chunk in hand and but for what was
given up. -/
lemma metered_run (d : TcpDriver) (es : List Event) :
    Metered d (d.run es).1 (d.uncounted es) (d.run es).2 := by
  induction es generalizing d with
  | nil => exact .ofWeightless ⟨rfl, rfl⟩ rfl rfl
  | cons e es ih => exact (d.metered_step e).append (ih (d.step e).1)

/-- Where the writing out is not cut short, no chunk in hand is given up. -/
lemma givesUp_of_not_cutsShort {e : Event} (hcut : d.cutsShort e = false) :
    d.givesUp (d.step e).1 = 0 := by
  by_cases hbegun : d.begun = 0
  · exact givesUp_of_begun_eq_zero hbegun _
  apply givesUp_of_not_isMute
  obtain ⟨chunk, written, hphase⟩ : ∃ chunk written, d.phase = .emptying chunk written := by
    unfold begun at hbegun
    split at hbegun
    · exact ⟨_, _, ‹_›⟩
    · exact absurd rfl hbegun
  have hmove := d.move_step e
  generalize d.step e = r at hmove
  cases hmove with
  | stay => simp [hphase, TcpPhase.isMute]
  | post => simp [hphase, TcpPhase.isMute]
  | postMark => simp [hphase, TcpPhase.isMute]
  | postClose => simp [hphase, TcpPhase.isMute]
  | emptyPart => rfl
  | emptyRest =>
    obtain ⟨queue, phase, hnext, ⟨next, rfl⟩ | ⟨rfl, -⟩⟩ := d.nextChunk_eq
    · rw [hnext]
      rfl
    · rw [hnext]
      rfl
  | cut _ chunk' written' phase how =>
    rcases how with ⟨source, rfl⟩ | rfl | rfl <;> simp [cutsShort, phase] at hcut
  | abandon phase => simp [cutsShort, hphase] at hcut
  | gather _ can => simp [(waiting_of_canRead can).1] at hphase
  | tell _ can => simp [(waiting_of_canRead can).1] at hphase
  | write _ can => simp [(waiting_of_canWrite can).1] at hphase
  | keep phase => rcases phase with phase | phase | phase <;> simp [phase] at hphase
  | refuse phase => rcases phase with phase | phase <;> simp [phase] at hphase
  | _ => simp_all

/-- Nothing is given up in a run that is nowhere cut short. -/
lemma uncounted_of_writesOut {es : List Event} (h : d.writesOut es = true) :
    d.uncounted es = 0 := by
  induction es generalizing d with
  | nil => rfl
  | cons e es ih =>
    rw [writesOut, Bool.and_eq_true_iff, Bool.not_eq_true'] at h
    rw [uncounted, givesUp_of_not_cutsShort h.1, ih h.2]

/-- Whatever the counters were, a connection adds the bytes that the socket brought to those that
were received over its carrier.  To those that were sent it adds the bytes that the socket took
over, without the ones of the chunk in hand and the ones that were given up.  So all of them are
there exactly if there are none such, as at the end if nothing cut the writing out short. -/
theorem counts_but_for_cuts (c : TcpConnection) (opening : Opening) (chunkSize : Nat)
    (linger : Option Nat) (m : Metrics) (es : List Event) :
    let start := ofConnection c opening chunkSize linger
    let r := start.run es
    let now := m.recordAll (Note.measurements r.2)
    let arrived : Nat := (Note.stream .arrived c.id r.2).length
    let left : Nat := (Note.stream .left c.id r.2).length
    (∀ k, now.value (.received k) =
      m.value (.received k) + if k = c.carrier then (arrived : Int) else 0) ∧
    (∀ k, now.value (.sent k) = m.value (.sent k) +
      if k = c.carrier then (left : Int) - (r.1.begun + start.uncounted es) else 0) ∧
    (now.value (.sent c.carrier) = m.value (.sent c.carrier) + left ↔
      r.1.begun = 0 ∧ start.uncounted es = 0) ∧
    (start.writesOut es = true → r.1.phase.isMute = true →
      now.value (.sent c.carrier) = m.value (.sent c.carrier) + left) := by
  intro start r now arrived left
  have hmetered := start.metered_run es
  have hnone : start.begun = 0 := rfl
  have hsent : ∀ k, now.value (.sent k) = m.value (.sent k) +
      if k = c.carrier then (left : Int) - (r.1.begun + start.uncounted es) else 0 := by
    intro k
    rw [Metrics.value_recordAll, hmetered.sent k, hnone, Int.natCast_zero, Int.zero_add]
    rfl
  have hexact : now.value (.sent c.carrier) = m.value (.sent c.carrier) + left ↔
      r.1.begun = 0 ∧ start.uncounted es = 0 := by
    rw [hsent, if_pos rfl]
    omega
  refine ⟨fun k => ?_, hsent, hexact, fun hout hmute => ?_⟩
  · rw [Metrics.value_recordAll, hmetered.received k]
    rfl
  · exact hexact.mpr ⟨begun_of_isMute hmute, uncounted_of_writesOut hout⟩

/-- Two chunks of which one is written in two pieces after the driver left, and nothing is cut
short. -/
theorem counts_all_behind_close :
    let c : TcpConnection :=
      { id := ⟨1⟩, direction := .active, identity := .anonymous
        host := ⟨.loopback, 4000⟩, peer := ⟨.loopback, 80⟩ }
    let start := ofConnection c .connected 4 (some 1)
    let es : List Event :=
      [.start, .returned true, .request (.chunk [1, 2, 3]), .request (.chunk [4]), .requestClose,
        .command, .command, .command, .writeDone (.ok 1), .writeDone (.ok 2), .writeDone (.ok 1),
        .flushDone (.ok ()), .shutdownOver]
    let now := ({} : Metrics).recordAll (Note.measurements (start.run es).2)
    Note.data .left c.id (start.run es).2 = [[1], [2, 3], [4]] ∧ now.value (.sent .tcp) = 4 := by
  intro c start es now
  have hleft : Note.data .left c.id (start.run es).2 = [[1], [2, 3], [4]] := by decide +kernel
  have hcounts := (counts_but_for_cuts c .connected 4 (some 1) {} es).2.2.2
    (by decide +kernel) (by decide +kernel)
  refine ⟨hleft, ?_⟩
  rw [Note.stream, hleft] at hcounts
  exact hcounts

/-- A chunk of which the socket took over two bytes before it failed is never counted. -/
theorem undercounts_cut_chunk :
    let c : TcpConnection :=
      { id := ⟨1⟩, direction := .active, identity := .anonymous
        host := ⟨.loopback, 4000⟩, peer := ⟨.loopback, 80⟩ }
    let start := ofConnection c .connected 4 (some 1)
    let es : List Event :=
      [.start, .returned true, .request (.chunk [1, 2, 3]), .requestClose, .command, .command,
        .writeDone (.ok 2), .writeDone (.error (.plain .brokenPipe)), .shutdownOver,
        .returned true]
    let now := ({} : Metrics).recordAll (Note.measurements (start.run es).2)
    (start.run es).1.phase = .done ∧ Note.data .left c.id (start.run es).2 = [[1, 2]] ∧
      now.value (.sent .tcp) = 0 := by
  decide +kernel

end TcpDriver

end Switchboard
