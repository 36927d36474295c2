import Mathlib.Tactic.Common
import Switchboard.Proofs.History
import Switchboard.Tcp.Driver

/-!
# The moves of a stream driver

`TcpDriver.step` answers any event in any phase.  Most answers are "nothing"; `TcpDriver.Move` lists
all others, one rule for each thing that a driver can do, with what has to hold for it and what
comes of it.  `TcpDriver.move_step` says that the list is complete, so a law about all steps is
proved by going through the rules, and the phases and outcomes are told apart only here.

What leaving and finishing do to the driver is said once as well, field by field, behind the rules.
-/

namespace Switchboard

namespace TcpDriver

/-! ### The rules -/

/-- The reason for which a driver leaves when its wait ends in a certain way, if it leaves. -/
def Event.verdict? : Event → Option CloseReason
  | .readDone (.error source) | .writeDone (.error source) => some (.failed source)
  | .readDone (.ok []) => some .peerClosed
  | .writeDone (.ok 0) => some (.failed writeZero)
  | _ => none

/-- What a driver can do on an event. -/
inductive Move (d : TcpDriver) : Event → Noted TcpDriver → Prop where
  /-- Nothing happens. -/
  | stay (e : Event) : Move d e (d, [])
  /-- A chunk is accepted for sending. -/
  | post (data : Bytes) (isOpen : d.mailbox.isOpen = true) :
      Move d (.request (.chunk data))
        ({ d with mailbox := { d.mailbox with posted := d.mailbox.posted ++ [.send data] } },
          [.posted d.id data])
  /-- A watermark is asked for. -/
  | postMark (mark : Nat) (isOpen : d.mailbox.isOpen = true) :
      Move d (.requestMark mark)
        ({ d with mailbox := { d.mailbox with posted := d.mailbox.posted ++ [.mark mark] } }, [])
  /-- The end is asked for. -/
  | postClose (isOpen : d.mailbox.isOpen = true) :
      Move d .requestClose
        ({ d with mailbox := { d.mailbox with posted := d.mailbox.posted ++ [.close] } }, [])
  /-- The connection is announced. -/
  | announce (phase : d.phase = .fresh) :
      Move d .start ({ d with phase := .opening },
        [.measured (.opened d.carrier d.connection.direction), .callback d.announcement])
  /-- A posted chunk joins the queue. -/
  | enqueue (data : Bytes) (rest : List TcpCommand) (phase : d.phase = .waiting)
      (posted : d.mailbox.posted = .send data :: rest) :
      Move d .command
        ({ d.prepared with
            mailbox := { d.mailbox with posted := rest }
            queue := d.queue.push data }, [.queued d.id data])
  /-- A posted watermark is set. -/
  | adopt (mark : Nat) (rest : List TcpCommand) (phase : d.phase = .waiting)
      (posted : d.mailbox.posted = .mark mark :: rest) :
      Move d .command
        ({ d.prepared with
            mailbox := { d.mailbox with posted := rest }
            received := d.prepared.received.setWatermark mark }, [])
  /-- The driver leaves because it was asked to. -/
  | obey (rest : List TcpCommand) (phase : d.phase = .waiting)
      (posted : d.mailbox.posted = .close :: rest) :
      Move d .command
        (({ d.prepared with mailbox := { d.mailbox with posted := rest } } : TcpDriver).leave
          .requested)
  /-- The driver leaves because its wait ended badly or its peer ended the stream. -/
  | giveUp (e : Event) (reason : CloseReason) (phase : d.phase = .waiting)
      (why : e.verdict? = some reason) : Move d e (d.prepared.leave reason)
  /-- Bytes came in that the service is not told of yet. -/
  | gather (bytes : Bytes) (can : d.canRead (.ok bytes) = true) (some : bytes ≠ [])
      (below : (d.received.receive d.chunkSize bytes).reachedWatermark = false) :
      Move d (.readDone (.ok bytes))
        ({ d with received := d.received.receive d.chunkSize bytes },
          [.arrived d.id bytes, .measured (.received d.carrier bytes.length)])
  /-- Bytes came in and the service is told. -/
  | tell (bytes : Bytes) (can : d.canRead (.ok bytes) = true) (some : bytes ≠ [])
      (reached : (d.received.receive d.chunkSize bytes).reachedWatermark = true) :
      Move d (.readDone (.ok bytes))
        ({ d with received := d.received.receive d.chunkSize bytes, phase := .receiving },
          [.arrived d.id bytes, .measured (.received d.carrier bytes.length),
            .callback (.receive d.id)])
  /-- The socket took over a part of what is queued. -/
  | write (n : Nat) (can : d.canWrite (.ok n) = true) (some : n ≠ 0) (phase : TcpPhase)
      (next : phase = .waiting ∨ phase = .flushing ∧ (d.queue.advance n).1.isEmpty = true) :
      Move d (.writeDone (.ok n))
        ({ d.prepared with queue := (d.queue.advance n).1, phase },
          [.left d.id (d.queue.unwritten.take n), .measured (.sent d.carrier n)])
  /-- The flush behind the last chunk failed. -/
  | flushFailed (source : SystemError) (phase : d.phase = .flushing) :
      Move d (.flushDone (.error source)) (d.leave (.failed source))
  /-- Everything is sent and the service is told. -/
  | drain (phase : d.phase = .flushing) :
      Move d (.flushDone (.ok ())) ({ d with phase := .drained }, [.callback (.sent d.id)])
  /-- The socket took over a part of a chunk within the closing time. -/
  | emptyPart (chunk : Bytes) (written n : Nat) (phase : d.phase = .emptying chunk written)
      (some : n ≠ 0) (part : written + n < chunk.length) :
      Move d (.writeDone (.ok n))
        ({ d with phase := .emptying chunk (written + n) },
          [.left d.id ((chunk.drop written).take n)])
  /-- The socket took over the rest of a chunk within the closing time. -/
  | emptyRest (chunk : Bytes) (written n : Nat) (phase : d.phase = .emptying chunk written)
      (some : n ≠ 0) (rest : written + n = chunk.length) :
      Move d (.writeDone (.ok n))
        (d.nextChunk, [.left d.id ((chunk.drop written).take n),
          .measured (.sent d.carrier chunk.length)])
  /-- Writing out fails or takes too long. -/
  | cut (e : Event) (chunk : Bytes) (written : Nat) (phase : d.phase = .emptying chunk written)
      (how : (∃ source, e = .writeDone (.error source)) ∨ e = .writeDone (.ok 0) ∨
        e = .lingerOver) :
      Move d e ({ d with phase := .shutting }, [])
  /-- The flush behind what was written out ends. -/
  | settle (e : Event) (phase : d.phase = .settling) : Move d e ({ d with phase := .shutting }, [])
  /-- The end is announced once the socket is shut down. -/
  | shut (phase : d.phase = .shutting) : Move d .shutdownOver d.finish
  /-- The service removes bytes. -/
  | remove (e : Event) (length : Nat) (how : e = .take length ∨ e = .dropFront length)
      (phase : d.phase = .receiving) (enough : length ≤ d.received.size) :
      Move d e ({ d with received := d.received.consume length },
        [.removed d.id (d.received.data.take length)])
  /-- The service sets the watermark. -/
  | set (mark : Nat) (phase : d.phase = .receiving) :
      Move d (.setMark mark) ({ d with received := d.received.setWatermark mark }, [])
  /-- The service goes on. -/
  | keep (phase : d.phase = .opening ∨ d.phase = .receiving ∨ d.phase = .drained) :
      Move d (.returned true) ({ d with phase := .waiting }, [])
  /-- The service does not want the connection. -/
  | reject (phase : d.phase = .opening) :
      Move d (.returned false) ({ d with mailbox := d.mailbox.close } : TcpDriver).finish
  /-- The service does not want to go on. -/
  | refuse (phase : d.phase = .receiving ∨ d.phase = .drained) :
      Move d (.returned false) (d.leave .rejected)
  /-- The service took note of the end. -/
  | part (keep : Bool) (phase : d.phase = .closing) :
      Move d (.returned keep) ({ d with phase := .done, mailbox := .abandoned }, [.tracked (-1)])
  /-- The loop drops a driver that it never started. -/
  | discard (phase : d.phase = .fresh) : Move d .abort d.finish
  /-- The loop drops a driver where it waits. -/
  | abandon (phase : d.phase = .waiting ∨ d.phase = .flushing ∨
        (∃ chunk written, d.phase = .emptying chunk written) ∨ d.phase = .settling ∨
        d.phase = .shutting) :
      Move d .abort ({ d with mailbox := .abandoned } : TcpDriver).finish

/-! ### The list is complete -/

/-- A driver that can take up the end of a read waits and has no request to be taken up. -/
lemma waiting_of_canRead {d : TcpDriver} {outcome : Except SystemError Bytes}
    (h : d.canRead outcome = true) : d.phase = .waiting ∧ d.mailbox.posted = [] := by
  cases outcome <;> simp_all [canRead, listens]

/-- A driver that can take up the end of a write in its wait has something to write. -/
lemma waiting_of_canWrite {d : TcpDriver} {outcome : Except SystemError Nat}
    (h : d.canWrite outcome = true) : d.phase = .waiting ∧ d.mailbox.posted = [] := by
  cases outcome <;> simp_all [canWrite, listens]

lemma move_request (d : TcpDriver) (r : SendRequest) : Move d (.request r) (d.request r).2 := by
  cases r with
  | answered granted => exact .stay _
  | chunk data =>
    cases hopen : d.mailbox.isOpen with
    | true => simpa [request, Mailbox.post, hopen] using Move.post data hopen
    | false => simpa [request, Mailbox.post, hopen] using Move.stay (d := d) _

/-- Asking in vain changes nothing. -/
lemma request_of_refused {d : TcpDriver} {r : SendRequest} (h : (d.request r).1 = false) :
    (d.request r).2 = (d, []) := by
  cases r with
  | answered granted => rfl
  | chunk data =>
    have hclosed : d.mailbox.isOpen = false := by simpa [request] using h
    simp [request, Mailbox.post, hclosed]

lemma move_command {d : TcpDriver} (phase : d.phase = .waiting) :
    Move d .command d.takeCommand := by
  unfold takeCommand Mailbox.take?
  rcases hposted : d.mailbox.posted with _ | ⟨_ | _ | _, rest⟩
  · exact .stay _
  · exact .enqueue _ rest phase hposted
  · exact .adopt _ rest phase hposted
  · exact .obey rest phase hposted

/-- What becomes of received bytes. -/
lemma read_ok {d : TcpDriver} {bytes : Bytes} (hbytes : bytes ≠ []) :
    d.read (.ok bytes) =
      if (d.received.receive d.chunkSize bytes).reachedWatermark then
        ({ d with received := d.received.receive d.chunkSize bytes, phase := .receiving },
          [.arrived d.id bytes, .measured (.received d.carrier bytes.length),
            .callback (.receive d.id)])
      else
        ({ d with received := d.received.receive d.chunkSize bytes },
          [.arrived d.id bytes, .measured (.received d.carrier bytes.length)]) := by
  cases bytes with
  | nil => exact absurd rfl hbytes
  | cons b bytes => rfl

/-- What becomes of written bytes. -/
lemma wrote_ok {d : TcpDriver} {n : Nat} (hn : n ≠ 0) :
    d.wrote (.ok n) =
      if (d.queue.advance n).2 && (d.queue.advance n).1.isEmpty then
        ({ d.prepared with queue := (d.queue.advance n).1, phase := .flushing },
          [.left d.id (d.queue.unwritten.take n), .measured (.sent d.carrier n)])
      else
        ({ d.prepared with queue := (d.queue.advance n).1 },
          [.left d.id (d.queue.unwritten.take n), .measured (.sent d.carrier n)]) := by
  cases n with
  | zero => exact absurd rfl hn
  | succ n => rfl

/-- What becomes of bytes written within the closing time. -/
lemma emptied_ok {d : TcpDriver} {chunk : Bytes} {written n : Nat} (hn : n ≠ 0) :
    d.emptied chunk written (.ok n) =
      if written + n < chunk.length then
        ({ d with phase := .emptying chunk (written + n) },
          [.left d.id ((chunk.drop written).take n)])
      else
        (d.nextChunk, [.left d.id ((chunk.drop written).take n),
          .measured (.sent d.carrier chunk.length)]) := by
  cases n with
  | zero => exact absurd rfl hn
  | succ n => rfl

lemma move_read {d : TcpDriver} {outcome : Except SystemError Bytes}
    (can : d.canRead outcome = true) : Move d (.readDone outcome) (d.read outcome) := by
  have phase := (waiting_of_canRead can).1
  match outcome with
  | .error source => exact .giveUp (.readDone (.error source)) (.failed source) phase rfl
  | .ok [] => exact .giveUp (.readDone (.ok [])) .peerClosed phase rfl
  | .ok (b :: bytes) =>
    have hbytes : b :: bytes ≠ [] := List.cons_ne_nil _ _
    rw [read_ok hbytes]
    split
    · exact .tell _ can hbytes ‹_›
    · exact .gather _ can hbytes (Bool.eq_false_iff.mpr ‹_›)

lemma move_write {d : TcpDriver} {outcome : Except SystemError Nat}
    (can : d.canWrite outcome = true) : Move d (.writeDone outcome) (d.wrote outcome) := by
  have phase := (waiting_of_canWrite can).1
  match outcome with
  | .error source => exact .giveUp (.writeDone (.error source)) (.failed source) phase rfl
  | .ok 0 => exact .giveUp (.writeDone (.ok 0)) (.failed writeZero) phase rfl
  | .ok (n + 1) =>
    have hn : n + 1 ≠ 0 := Nat.succ_ne_zero n
    rw [wrote_ok hn]
    split
    · rename_i hthrough
      exact .write _ can hn .flushing (.inr ⟨rfl, (Bool.and_eq_true_iff.mp hthrough).2⟩)
    · have h := Move.write (n + 1) can hn .waiting (.inl rfl)
      rwa [← phase] at h

lemma move_emptied {d : TcpDriver} {chunk : Bytes} {written : Nat}
    {outcome : Except SystemError Nat} (phase : d.phase = .emptying chunk written)
    (fits : fits chunk written outcome = true) :
    Move d (.writeDone outcome) (d.emptied chunk written outcome) := by
  match outcome with
  | .error source => exact .cut _ chunk written phase (.inl ⟨source, rfl⟩)
  | .ok 0 => exact .cut _ chunk written phase (.inr (.inl rfl))
  | .ok (n + 1) =>
    have hn : n + 1 ≠ 0 := Nat.succ_ne_zero n
    have hle : written + (n + 1) ≤ chunk.length := by simpa [TcpDriver.fits] using fits
    rw [emptied_ok hn]
    split
    · exact .emptyPart chunk written _ phase hn ‹_›
    · exact .emptyRest chunk written _ phase hn (by omega)

lemma move_flush {d : TcpDriver} {outcome : Except SystemError Unit}
    (phase : d.phase = .flushing) : Move d (.flushDone outcome) (d.flushed outcome) := by
  cases outcome with
  | error source => exact .flushFailed source phase
  | ok => exact .drain phase

/-- Removing bytes is refused exactly if there are fewer. -/
lemma take_of_le {d : TcpDriver} {length : Nat} (phase : d.phase = .receiving)
    (enough : length ≤ d.received.size) :
    d.take length = (some (d.received.data.take length),
      { d with received := d.received.consume length },
      [.removed d.id (d.received.data.take length)]) := by
  simp [take, phase, ReceiveBuffer.take?, ReceiveBuffer.copy?, enough]

lemma take_of_lt {d : TcpDriver} {length : Nat} (few : d.received.size < length) :
    d.take length = (none, d, []) := by
  unfold take
  split
  · rw [(ReceiveBuffer.take?_eq_none_iff _ _).mpr few]
  · rfl

lemma take_of_ne {d : TcpDriver} {length : Nat} (phase : d.phase ≠ .receiving) :
    d.take length = (none, d, []) := by
  simp [take, phase]

lemma move_take {d : TcpDriver} {e : Event} {length : Nat}
    (how : e = .take length ∨ e = .dropFront length) : Move d e (d.take length).2 := by
  by_cases phase : d.phase = .receiving
  · rcases Nat.lt_or_ge d.received.size length with few | enough
    · rw [take_of_lt few]
      exact .stay _
    · rw [take_of_le phase enough]
      exact .remove e length how phase enough
  · rw [take_of_ne phase]
    exact .stay _

lemma move_returned (d : TcpDriver) (keep : Bool) : Move d (.returned keep) (d.returned keep) := by
  unfold returned
  split
  · cases keep with
    | true => exact .keep (.inl ‹_›)
    | false => exact .reject ‹_›
  · cases keep with
    | true => exact .keep (.inr (.inl ‹_›))
    | false => exact .refuse (.inl ‹_›)
  · cases keep with
    | true => exact .keep (.inr (.inr ‹_›))
    | false => exact .refuse (.inr ‹_›)
  · exact .part keep ‹_›
  · exact .stay _

lemma move_abort (d : TcpDriver) : Move d .abort d.abort := by
  unfold abort
  split
  · exact .discard ‹_›
  · exact .abandon (.inl ‹_›)
  · exact .abandon (.inr (.inl ‹_›))
  · exact .abandon (.inr (.inr (.inl ⟨_, _, ‹_›⟩)))
  · exact .abandon (.inr (.inr (.inr (.inl ‹_›))))
  · exact .abandon (.inr (.inr (.inr (.inr ‹_›))))
  · exact .stay _

/-- Every step is one of the moves. -/
theorem move_step (d : TcpDriver) (e : Event) : Move d e (d.step e) := by
  cases e with
  | request r => exact move_request d r
  | requestMark mark =>
    cases hopen : d.mailbox.isOpen with
    | true => simpa [step, requestMark, Mailbox.post, hopen] using Move.postMark mark hopen
    | false => simpa [step, requestMark, Mailbox.post, hopen] using Move.stay (d := d) _
  | requestClose =>
    cases hopen : d.mailbox.isOpen with
    | true => simpa [step, requestClose, Mailbox.post, hopen] using Move.postClose hopen
    | false => simpa [step, requestClose, Mailbox.post, hopen] using Move.stay (d := d) _
  | start =>
    simp only [step, start]
    split
    · exact .announce ‹_›
    · exact .stay _
  | command =>
    simp only [step]
    split
    · exact move_command ‹_›
    · exact .stay _
  | readDone outcome =>
    simp only [step]
    split
    · exact move_read ‹_›
    · exact .stay _
  | writeDone outcome =>
    simp only [step]
    split
    · split
      · exact move_emptied ‹_› ‹_›
      · exact .stay _
    · split
      · exact move_write ‹_›
      · exact .stay _
  | flushDone outcome =>
    simp only [step]
    split
    · exact move_flush ‹_›
    · exact .settle _ ‹_›
    · exact .stay _
  | lingerOver =>
    simp only [step]
    split
    · exact .cut _ _ _ ‹_› (.inr (.inr rfl))
    · exact .settle _ ‹_›
    · exact .stay _
  | shutdownOver =>
    simp only [step]
    split
    · exact .shut ‹_›
    · exact .stay _
  | take length => exact move_take (.inl rfl)
  | dropFront length => exact move_take (.inr rfl)
  | setMark mark =>
    simp only [step, setMark]
    split
    · exact .set mark ‹_›
    · exact .stay _
  | returned keep => exact move_returned d keep
  | abort => exact move_abort d

end TcpDriver

end Switchboard
