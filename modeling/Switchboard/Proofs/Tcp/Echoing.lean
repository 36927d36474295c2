import Switchboard.Proofs.Tcp.Frames
import Switchboard.Proofs.Tcp.Sending

/-!
# Frames are given back

A driver with the service of frames attached answers every call at once, so between two events it is
in one of few states (`Tcp.Framing.Settled`).  The one that matters is the wait.  The watermark for
the first header is only posted when the connection is announced, but the driver takes it up before
it reads, and from then on the watermark in force, or on its way through the mailbox
(`Tcp.Framing.coming`), is what the front in the buffer wants.

A read therefore either completes no frame, and the service is not told, or completes some, and the
service gives back all of them (`Tcp.Framing.step_read`).  `Tcp.Framing.Echoes` is the account of
that over a run; that what was posted also leaves is a law of drivers.  The account says nothing of
whether anything comes in at all, so `Tcp.Framing.run_visit` follows a client that sends frames in
pieces and takes them back.
-/

namespace Switchboard

namespace Tcp.Framing

open TcpDriver

/-! ### Between two events -/

/-- The watermarks among requests. -/
def marksOf (commands : List TcpCommand) : List Nat :=
  commands.filterMap fun
    | .mark mark => some mark
    | _ => none

@[simp] lemma marksOf_nil : marksOf [] = [] := rfl

@[simp] lemma marksOf_cons_send (data : Bytes) (rest : List TcpCommand) :
    marksOf (.send data :: rest) = marksOf rest := rfl

@[simp] lemma marksOf_cons_mark (mark : Nat) (rest : List TcpCommand) :
    marksOf (.mark mark :: rest) = mark :: marksOf rest := rfl

@[simp] lemma marksOf_cons_close (rest : List TcpCommand) :
    marksOf (.close :: rest) = marksOf rest := rfl

@[simp] lemma marksOf_append (l k : List TcpCommand) :
    marksOf (l ++ k) = marksOf l ++ marksOf k := by
  simp [marksOf]

@[simp] lemma marksOf_map_send (chunks : List Bytes) : marksOf (chunks.map .send) = [] := by
  simp [marksOf, List.filterMap_map]

/-- The watermark that is in force once the posted requests are taken up. -/
def coming (d : TcpDriver) : Nat := (marksOf d.mailbox.posted).getLastD d.received.watermark

/-- A driver whose service has answered every call: it was not started, or will wait for what the
next frame wants, or is on its way out. -/
def Settled (d : TcpDriver) : Prop :=
  d.phase = .fresh ∧ d.received.data = [] ∨
    (d.phase = .waiting ∨ d.phase = .flushing) ∧ coming d = wanted d.received.data ∨
    d.phase.isLeaving = true ∨ d.phase = .done

/-- No call waits for an answer in a settled driver. -/
lemma Settled.isCalling {d : TcpDriver} (h : Settled d) : d.phase.isCalling = false := by
  rcases h with ⟨hphase, -⟩ | ⟨hphase | hphase, -⟩ | hleaving | hphase
  · simp [hphase, TcpPhase.isCalling]
  · simp [hphase, TcpPhase.isCalling]
  · simp [hphase, TcpPhase.isCalling]
  · cases hphase : d.phase <;> simp_all [TcpPhase.isLeaving, TcpPhase.isCalling]
  · simp [hphase, TcpPhase.isCalling]

/-- A settled driver that serves its connection will wait for what the next frame wants. -/
lemma Settled.coming_eq {d : TcpDriver} (h : Settled d)
    (hphase : d.phase = .waiting ∨ d.phase = .flushing) : coming d = wanted d.received.data := by
  rcases h with ⟨hfresh, -⟩ | ⟨-, hcoming⟩ | hleaving | hdone
  · simp [hfresh] at hphase
  · exact hcoming
  · rcases hphase with hphase | hphase <;> simp [hphase, TcpPhase.isLeaving] at hleaving
  · simp [hdone] at hphase

/-- Without a call nothing is answered. -/
lemma answer_of_isCalling {d : TcpDriver} (h : d.phase.isCalling = false) : answer d = (d, []) := by
  unfold answer
  split <;> simp_all [TcpPhase.isCalling]

/-- A driver that leaves has no call to be answered. -/
lemma isCalling_of_isLeaving {p : TcpPhase} (h : p.isLeaving = true) : p.isCalling = false := by
  cases p <;> simp_all [TcpPhase.isLeaving, TcpPhase.isCalling]

/-- With the last call the driver is done. -/
lemma answer_finish (d : TcpDriver) :
    answer d.finish.1 =
      ({ d.finish.1 with phase := .done, mailbox := .abandoned }, [.tracked (-1)]) := by
  simp [answer, finish, returned]

/-- Only the answer to a call about received bytes touches data. -/
lemma data_answer {d : TcpDriver} (h : d.phase ≠ .receiving) (i : ConnectionId) :
    (answer d).1.received = d.received ∧ Note.data .removed i (answer d).2 = [] ∧
      Note.data .posted i (answer d).2 = [] := by
  unfold answer
  split
  · rename_i hphase
    simp [requestMark, returned, hphase]
  · rename_i hphase
    exact absurd hphase h
  · rename_i hphase
    simp [returned, hphase]
  · rename_i hphase
    simp [returned, hphase, Note.data_cons, Note.datum?]
  · exact ⟨rfl, rfl, rfl⟩

/-! ### One event -/

/-- Whether an event is somebody else's request to send or for a watermark. -/
def isForeign : Event → Bool
  | .request _ | .requestMark _ => true
  | _ => false

/-- No event but a request posts data, and outside of a call nothing is removed. -/
lemma data_of_isForeign {d : TcpDriver} (hphase : d.phase ≠ .receiving) {e : Event}
    (hown : isForeign e = false) (i : ConnectionId) :
    Note.data .removed i (d.step e).2 = [] ∧ Note.data .posted i (d.step e).2 = [] := by
  by_cases htake : ∃ length, e = .take length ∨ e = .dropFront length
  · obtain ⟨length, rfl | rfl⟩ := htake
    · simp [TcpDriver.step, take_of_ne hphase]
    · simp [TcpDriver.step, dropFront, take_of_ne hphase]
  · push Not at htake
    refine data_step_eq_nil (fun r he => ?_) htake i
    subst he
    cases hown

/-- What the service has done with the frames whose fronts came in: it removed some of them and
posted them, and of the next one the buffer has a front. -/
structure Echoes (frames : List Bytes) (d : TcpDriver) (history : List Note) : Prop where
  /-- The driver has no call to be answered. -/
  settled : Settled d
  /-- The frames up to one were removed and posted. -/
  kept : ∃ whole rest, frames = whole ++ rest ∧ Note.data .removed d.id history = whole ∧
    Note.data .posted d.id history = whole ∧ Awaited d.received.data rest

/-- An event other than a read that brings bytes leaves a settled driver settled, and its received
bytes alone. -/
lemma Settled.step {d : TcpDriver} (h : Settled d) (hsound : d.Unstarted ∨ d.Coherent) {e : Event}
    (hown : isForeign e = false) (hread : ∀ bytes, d.canRead (.ok bytes) = true → bytes ≠ [] →
      e ≠ .readDone (.ok bytes)) :
    Settled (step d e).1 ∧ (step d e).1.received.data = d.received.data := by
  have hcalm := h.isCalling
  -- a driver that leaves has nothing to answer
  have hleave (d' : TcpDriver) (reason : CloseReason) (hdata : d'.received.data = d.received.data) :
      Settled (answer (d'.leave reason).1).1 ∧
        (answer (d'.leave reason).1).1.received.data = d.received.data := by
    have hleaving := d'.isLeaving_leave reason
    rw [answer_of_isCalling (isCalling_of_isLeaving hleaving)]
    exact ⟨.inr (.inr (.inl hleaving)), by simp [hdata]⟩
  -- a driver that has announced its end is done
  have hfinish (d' : TcpDriver) (hdata : d'.received.data = d.received.data) :
      Settled (answer d'.finish.1).1 ∧ (answer d'.finish.1).1.received.data = d.received.data := by
    rw [answer_finish]
    exact ⟨.inr (.inr (.inr rfl)), by simp [finish, hdata]⟩
  have hmove := d.move_step e
  unfold Framing.step
  generalize d.step e = r at hmove
  cases hmove with
  | stay =>
    rw [Noted.andThen, answer_of_isCalling hcalm]
    exact ⟨h, rfl⟩
  | post => cases hown
  | postMark => cases hown
  | postClose =>
    have hphase : ({ d with mailbox := { d.mailbox with posted := d.mailbox.posted ++ [.close] } } :
      TcpDriver).phase.isCalling = false := hcalm
    rw [Noted.andThen, answer_of_isCalling hphase]
    exact ⟨by simpa [Settled, coming] using h, rfl⟩
  | announce phase =>
    obtain ⟨-, hdata⟩ | ⟨hphase | hphase, -⟩ | hleaving | hphase := h
    · have hopen : d.mailbox.isOpen = true := by
        rcases hsound with hun | hco
        · rcases hun.fresh with ⟨-, hopen, -⟩ | hover
          · exact hopen
          · simp [phase, TcpPhase.isOver] at hover
        · exact absurd phase hco.started
      refine ⟨.inr (.inl ⟨.inl ?_, ?_⟩), ?_⟩
      · simp [Noted.andThen, answer, returned, requestMark]
      · simp [Noted.andThen, answer, returned, requestMark, coming, Mailbox.post, hopen, hdata,
          wanted, headerSize]
      · simp [Noted.andThen, answer, returned, requestMark]
    · simp [phase] at hphase
    · simp [phase] at hphase
    · simp [phase, TcpPhase.isLeaving] at hleaving
    · simp [phase] at hphase
  | enqueue data rest phase posted =>
    have hcoming := h.coming_eq (.inl phase)
    rw [Noted.andThen, answer_of_isCalling (by simp [prepared, phase, TcpPhase.isCalling])]
    refine ⟨.inr (.inl ⟨.inl phase, ?_⟩), rfl⟩
    simpa [coming, prepared, posted] using hcoming
  | adopt mark rest phase posted =>
    have hcoming := h.coming_eq (.inl phase)
    rw [Noted.andThen, answer_of_isCalling (by simp [prepared, phase, TcpPhase.isCalling])]
    refine ⟨.inr (.inl ⟨.inl phase, ?_⟩), rfl⟩
    rwa [coming, posted, marksOf_cons_mark, List.getLastD_cons] at hcoming
  | obey => exact hleave _ _ rfl
  | giveUp => exact hleave _ _ rfl
  | gather bytes can some => exact absurd rfl (hread bytes can some)
  | tell bytes can some => exact absurd rfl (hread bytes can some)
  | write n can some phase next =>
    have hcoming := h.coming_eq (.inl (waiting_of_canWrite can).1)
    have hphase : phase = .waiting ∨ phase = .flushing := next.imp id And.left
    rw [Noted.andThen, answer_of_isCalling (by rcases hphase with rfl | rfl <;> rfl)]
    exact ⟨.inr (.inl ⟨hphase, hcoming⟩), rfl⟩
  | flushFailed => exact hleave _ _ rfl
  | drain phase =>
    have hcoming := h.coming_eq (.inr phase)
    simp only [Noted.andThen, answer, returned, if_true]
    exact ⟨.inr (.inl ⟨.inl rfl, hcoming⟩), trivial⟩
  | emptyPart => exact ⟨.inr (.inr (.inl rfl)), rfl⟩
  | emptyRest =>
    have hleaving := d.isLeaving_nextChunk
    rw [Noted.andThen, answer_of_isCalling (isCalling_of_isLeaving hleaving)]
    exact ⟨.inr (.inr (.inl hleaving)), by simp⟩
  | cut => exact ⟨.inr (.inr (.inl rfl)), rfl⟩
  | settle => exact ⟨.inr (.inr (.inl rfl)), rfl⟩
  | shut => exact hfinish _ rfl
  | remove _ length how phase => simp [phase, TcpPhase.isCalling] at hcalm
  | set mark phase => simp [phase, TcpPhase.isCalling] at hcalm
  | keep phase =>
    rcases phase with phase | phase | phase <;> simp [phase, TcpPhase.isCalling] at hcalm
  | reject phase => simp [phase, TcpPhase.isCalling] at hcalm
  | refuse phase => rcases phase with phase | phase <;> simp [phase, TcpPhase.isCalling] at hcalm
  | part keep phase => simp [phase, TcpPhase.isCalling] at hcalm
  | discard => exact hfinish _ rfl
  | abandon => exact hfinish _ rfl

/-- What giving frames back tells of the data. -/
lemma data_flatMap (hand : Hand) (id : ConnectionId) (whole : List Bytes) :
    Note.data hand id (whole.flatMap fun f => [.removed id f, .posted id f]) =
      if hand = .removed ∨ hand = .posted then whole else [] := by
  induction whole with
  | nil => simp
  | cons f whole ih => cases hand <;> simp_all [Note.data_cons, Note.datum?]

/-- What a driver with the service makes of a read that brings bytes: if there are as many as are
waited for, the frames among them are given back. -/
lemma step_read {d : TcpDriver} (hsettled : Settled d) (hopen : d.mailbox.isOpen = true)
    {bytes : Bytes} (hcan : d.canRead (.ok bytes) = true) (hbytes : bytes ≠ []) {rest : List Bytes}
    (hrest : ∀ f ∈ rest, IsFrame f) (hpart : Awaited d.received.data rest)
    (hfront : d.received.data ++ bytes <+: rest.flatten) :
    ∃ more later part, rest = more ++ later ∧
      d.received.data ++ bytes = more.flatten ++ part ∧ Awaited part later ∧
      (step d (.readDone (.ok bytes))).1 = { d with
        received := { data := part, watermark := wanted part }
        mailbox := { d.mailbox with posted := more.map .send } } ∧
      (∀ hand, Note.data hand d.id (step d (.readDone (.ok bytes))).2 =
        if hand = .arrived then [bytes] else if hand = .removed ∨ hand = .posted then more
        else []) := by
  obtain ⟨hphase, hposted⟩ := waiting_of_canRead hcan
  have hfit := length_le_of_canRead hcan
  have hmark : d.received.watermark = wanted d.received.data := by
    have hcoming := hsettled.coming_eq (.inl hphase)
    rwa [coming, hposted] at hcoming
  have hdata : (d.received.receive d.chunkSize bytes).data = d.received.data ++ bytes :=
    ReceiveBuffer.data_receive hfit
  by_cases hreached : (d.received.receive d.chunkSize bytes).reachedWatermark = true
  · -- the service is told and gives back what is whole
    obtain ⟨more, later, part, rfl, hwhole, hlater⟩ := exists_whole rest _ hfront
    have hframes : ∀ f ∈ more, IsFrame f := fun f hf => hrest f (List.mem_append_left _ hf)
    obtain ⟨hheader, hfew⟩ := hlater.wanted fun f hf => hrest f (List.mem_append_right _ hf)
    have hserve := serve_eq (d := { d with
        received := d.received.receive d.chunkSize bytes, phase := .receiving })
      rfl hopen rfl hframes (hdata.trans hwhole) hheader hfew
    have hstep : step d (.readDone (.ok bytes)) = ({ d with
          received := { data := part, watermark := wanted part }
          mailbox := { d.mailbox with posted := more.map .send } },
        [.arrived d.id bytes, .measured (.received d.carrier bytes.length),
          .callback (.receive d.id)] ++
          more.flatMap fun f => [.removed d.id f, .posted d.id f]) := by
      simp [Framing.step, TcpDriver.step, hcan, read_ok hbytes, hreached, Noted.andThen, answer,
        hserve, returned, hposted, hphase, TcpDriver.id]
    refine ⟨more, later, part, rfl, hwhole, hlater, by rw [hstep], fun hand => ?_⟩
    rw [hstep, Note.data_append, data_flatMap]
    cases hand <;> simp [Note.data_cons, Note.datum?]
  · -- too little is there for the service to be told
    have hfew : (d.received.data ++ bytes).length < wanted d.received.data := by
      rw [← hmark, List.length_append]
      exact Nat.lt_of_not_le fun hle => hreached ((reachedWatermark_receive hfit).mpr hle)
    have hwanted := hpart.wanted_append hrest hfront hfew
    have hreceived : d.received.receive d.chunkSize bytes =
        { data := d.received.data ++ bytes, watermark := wanted (d.received.data ++ bytes) } := by
      rw [hwanted, ← hmark, ← hdata]
      rfl
    have hstep : step d (.readDone (.ok bytes)) = ({ d with
          received := {
            data := d.received.data ++ bytes
            watermark := wanted (d.received.data ++ bytes) }
          mailbox := { d.mailbox with posted := [] } },
        [.arrived d.id bytes, .measured (.received d.carrier bytes.length)]) := by
      have hanswer := answer_of_isCalling (d := { d with
        received := d.received.receive d.chunkSize bytes }) hsettled.isCalling
      have hmailbox : { d.mailbox with posted := [] } = d.mailbox := by rw [← hposted]
      simp only [Framing.step, TcpDriver.step, hcan, if_true, read_ok hbytes, if_neg hreached,
        Noted.andThen, hanswer, hmailbox, ← hreceived, List.append_nil]
    refine ⟨[], rest, d.received.data ++ bytes, rfl, rfl, hpart.extend hrest hfront hfew,
      by rw [hstep]; rfl, fun hand => ?_⟩
    rw [hstep]
    cases hand <;> simp [Note.data_cons, Note.datum?]

/-- What a read brings comes in before anything is done with it. -/
lemma arrived_step_read {d : TcpDriver} {bytes : Bytes} (hcan : d.canRead (.ok bytes) = true)
    (hbytes : bytes ≠ []) :
    bytes <+: Note.stream .arrived d.id (step d (.readDone (.ok bytes))).2 := by
  have harrived : Note.stream .arrived d.id (d.step (.readDone (.ok bytes))).2 = bytes := by
    simp only [TcpDriver.step, hcan, if_true, read_ok hbytes]
    split <;> simp [Note.stream, Note.data_cons, Note.datum?]
  rw [Framing.step, Noted.andThen, Note.stream_append, harrived]
  exact List.prefix_append _ _

/-- The id of a driver with the service never changes. -/
@[simp] lemma id_step (d : TcpDriver) (e : Event) : (step d e).1.id = d.id := by
  obtain ⟨fs, hfs⟩ := exists_run_answer (d.step e).1
  rw [Framing.step, Noted.andThen, hfs, id_run]
  exact (d.sameSettings_step e).id

/-- Each event keeps the account of what the service has done, as long as what comes in is a front
of the frames. -/
theorem Echoes.step {frames : List Bytes} (hframes : ∀ f ∈ frames, IsFrame f) {d : TcpDriver}
    {history : List Note} (h : Echoes frames d history) (hsound : d.Unstarted ∨ d.Coherent)
    (hdata : Note.stream .removed d.id history ++ d.received.data =
      Note.stream .arrived d.id history) {e : Event} (hown : isForeign e = false)
    (hfront : Note.stream .arrived d.id (history ++ (Framing.step d e).2) <+: frames.flatten) :
    Echoes frames (Framing.step d e).1 (history ++ (Framing.step d e).2) := by
  obtain ⟨whole, rest, rfl, hwhole, hechoed, hpart⟩ := h.kept
  by_cases hread : ∃ bytes, e = .readDone (.ok bytes) ∧ d.canRead (.ok bytes) = true ∧ bytes ≠ []
  · obtain ⟨bytes, rfl, hcan, hbytes⟩ := hread
    have hphase := (waiting_of_canRead hcan).1
    have hopen : d.mailbox.isOpen = true := by
      rcases hsound with hun | hco
      · rcases hun.fresh with ⟨hfresh, -⟩ | hover
        · simp [hphase] at hfresh
        · simp [hphase, TcpPhase.isOver] at hover
      · exact (hco.active (by simp [hphase, TcpPhase.isActive])).2.1
    have hrest : ∀ f ∈ rest, IsFrame f := fun f hf => hframes f (List.mem_append_right _ hf)
    -- what is in the buffer with the bytes that came in is a front of the frames that are left
    have harrived : d.received.data ++ bytes <+: rest.flatten := by
      have hbefore : Note.stream .arrived d.id history = whole.flatten ++ d.received.data := by
        rw [← hdata, Note.stream, hwhole]
      have hmore := (List.prefix_append_right_inj (Note.stream .arrived d.id history)).mpr
        (arrived_step_read hcan hbytes)
      rw [← Note.stream_append] at hmore
      have hall := hmore.trans hfront
      rwa [hbefore, List.flatten_append, List.append_assoc, List.prefix_append_right_inj] at hall
    obtain ⟨more, later, part, rfl, -, hlater, hstep, hnotes⟩ :=
      step_read h.settled hopen hcan hbytes hrest hpart harrived
    have hid : (Framing.step d (.readDone (.ok bytes))).1.id = d.id := id_step d _
    refine ⟨.inr (.inl ⟨.inl ?_, ?_⟩), whole ++ more, later, by simp, ?_, ?_, ?_⟩
    · rw [hstep, hphase]
    · simp [hstep, coming]
    · rw [hid, Note.data_append, hwhole, hnotes]
      simp
    · rw [hid, Note.data_append, hechoed, hnotes]
      simp
    · rwa [hstep]
  · push Not at hread
    have hcalm : d.phase ≠ .receiving := by
      rintro hphase
      simpa [hphase, TcpPhase.isCalling] using h.settled.isCalling
    obtain ⟨hsettled, hsame⟩ := h.settled.step hsound hown fun bytes hcan hbytes he =>
      hbytes (hread bytes he hcan)
    have hquiet : (d.step e).1.phase ≠ .receiving := by
      rintro hreceiving
      rcases read_of_receiving_step hreceiving with hphase | ⟨bytes, he, hbytes, hcan⟩
      · exact hcalm hphase
      · exact hbytes (hread bytes he hcan)
    obtain ⟨hremoved, hposted⟩ := data_of_isForeign hcalm hown d.id
    obtain ⟨-, hremoved', hposted'⟩ := data_answer hquiet d.id
    refine ⟨hsettled, whole, rest, rfl, ?_, ?_, by rwa [hsame]⟩
    · rw [id_step, Note.data_append, hwhole, Framing.step, Noted.andThen, Note.data_append,
        hremoved, hremoved', List.append_nil, List.append_nil]
    · rw [id_step, Note.data_append, hechoed, Framing.step, Noted.andThen, Note.data_append,
        hposted, hposted', List.append_nil, List.append_nil]

/-! ### Whole runs -/

/-- A run is an iteration of steps. -/
lemma run_eq_iterate (d : TcpDriver) (es : List Event) :
    run d es = Noted.iterate Framing.step d es := by
  induction es generalizing d with
  | nil => rfl
  | cons e es ih => simp [run, Noted.iterate, Noted.andThen, ih]

/-- A run over two sequences is the run over the first, gone on with the second. -/
lemma run_append (d : TcpDriver) (es fs : List Event) :
    run d (es ++ fs) = (run d es).andThen fun d => run d fs := by
  simp only [run_eq_iterate]
  exact Noted.iterate_append Framing.step d es fs

/-- A run with one more event. -/
lemma run_concat (d : TcpDriver) (es : List Event) (e : Event) :
    run d (es ++ [e]) =
      ((Framing.step (run d es).1 e).1, (run d es).2 ++ (Framing.step (run d es).1 e).2) := by
  simp only [run_eq_iterate]
  exact Noted.iterate_concat Framing.step d es e

/-- The id is that of the start. -/
@[simp] lemma id_run (d : TcpDriver) (es : List Event) : (run d es).1.id = d.id := by
  obtain ⟨fs, hfs⟩ := exists_run d es
  rw [hfs, TcpDriver.id_run]

section Runs

variable {frames : List Bytes} (hframes : ∀ f ∈ frames, IsFrame f)
variable (c : TcpConnection) (port : Port) (chunkSize : Nat) (linger : Option Nat)

include hframes in
/-- In every run in which fronts of the frames come in, the service has given back what is whole. -/
theorem echoes_run (es : List Event) (hown : ∀ e ∈ es, isForeign e = false) :
    let start := ofConnection c (.accepted port) chunkSize linger
    Note.stream .arrived c.id (run start es).2 <+: frames.flatten →
      Echoes frames (run start es).1 (run start es).2 := by
  intro start
  induction es using List.reverseRecOn with
  | nil =>
    intro _
    refine ⟨.inl ⟨rfl, rfl⟩, [], frames, rfl, rfl, rfl, List.nil_prefix, fun next hnext => ?_⟩
    exact List.length_pos_iff.mpr (hframes next (List.mem_of_mem_head? hnext)).ne_nil
  | append_singleton es e ih =>
    intro hfront
    have hid : (run start es).1.id = c.id := id_run start es
    rw [run_concat] at hfront ⊢
    have hbefore : Note.stream .arrived c.id (run start es).2 <+: frames.flatten :=
      (by simp : _ <+: _).trans hfront
    obtain ⟨fs, hfs⟩ := exists_run start es
    have hsound := unstarted_or_coherent_run c (.accepted port) chunkSize linger fs
    have hdata := removed_append_data c (.accepted port) chunkSize linger fs
    rw [← hfs] at hsound hdata
    rw [← hid] at hdata hfront
    exact (ih (fun e' he' => hown e' (List.mem_append_left _ he')) hbefore).step hframes hsound
      hdata (hown e (by simp)) hfront

end Runs

/-! ### A whole visit -/

/-- What a driver waits with in between of what its client sends: some frames are posted to be given
back, others are queued, and of the rest the front has come in. -/
structure Idles (d : TcpDriver) (posted queued rest : List Bytes) : Prop where
  /-- It waits. -/
  waiting : d.phase = .waiting
  /-- Nothing but what is given back is posted. -/
  mailbox : d.mailbox = { posted := posted.map .send }
  /-- Nothing but what is given back is queued. -/
  queue : d.queue.entries = queued
  /-- It waits for what the next frame wants. -/
  watermark : d.received.watermark = wanted d.received.data
  /-- There is no whole frame in the buffer. -/
  front : Awaited d.received.data rest

/-- The oldest chunk is queued. -/
lemma Idles.step_command {d : TcpDriver} {chunk : Bytes} {posted queued rest : List Bytes}
    (h : Idles d (chunk :: posted) queued rest) :
    Framing.step d .command = ({ d.prepared with
      mailbox := { posted := posted.map .send }, queue := d.queue.push chunk },
        [.queued d.id chunk]) := by
  simp [Framing.step, TcpDriver.step, h.waiting, takeCommand, Mailbox.take?, h.mailbox,
    Noted.andThen, answer, prepared]

/-- Without requests there is nothing to be taken up. -/
lemma Idles.step_command_nil {d : TcpDriver} {queued rest : List Bytes}
    (h : Idles d [] queued rest) : Framing.step d .command = (d, []) := by
  simp [Framing.step, TcpDriver.step, h.waiting, takeCommand, Mailbox.take?, h.mailbox,
    Noted.andThen, answer]

/-- Posted chunks are queued one after the other, and nothing else happens to the data. -/
lemma Idles.run_commands {d : TcpDriver} {posted queued rest : List Bytes}
    (h : Idles d posted queued rest) {n : Nat} (hn : posted.length ≤ n) :
    let r := run d (List.replicate n .command)
    Idles r.1 [] (queued ++ posted) rest ∧ r.1.received.data = d.received.data ∧
      r.1.chunkSize = d.chunkSize ∧ ∀ hand ≠ .queued, Note.data hand d.id r.2 = [] := by
  induction n generalizing d posted queued with
  | zero =>
    obtain rfl : posted = [] := List.length_eq_zero_iff.mp (Nat.le_zero.mp hn)
    simpa [run] using h
  | succ n ih =>
    cases posted with
    | nil =>
      have hnext := ih h (Nat.zero_le n)
      simpa [List.replicate_succ, run, h.step_command_nil, Noted.andThen] using hnext
    | cons chunk posted =>
      have hstep := h.step_command
      have hthen : Idles (Framing.step d .command).1 posted (queued ++ [chunk]) rest := by
        rw [hstep]
        exact ⟨h.waiting, rfl, by simp [h.queue], h.watermark, h.front⟩
      obtain ⟨hidles, hdata, hchunk, hnotes⟩ := ih hthen (Nat.le_of_succ_le_succ hn)
      rw [List.replicate_succ]
      refine ⟨by simpa [run, Noted.andThen] using hidles, ?_, ?_, fun hand hhand => ?_⟩
      · simpa [run, Noted.andThen, hstep, prepared] using hdata
      · simpa [run, Noted.andThen, hstep, prepared] using hchunk
      · have hlater := hnotes hand hhand
        rw [id_step] at hlater
        simp only [run, Noted.andThen, Note.data_append, hlater]
        simp [hstep, Note.data_cons, Note.datum?, Ne.symm hhand]

/-- A driver that idles is settled. -/
lemma Idles.settled {d : TcpDriver} {posted queued rest : List Bytes}
    (h : Idles d posted queued rest) : Settled d := by
  refine .inr (.inl ⟨.inl h.waiting, ?_⟩)
  simpa [coming, h.mailbox] using h.watermark

/-- A piece comes in, and the frames that it completes are queued to be given back. -/
lemma Idles.run_piece {d : TcpDriver} {queued rest : List Bytes} (h : Idles d [] queued rest)
    (hrest : ∀ f ∈ rest, IsFrame f) {p : Bytes} (hp : p ≠ [] ∧ p.length ≤ d.chunkSize)
    (hfront : d.received.data ++ p <+: rest.flatten) {n : Nat} (hn : rest.length ≤ n) :
    let r := run d (.readDone (.ok p) :: List.replicate n .command)
    ∃ more later, rest = more ++ later ∧
      d.received.data ++ p = more.flatten ++ r.1.received.data ∧
      Idles r.1 [] (queued ++ more) later ∧ r.1.chunkSize = d.chunkSize ∧
      Note.data .arrived d.id r.2 = [p] ∧ Note.data .removed d.id r.2 = more ∧
      Note.data .left d.id r.2 = [] := by
  have hcan : d.canRead (.ok p) = true := by simp [canRead, listens, h.waiting, h.mailbox, hp.2]
  obtain ⟨more, later, part, rfl, hwhole, hpart, hstep, hnotes⟩ :=
    step_read h.settled (by simp [h.mailbox]) hcan hp.1 hrest h.front hfront
  have hread : Idles (Framing.step d (.readDone (.ok p))).1 more queued later := by
    rw [hstep]
    exact ⟨h.waiting, by simp [h.mailbox], h.queue, rfl, hpart⟩
  have hmore : more.length ≤ n := by
    rw [List.length_append] at hn
    omega
  obtain ⟨hidles, hdata, hchunk, hquiet⟩ := hread.run_commands hmore
  rw [id_step] at hquiet
  refine ⟨more, later, rfl, ?_, hidles, ?_, ?_, ?_, ?_⟩
  · simp only [run, Noted.andThen, hdata]
    rw [hstep]
    exact hwhole
  · exact hchunk.trans (by rw [hstep])
  · simp only [run, Noted.andThen, Note.data_append, hnotes, hquiet .arrived (by simp)]
    simp
  · simp only [run, Noted.andThen, Note.data_append, hnotes, hquiet .removed (by simp)]
    simp
  · simp only [run, Noted.andThen, Note.data_append, hnotes, hquiet .left (by simp)]
    simp

/-- Once all pieces have come in, all frames are queued to be given back. -/
lemma Idles.run_pieces {d : TcpDriver} {queued rest : List Bytes} (h : Idles d [] queued rest)
    (hrest : ∀ f ∈ rest, IsFrame f) {pieces : List Bytes}
    (hpieces : ∀ p ∈ pieces, p ≠ [] ∧ p.length ≤ d.chunkSize)
    (hall : d.received.data ++ pieces.flatten = rest.flatten) {n : Nat} (hn : rest.length ≤ n) :
    let r := run d (pieces.flatMap fun p => .readDone (.ok p) :: List.replicate n .command)
    Idles r.1 [] (queued ++ rest) [] ∧ Note.data .arrived d.id r.2 = pieces ∧
      Note.data .removed d.id r.2 = rest ∧ Note.data .left d.id r.2 = [] := by
  induction pieces generalizing d queued rest with
  | nil =>
    obtain rfl : rest = [] := by
      cases rest with
      | nil => rfl
      | cons f rest =>
        have hshort := h.front.2 f rfl
        have hlength := congrArg List.length hall
        simp only [List.flatten_nil, List.append_nil, List.flatten_cons,
          List.length_append] at hlength
        omega
    simpa [run] using h
  | cons p pieces ih =>
    rw [List.flatten_cons, ← List.append_assoc] at hall
    obtain ⟨more, later, rfl, hwhole, hidles, hchunk, harrived, hremoved, hleft⟩ :=
      h.run_piece hrest (hpieces p (by simp)) ⟨_, hall⟩ hn
    have hlater : later.length ≤ n := by
      rw [List.length_append] at hn
      omega
    rw [hwhole, List.flatten_append, List.append_assoc, List.append_cancel_left_eq] at hall
    obtain ⟨hend, harrived', hremoved', hleft'⟩ := ih hidles
      (fun f hf => hrest f (List.mem_append_right _ hf))
      (fun q hq => hchunk ▸ hpieces q (List.mem_cons_of_mem _ hq)) hall hlater
    rw [id_run] at harrived' hremoved' hleft'
    simp only [List.flatMap_cons, run_append, Noted.andThen, Note.data_append]
    exact ⟨by simpa using hend, by simp [harrived, harrived'], by simp [hremoved, hremoved'],
      by simp [hleft, hleft']⟩

/-- A socket that takes every chunk over in one piece takes them over in order. -/
lemma Idles.run_writes {d : TcpDriver} {queued rest : List Bytes} (h : Idles d [] queued rest)
    (hqueued : ∀ f ∈ queued, f ≠ []) :
    let r := run d (queued.map fun f => .writeDone (.ok f.length))
    Note.data .left d.id r.2 = queued ∧ Note.data .arrived d.id r.2 = [] ∧
      Note.data .removed d.id r.2 = [] := by
  induction queued generalizing d with
  | nil => exact ⟨rfl, rfl, rfl⟩
  | cons f queued ih =>
    have hlength : f.length ≠ 0 := fun hzero =>
      hqueued f (by simp) (List.length_eq_zero_iff.mp hzero)
    have hcan : d.canWrite (.ok f.length) = true := by
      simp [canWrite, listens, h.waiting, h.mailbox, SendQueue.isEmpty, SendQueue.unwritten,
        SendQueue.front?, h.queue]
    have hadvance : d.queue.advance f.length = (⟨queued⟩, true) := by
      simp [SendQueue.advance, h.queue]
    have htaken : d.queue.unwritten.take f.length = f := by
      simp [SendQueue.unwritten, SendQueue.front?, h.queue]
    have hstep : Framing.step d (.writeDone (.ok f.length)) = ({ d.prepared with
          queue := ⟨queued⟩, phase := if queued = [] then .flushing else .waiting },
        [.left d.id f, .measured (.sent d.carrier f.length)]) := by
      cases queued <;>
        simp [Framing.step, TcpDriver.step, h.waiting, hcan, wrote_ok hlength, hadvance, htaken,
          Noted.andThen, answer, SendQueue.isEmpty, prepared]
    cases queued with
    | nil => simp [run, hstep, Noted.andThen, Note.data_cons, Note.datum?]
    | cons g queued =>
      have hnext : Idles (Framing.step d (.writeDone (.ok f.length))).1 [] (g :: queued) rest := by
        rw [hstep]
        exact ⟨by simp, h.mailbox, rfl, h.watermark, h.front⟩
      obtain ⟨hleft, harrived, hremoved⟩ := ih hnext fun f' hf' =>
        hqueued f' (List.mem_cons_of_mem _ hf')
      rw [id_step] at hleft harrived hremoved
      rw [List.map_cons]
      simp only [run, Noted.andThen, Note.data_append, hleft, harrived, hremoved]
      simp [hstep, Note.data_cons, Note.datum?]

/-- A client that sends frames cut into pieces and takes everything back afterwards: each piece
comes in when everything posted before is queued. -/
def visit (frames pieces : List Bytes) : List Event :=
  [.start, .command] ++
    (pieces.flatMap fun p => .readDone (.ok p) :: List.replicate frames.length .command) ++
      frames.map fun f => .writeDone (.ok f.length)

/-- However a client cuts its frames into pieces, they come in, are given to the service and leave
again. -/
theorem run_visit {frames : List Bytes} (hframes : ∀ f ∈ frames, IsFrame f) (c : TcpConnection)
    (port : Port) (chunkSize : Nat) (linger : Option Nat) {pieces : List Bytes}
    (hpieces : ∀ p ∈ pieces, p ≠ [] ∧ p.length ≤ chunkSize)
    (hall : pieces.flatten = frames.flatten) :
    let r := run (ofConnection c (.accepted port) chunkSize linger) (visit frames pieces)
    Note.data .arrived c.id r.2 = pieces ∧ Note.data .removed c.id r.2 = frames ∧
      Note.data .left c.id r.2 = frames := by
  have hopened : Idles (run (ofConnection c (.accepted port) chunkSize linger)
        [.start, .command]).1 [] [] frames ∧
      (run (ofConnection c (.accepted port) chunkSize linger) [.start, .command]).1.chunkSize =
        chunkSize ∧
      (run (ofConnection c (.accepted port) chunkSize linger)
        [.start, .command]).1.received.data = [] ∧
      ∀ hand, Note.data hand c.id (run (ofConnection c (.accepted port) chunkSize linger)
        [.start, .command]).2 = [] := by
    have hfront : Awaited [] frames := ⟨List.nil_prefix, fun next hnext =>
      List.length_pos_iff.mpr (hframes next (List.mem_of_mem_head? hnext)).ne_nil⟩
    simp only [run, Framing.step, TcpDriver.step, ofConnection, start, Noted.andThen, answer,
      returned, requestMark, Mailbox.post, takeCommand, Mailbox.take?, prepared, if_true]
    exact ⟨⟨rfl, rfl, rfl, rfl, hfront⟩, rfl, rfl,
      fun hand => by simp [Note.data_cons, Note.datum?]⟩
  obtain ⟨hidles, hchunk, hdata, hnothing⟩ := hopened
  obtain ⟨hqueued, harrived, hremoved, hleft⟩ := hidles.run_pieces hframes
    (fun p hp => hchunk.symm ▸ hpieces p hp) (by rw [hdata, List.nil_append, hall]) le_rfl
  obtain ⟨hleft', harrived', hremoved'⟩ := hqueued.run_writes
    (fun f hf => (hframes f (by simpa using hf)).ne_nil)
  have hid : (ofConnection c (.accepted port) chunkSize linger).id = c.id := rfl
  rw [id_run, hid] at harrived hremoved hleft
  rw [id_run, id_run, hid, List.nil_append] at hleft' harrived' hremoved'
  simp only [visit, run_append, Noted.andThen, Note.data_append, hnothing, List.nil_append]
  exact ⟨by rw [harrived, harrived', List.append_nil], by rw [hremoved, hremoved', List.append_nil],
    by rw [hleft, hleft', List.nil_append]⟩

/-! ### What a client gets back -/

/-- The service calls nobody. -/
lemma callbacks_serve (d : TcpDriver) : Note.callbacks (serve d).2.2 = [] := by
  have htake (d : TcpDriver) (length : Nat) : Note.callbacks (d.take length).2.2 = [] := by
    unfold TcpDriver.take
    split
    · split <;> rfl
    · rfl
  have hrequest (d : TcpDriver) (r : SendRequest) : Note.callbacks (d.request r).2.2 = [] := by
    cases r with
    | answered granted => rfl
    | chunk data => cases hopen : d.mailbox.isOpen <;> simp [request, Mailbox.post, hopen,
        Note.callbacks]
  fun_induction serve d with
  | case1 => rfl
  | case2 => rfl
  | case3 => rfl
  | case4 => exact htake _ _
  | case5 d header hsome length hlong henough whole htaken taken sent hsent next shorter later ih =>
    simp [taken, sent, later, htake, hrequest, ih]
  | case6 d header hsome length hlong henough whole htaken taken sent hsent =>
    simp [taken, sent, htake, hrequest]

/-- No answer tells the service of received bytes. -/
lemma receive_not_mem_answer (d : TcpDriver) (i : ConnectionId) :
    .receive i ∉ Note.callbacks (answer d).2 := by
  have hreturned (d : TcpDriver) (keep : Bool) :
      .receive i ∉ Note.callbacks (d.returned keep).2 := by
    unfold returned
    split
    · split <;> simp [finish, Note.callbacks]
    · split <;> simp
    · split <;> simp
    · simp [Note.callbacks]
    · simp
  unfold answer
  split
  · exact hreturned _ _
  · simpa [Noted.andThen, callbacks_serve] using hreturned _ _
  · exact hreturned _ _
  · exact hreturned _ _
  · simp

/-- A service that follows the frames of its client gives them back.  At every moment of every run
in which fronts of the frames come in, cut in whatever way, and nobody else asks the driver for
anything but to close, the frames that have come in whole, and no others, were handed to the
service, each of them once and in order, and were posted again; less than a frame is left in the
buffer; and what has left is a front of the same bytes, and the backlog is the rest of them as long
as the driver has to do with data.  Whenever the service is told of received bytes there are at
least as many as the last watermark set, and no other watermark waits to be set.  And however a
client cuts its frames into pieces that a read can bring, there is a run in which the pieces come in
and all frames leave again.
-/
theorem gives_frames_back (c : TcpConnection) (port : Port) (chunkSize : Nat)
    (linger : Option Nat) (frames : List Bytes) (hframes : ∀ f ∈ frames, IsFrame f) :
    let start := ofConnection c (.accepted port) chunkSize linger
    (∀ es : List Event, (∀ e ∈ es, isForeign e = false) →
      let r := run start es
      let arrived := Note.stream .arrived c.id r.2
      let left := Note.stream .left c.id r.2
      arrived <+: frames.flatten →
        ∃ whole rest, frames = whole ++ rest ∧
          Note.data .removed c.id r.2 = whole ∧ Note.data .posted c.id r.2 = whole ∧
          whole.flatten ++ r.1.received.data = arrived ∧
          (∀ next ∈ rest.head?, r.1.received.size < next.length) ∧
          (arrived = frames.flatten → whole = frames ∧ r.1.received.data = []) ∧
          left <+: whole.flatten ∧
          (r.1.phase.isMute = false → left ++ r.1.backlog = whole.flatten) ∧
          ∃ fs, r = start.run fs ∧
            ∀ e, .receive c.id ∈ Note.callbacks (Framing.step r.1 e).2 →
              r.1.mailbox.posted = [] ∧ ∃ bytes, e = .readDone (.ok bytes) ∧
                (start.marks fs).getLastD 1 ≤ r.1.received.size + bytes.length) ∧
    (∀ pieces : List Bytes, (∀ p ∈ pieces, p ≠ [] ∧ p.length ≤ chunkSize) →
      pieces.flatten = frames.flatten →
        let r := run start (visit frames pieces)
        Note.data .arrived c.id r.2 = pieces ∧ Note.data .removed c.id r.2 = frames ∧
          Note.data .left c.id r.2 = frames) := by
  intro start
  refine ⟨?_, fun pieces hpieces hall => run_visit hframes c port chunkSize linger hpieces hall⟩
  intro es hown r arrived left hfront
  have hid : r.1.id = c.id := id_run start es
  -- the laws of drivers hold of the run
  obtain ⟨fs, hfs⟩ : ∃ fs, r = start.run fs := exists_run start es
  have hdata : Note.stream .removed c.id r.2 ++ r.1.received.data = arrived := by
    rw [show arrived = Note.stream .arrived c.id r.2 from rfl, hfs]
    exact removed_append_data c (.accepted port) chunkSize linger fs
  obtain ⟨hleft, hrest⟩ : left <+: Note.stream .posted c.id r.2 ∧ (r.1.phase.isMute = false →
      left ++ r.1.backlog = Note.stream .posted c.id r.2) := by
    rw [show left = Note.stream .left c.id r.2 from rfl, hfs]
    exact owed_run c (.accepted port) chunkSize linger fs
  have hmark : r.1.received.watermark = (start.marks fs).getLastD 1 := by
    rw [hfs]
    exact watermark_run start fs
  obtain ⟨whole, rest, hwhole, hremoved, hposted, hpart⟩ :
      ∃ whole rest, frames = whole ++ rest ∧ Note.data .removed r.1.id r.2 = whole ∧
        Note.data .posted r.1.id r.2 = whole ∧ Awaited r.1.received.data rest :=
    (echoes_run hframes c port chunkSize linger es hown hfront).kept
  rw [hid] at hremoved hposted
  rw [Note.stream, hremoved] at hdata
  rw [Note.stream, hposted] at hleft hrest
  refine ⟨whole, rest, hwhole, hremoved, hposted, hdata, hpart.2, fun hall => ?_, hleft, hrest,
    fs, hfs, fun e htold => ?_⟩
  · -- without more to come there is no frame that less than a frame could be the front of
    rw [← hdata, hwhole, List.flatten_append, List.append_cancel_left_eq] at hall
    cases rest with
    | nil => exact ⟨by simp [hwhole], by simpa using hall⟩
    | cons next rest =>
      have hshort := hpart.2 next rfl
      have hlength := congrArg List.length hall
      simp only [List.flatten_cons, List.length_append] at hlength
      omega
  · rw [Framing.step, Noted.andThen, Note.callbacks_append, List.mem_append, ← hid] at htold
    rcases htold with htold | htold
    · obtain ⟨bytes, rfl, -, hcan, henough⟩ := (told_iff r.1 e).mp htold
      exact ⟨(waiting_of_canRead hcan).2, bytes, rfl, hmark ▸ henough⟩
    · exact absurd htold (receive_not_mem_answer _ _)

/-- Two frames that come in as three pieces, the borders of which are none of the frames'. -/
theorem gives_frames_back_cut :
    let c : TcpConnection :=
      { id := ⟨1⟩, direction := .passive, identity := .anonymous
        host := ⟨.loopback, 80⟩, peer := ⟨.loopback, 4000⟩ }
    let start := ofConnection c (.accepted 80) 4 none
    let frames : List Bytes := [frame [7, 8, 9], frame []]
    let pieces : List Bytes := [[0], [5, 7, 8], [9, 0, 2]]
    (∀ f ∈ frames, IsFrame f) ∧ (∀ p ∈ pieces, p ≠ [] ∧ p.length ≤ 4) ∧
      pieces.flatten = frames.flatten ∧ (∀ e ∈ visit frames pieces, isForeign e = false) ∧
      Note.data .arrived c.id (run start (visit frames pieces)).2 = pieces ∧
      Note.data .removed c.id (run start (visit frames pieces)).2 = frames ∧
      Note.data .posted c.id (run start (visit frames pieces)).2 = frames := by
  intro c start frames pieces
  have hframes : ∀ f ∈ frames, IsFrame f := by
    intro f hf
    rcases List.mem_pair.mp hf with rfl | rfl
    · exact isFrame_frame (by decide)
    · exact isFrame_frame (by decide)
  have hpieces : ∀ p ∈ pieces, p ≠ [] ∧ p.length ≤ 4 := by decide
  have hall : pieces.flatten = frames.flatten := by decide
  have hown : ∀ e ∈ visit frames pieces, isForeign e = false := by
    simp [visit, isForeign, frames, pieces]
  obtain ⟨hrun, hvisit⟩ := gives_frames_back c 80 4 none frames hframes
  obtain ⟨harrived, hremoved, -⟩ := hvisit pieces hpieces hall
  have hcame : Note.stream .arrived c.id (run start (visit frames pieces)).2 = frames.flatten := by
    rw [Note.stream, harrived, hall]
  have hfront : Note.stream .arrived c.id (run start (visit frames pieces)).2 <+: frames.flatten :=
    hcame.symm ▸ List.prefix_rfl
  obtain ⟨whole, rest, -, -, hposted, -, -, hwhole, -⟩ := hrun (visit frames pieces) hown hfront
  have hsame : whole = frames := (hwhole hcame).1
  exact ⟨hframes, hpieces, hall, hown, harrived, hremoved, hposted.trans hsame⟩

end Tcp.Framing

end Switchboard
