import Switchboard.Proofs.Proxy.Projection

/-!
# What comes in is taken at once

A forwarder never changes a watermark, so the service is told of whatever comes in, and its call
takes out everything there is.  So nothing waits in the receive buffer of a connection except
between the moment it came in and the moment the call about it comes to the table
(`Exchange.emptied_run`), and what came in at a connection is what was removed from it
(`Exchange.arrived_eq_removed`).
-/

namespace Switchboard

namespace TcpDriver

/-- A driver whose service is told of every byte, since nobody asks for another watermark. -/
def Prompt (d : TcpDriver) : Prop :=
  d.received.watermark = 1 ∧ ∀ mark, .mark mark ∉ d.mailbox.posted

/-- Leaving posts nothing. -/
lemma posted_leave (d : TcpDriver) (reason : CloseReason) :
    (d.leave reason).1.mailbox.posted = [] ∨
      (d.leave reason).1.mailbox.posted = d.mailbox.posted := by
  unfold leave
  dsimp only
  split
  · split
    · exact .inl rfl
    · obtain ⟨queue, phase, hnext, -⟩ := nextChunk_eq _
      rw [hnext]
      exact .inl rfl
  · exact .inr rfl

/-- Requests for a watermark come from requests for a watermark only. -/
lemma Prompt.step {d : TcpDriver} (h : d.Prompt) {e : Event}
    (he : ∀ mark, e ≠ .requestMark mark ∧ e ≠ .setMark mark) : (d.step e).1.Prompt := by
  obtain ⟨hmark, hposted⟩ := h
  constructor
  · rw [watermark_step, mark?.eq_def]
    split
    · exact absurd rfl (he _).2
    · split
      · rename_i mark _ _ hmem
        exact absurd (hmem ▸ List.mem_cons_self) (hposted mark)
      · exact hmark
    · exact hmark
  · have hleave (d' : TcpDriver) (reason : CloseReason)
        (hd' : ∀ mark, .mark mark ∉ d'.mailbox.posted) (mark : Nat) :
        .mark mark ∉ (d'.leave reason).1.mailbox.posted := by
      rcases d'.posted_leave reason with hnil | hsame
      · simp [hnil]
      · rw [hsame]
        exact hd' mark
    have hmove := d.move_step e
    generalize d.step e = r at hmove
    intro mark
    cases hmove with
    | post => simpa using hposted mark
    | postMark mark' => exact absurd rfl (he mark').1
    | postClose => simpa using hposted mark
    | enqueue data rest phase posted =>
      have hrest := hposted mark
      rw [posted] at hrest
      exact fun hmem => hrest (List.mem_cons_of_mem _ hmem)
    | adopt mark' rest phase posted =>
      have hrest := hposted mark
      rw [posted] at hrest
      exact fun hmem => hrest (List.mem_cons_of_mem _ hmem)
    | obey rest phase posted =>
      refine hleave _ _ (fun mark hmem => hposted mark ?_) mark
      rw [posted]
      exact List.mem_cons_of_mem _ hmem
    | giveUp _ reason => exact hleave d.prepared reason hposted mark
    | flushFailed source => exact hleave d _ hposted mark
    | refuse => exact hleave d _ hposted mark
    | emptyRest =>
      obtain ⟨queue, phase, hnext, -⟩ := d.nextChunk_eq
      rw [hnext]
      exact hposted mark
    | part => simp [Mailbox.abandoned]
    | abandon => simp [Mailbox.abandoned, finish]
    | _ => exact hposted mark

/-- What comes in is told at once. -/
lemma data_of_prompt {d : TcpDriver} (h : d.Prompt) {e : Event}
    (free : Proxy.Exchange.isOfService e = false) (hempty : d.received.data = []) :
    (d.step e).1.received.data = [] ∨ (d.step e).1.phase = .receiving := by
  have hmove := d.move_step e
  generalize d.step e = r at hmove
  cases hmove with
  | gather bytes can some below =>
    have hreached := reachedWatermark_receive (b := d.received) (length_le_of_canRead can)
    have hfew := mt hreached.mpr (by simp [below])
    have hlength := List.length_pos_iff.mpr some
    rw [h.1] at hfew
    omega
  | tell => exact .inr rfl
  | remove _ length how => rcases how with rfl | rfl <;> cases free
  | obey rest phase posted => simp [prepared, hempty]
  | giveUp => simp [prepared, hempty]
  | flushFailed => simp [hempty]
  | refuse => simp [hempty]
  | emptyRest => simp [hempty]
  | _ => exact .inl hempty

end TcpDriver

namespace Proxy

namespace Exchange

variable {x : Exchange}

/-- What came in at a connection waits only for the call about it to come to the table. -/
def Emptied (x : Exchange) : Prop :=
  ∀ id d, x.drivers.get? id = some d →
    d.Prompt ∧ (d.received.data = [] ∨ d.phase = .receiving ∧ x.errands.get? id = none)

/-- A connection with an errand has nothing left in its receive buffer. -/
lemma Emptied.data_of_errand (h : x.Emptied) {id : ConnectionId} {d : TcpDriver}
    (hd : x.drivers.get? id = some d) {errand : Errand} (found : x.errands.get? id = some errand) :
    d.received.data = [] := by
  rcases (h id d hd).2 with hempty | ⟨-, hnone⟩
  · exact hempty
  · simp [found] at hnone

/-- A connection whose service is not told of bytes has nothing left in its receive buffer. -/
lemma Emptied.data_of_phase (h : x.Emptied) {id : ConnectionId} {d : TcpDriver}
    (hd : x.drivers.get? id = some d) (phase : d.phase ≠ .receiving) : d.received.data = [] := by
  rcases (h id d hd).2 with hempty | ⟨hreceiving, -⟩
  · exact hempty
  · exact absurd hreceiving phase

/-- No step lets anything wait. -/
lemma Emptied.step (h : x.Sound) (hemptied : x.Emptied) (e : Event) : (x.step e).1.Emptied := by
  -- an errand is put down for a connection with nothing in its buffer
  have herrand {i : ConnectionId} (errand : Errand)
      (hempty : ∀ d, x.drivers.get? i = some d → d.received.data = []) (id : ConnectionId)
      (d : TcpDriver) (hd : x.drivers.get? id = some d) :
      d.Prompt ∧
        (d.received.data = [] ∨
          d.phase = .receiving ∧ (x.errands.put i errand).get? id = none) := by
    obtain ⟨hprompt, hdata⟩ := hemptied id d hd
    by_cases he : id = i
    · exact ⟨hprompt, .inl (hempty d (he ▸ hd))⟩
    · rw [Table.get?_put, if_neg he]
      exact ⟨hprompt, hdata⟩
  have hfirst {i : ConnectionId} {d₀ : TcpDriver} (driver : x.drivers.get? i = some d₀)
      (phase : d₀.phase ≠ .receiving) (d : TcpDriver) (hd : x.drivers.get? i = some d) :
      d.received.data = [] := by
    obtain rfl := Option.some.inj (driver.symm.trans hd)
    exact hemptied.data_of_phase driver phase
  have hnext {i : ConnectionId} {before : Errand} (found : x.errands.get? i = some before)
      (d : TcpDriver) (hd : x.drivers.get? i = some d) : d.received.data = [] :=
    hemptied.data_of_errand hd found
  -- a driver takes the place of another one
  have hput {i : ConnectionId} {d₀ : TcpDriver} {errands : Table ConnectionId Errand}
      (hothers : ∀ id d, x.drivers.get? id = some d →
        d.Prompt ∧ (d.received.data = [] ∨ d.phase = .receiving ∧ errands.get? id = none))
      (hthis : d₀.Prompt ∧ (d₀.received.data = [] ∨ d₀.phase = .receiving ∧ errands.get? i = none))
      (id : ConnectionId) (d : TcpDriver) (hd : (x.drivers.put i d₀).get? id = some d) :
      d.Prompt ∧ (d.received.data = [] ∨ d.phase = .receiving ∧ errands.get? id = none) := by
    rw [Table.get?_put] at hd
    split at hd
    · rename_i he
      obtain rfl := Option.some.inj hd
      exact he ▸ hthis
    · exact hothers id d hd
  have hnew (i : ConnectionId) (identity : Identity) (opening : Opening) (host peer : Endpoint) :
      ((x.newcomer i identity opening host peer).step .start).1.Prompt ∧
        (((x.newcomer i identity opening host peer).step .start).1.received.data = [] ∨
          ((x.newcomer i identity opening host peer).step .start).1.phase = .receiving ∧
            x.errands.get? i = none) :=
    ⟨⟨rfl, by simp [newcomer, TcpDriver.ofConnection, TcpDriver.step, TcpDriver.start]⟩, .inl rfl⟩
  have hmove := x.move_step h.loose e
  generalize x.step e = r at hmove
  cases hmove with
  | accept id port host peer new => exact hput hemptied (hnew _ _ _ _ _)
  | up number id host peer asked new => exact hput hemptied (hnew _ _ _ _ _)
  | turn _ _ turn =>
    cases turn with
    | enter id d port driver free phase opening =>
      exact herrand _ (hfirst driver (by simp [phase]))
    | join id d p driver free phase opening pair =>
      exact herrand _ (hfirst driver (by simp [phase]))
    | relay id d driver free phase =>
      have hall : (d.received.consume d.received.size).data = [] := by
        simp [ReceiveBuffer.size]
      intro id' d' hd'
      dsimp only at hd' ⊢
      rw [Table.get?_put] at hd' ⊢
      split at hd'
      · obtain rfl := Option.some.inj hd'
        exact ⟨(hemptied id d driver).1, .inl hall⟩
      · rename_i he
        rw [if_neg he]
        exact hemptied id' d' hd'
    | leave id d driver free phase => exact herrand _ (hfirst driver (by simp [phase]))
  | conclude id d answer driver free phase =>
    refine herrand _ (hfirst driver ?_)
    rcases phase with phase | phase <;> simp [phase]
  | answer id asked d answer driver errand =>
    have hempty := hemptied.data_of_errand driver errand
    refine hput (fun id' d' hd' => ?_) ⟨(hemptied id d driver).1.step (by simp), .inl ?_⟩
    · obtain ⟨hprompt, hdata⟩ := hemptied id' d' hd'
      refine ⟨hprompt, hdata.imp_right fun hreceiving => ⟨hreceiving.1, ?_⟩⟩
      rw [Table.get?_erase]
      split
      · rfl
      · exact hreceiving.2
    · rw [TcpDriver.received_returned]
      exact hempty
  | forget id asked answer driver errand =>
    obtain ⟨d, hd, -⟩ := h.busy errand
    simp [driver] at hd
  | ask id number request errand => exact herrand _ (hnext errand)
  | resolve id asked errand answer watched found idle => exact herrand _ (hnext found)
  | posting _ _ posting =>
    cases posting with
    | post id asked other chunk rest d errand driver granted =>
      have hothers := herrand (.send other rest) (hnext errand)
      obtain ⟨hphase, hreceived⟩ := d.step_request (.ofChunk chunk)
      obtain ⟨hprompt, hdata⟩ := hothers other d driver
      rw [← hphase, ← hreceived] at hdata
      exact hput hothers ⟨hprompt.step (by simp), hdata⟩
    | lose id asked other chunk rest errand refused => exact herrand _ (hnext errand)
  | hangUp id asked other answer d errand driver =>
    have hothers := herrand (.done answer) (hnext errand)
    obtain ⟨hprompt, hdata⟩ := hothers other d driver
    exact hput hothers ⟨hprompt.step (by simp), hdata⟩
  | looseHangUp i other answer d errand driver =>
    obtain ⟨hprompt, hdata⟩ := hemptied other d driver
    exact hput hemptied ⟨hprompt.step (by simp), hdata⟩
  | drive id d e driver free =>
    obtain ⟨hprompt, hdata⟩ := hemptied id d driver
    have hmarks (mark : Nat) : e ≠ .requestMark mark ∧ e ≠ .setMark mark := by
      constructor <;> rintro rfl <;> cases free
    refine hput hemptied ⟨hprompt.step hmarks, ?_⟩
    by_cases hcalling : d.phase.isCalling = true
    · obtain ⟨hphase, hreceived⟩ := TcpDriver.calling_step free hcalling
      rwa [hphase, hreceived]
    · -- a connection that waits for something else has no call under way
      have hidle : x.errands.get? id = none := by
        by_contra hbusy
        obtain ⟨errand, found⟩ := Option.ne_none_iff_exists'.mp hbusy
        obtain ⟨d', hd', hs⟩ := h.busy found
        obtain rfl := Option.some.inj (driver.symm.trans hd')
        exact hcalling hs.isCalling
      have hempty : d.received.data = [] := by
        refine hemptied.data_of_phase driver fun hphase => hcalling ?_
        simp [hphase, TcpPhase.isCalling]
      exact (TcpDriver.data_of_prompt hprompt free hempty).imp_right fun hphase => ⟨hphase, hidle⟩
  | _ => exact hemptied

/-- In no run of a forwarder does anything wait. -/
lemma emptied_run {f : Forwarder} {chunkSize : Nat} {linger : Option Nat} (es : List Event) :
    ((ofForwarder f chunkSize linger).run es).1.Emptied := by
  induction es using List.reverseRecOn with
  | nil =>
    intro id d hd
    cases hd
  | append_singleton es e ih =>
    rw [run_concat]
    exact ih.step (sound_run (sound_ofForwarder f chunkSize linger) es) e

/-- What a history tells to have come in was removed or is in the buffer. -/
lemma Remembers.removed_append_data {id : ConnectionId} {d : TcpDriver} {history : List Note}
    (h : x.Remembers history id d) :
    Note.stream .removed id history ++ d.received.data = Note.stream .arrived id history := by
  obtain ⟨c, opening, fs, rfl, rfl, hown⟩ := h
  rw [← Note.stream_own c.id .removed, ← Note.stream_own c.id .arrived, hown, Note.stream_own,
    Note.stream_own]
  exact TcpDriver.removed_append_data c opening x.chunkSize x.linger (.start :: fs)

/-- What came in at a connection whose service is not told of bytes was all removed. -/
lemma arrived_eq_removed {f : Forwarder} {chunkSize : Nat} {linger : Option Nat} {es : List Event}
    {id : ConnectionId} {d : TcpDriver}
    (hd : ((ofForwarder f chunkSize linger).run es).1.drivers.get? id = some d)
    (phase : d.phase ≠ .receiving) :
    Note.stream .arrived id ((ofForwarder f chunkSize linger).run es).2 =
      Note.stream .removed id ((ofForwarder f chunkSize linger).run es).2 := by
  have hempty := (emptied_run es).data_of_phase hd phase
  rcases birth_run f chunkSize linger es id with
    ⟨hnone, -⟩ | ⟨d', hd', hremembers⟩
  · simp [hd] at hnone
  · obtain rfl := Option.some.inj (hd.symm.trans hd')
    rw [← hremembers.removed_append_data, hempty, List.append_nil]

end Exchange

end Proxy

end Switchboard
