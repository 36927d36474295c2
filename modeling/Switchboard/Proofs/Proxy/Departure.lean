import Switchboard.Proofs.Proxy.Projection
import Switchboard.Proofs.Tcp.Calls

/-!
# Nothing stays in the table of pairs

A connection gets into the table when it is announced and out of it when its end is.  Between the
two it may have been rejected, or have lost its other side, and the table is used by other
connections all the time; still a connection that is listed always has its last call before it
(`Exchange.Attends`).  So the table of pairs is empty once the last calls of all connections were at
the table (`Exchange.pairs_accounted_for`), which is the one half of what keeps it tidy; the other
half is that it is consistent.
-/

namespace Switchboard

/-- The connection that a call announces. -/
def Callback.opens? : Callback → Option ConnectionId
  | accept id _ => some id
  | connect id _ => id
  | _ => none

/-- A call that announces a connection is about it. -/
lemma Callback.connection?_of_opens? {call : Callback} {id : ConnectionId}
    (h : call.opens? = some id) : call.connection? = some id := by
  cases call <;> first | exact h | cases h

/-- Whether a history tells that a connection was announced. -/
def Note.Announced (id : ConnectionId) (history : List Note) : Prop :=
  ∃ call ∈ Note.callbacks history, call.opens? = some id

namespace TcpDriver

/-- What a driver announces is its connection. -/
lemma opens?_announcement (d : TcpDriver) : d.announcement.opens? = some d.id := by
  unfold announcement
  cases d.opening <;> rfl

/-- Only the answer to a call lets a driver be done. -/
lemma done_step {d : TcpDriver} {e : Event} (he : ∀ keep, e ≠ .returned keep)
    (hdone : (d.step e).1.phase = .done) : d.phase = .done :=
  (done_of_step hdone).resolve_right fun ⟨_, keep, hreturned⟩ => he keep hreturned

/-- The answer to another call than the last one does not let a driver be done. -/
lemma returned_ne_done {d : TcpDriver} (hdone : d.phase ≠ .done) (hclosing : d.phase ≠ .closing)
    (answer : Bool) : (d.step (.returned answer)).1.phase ≠ .done := fun hnow =>
  (done_of_step hnow).elim hdone fun hlast => hclosing hlast.1

end TcpDriver

namespace Proxy

namespace Exchange

variable {x : Exchange}

/-! ### One step -/

/-- The connections that are listed have their last call at the table before them. -/
def Attends (x : Exchange) : Prop :=
  ∀ id n, x.forwarder.table.byConnection.get? id = some n →
    ∃ d, x.drivers.get? id = some d ∧ d.phase ≠ .done ∧
      (d.phase = .closing → x.errands.get? id = none)

/-- No step takes the last call from a connection that stays listed. -/
lemma Attends.step (h : x.Sound) (hattends : x.Attends) (e : Event) : (x.step e).1.Attends := by
  -- no driver gets into another phase, and no errand is put down for a last call
  have hcalm {x' : Exchange}
      (hlisted : ∀ id n, x'.forwarder.table.byConnection.get? id = some n →
        x.forwarder.table.byConnection.get? id = some n ∨
          ∃ d, x'.drivers.get? id = some d ∧ d.phase = .opening)
      (hdrivers : ∀ id d, x.drivers.get? id = some d →
        ∃ d', x'.drivers.get? id = some d' ∧ d'.phase = d.phase)
      (herrands : ∀ id d, x.drivers.get? id = some d → d.phase = .closing →
        x.errands.get? id = none → x'.errands.get? id = none) : x'.Attends := by
    intro id n hid
    rcases hlisted id n hid with hid | ⟨d, hd, hopening⟩
    · obtain ⟨d, hd, hdone, hclosing⟩ := hattends id n hid
      obtain ⟨d', hd', hphase⟩ := hdrivers id d hd
      rw [← hphase] at hdone
      exact ⟨d', hd', hdone, fun hc => herrands id d hd (hphase ▸ hc) (hclosing (hphase ▸ hc))⟩
    · exact ⟨d, hd, by simp [hopening], by simp [hopening]⟩
  have hsame (id : ConnectionId) (d : TcpDriver) (hd : x.drivers.get? id = some d) :
      ∃ d', x.drivers.get? id = some d' ∧ d'.phase = d.phase := ⟨d, hd, rfl⟩
  have hput {i : ConnectionId} {d₀ d₀' : TcpDriver} (hd₀ : x.drivers.get? i = some d₀)
      (hphase : d₀'.phase = d₀.phase) (id : ConnectionId) (d : TcpDriver)
      (hd : x.drivers.get? id = some d) :
      ∃ d', (x.drivers.put i d₀').get? id = some d' ∧ d'.phase = d.phase := by
    rw [Table.get?_put]
    split
    · rename_i he
      obtain rfl := Option.some.inj (hd.symm.trans (he ▸ hd₀))
      exact ⟨_, rfl, hphase⟩
    · exact hsame id d hd
  have hnew {i : ConnectionId} (d₀ : TcpDriver) (hnone : x.drivers.get? i = none)
      (id : ConnectionId) (d : TcpDriver) (hd : x.drivers.get? id = some d) :
      ∃ d', (x.drivers.put i d₀).get? id = some d' ∧ d'.phase = d.phase := by
    have hne : id ≠ i := fun he => by simp [← he, hd] at hnone
    rw [Table.get?_put, if_neg hne]
    exact hsame id d hd
  have hidle (id : ConnectionId) (d : TcpDriver) (_ : x.drivers.get? id = some d)
      (_ : d.phase = .closing) (hnone : x.errands.get? id = none) : x.errands.get? id = none :=
    hnone
  -- an errand comes in the place of another one
  have hnext {i : ConnectionId} {before : Errand} (found : x.errands.get? i = some before)
      (errand : Errand) (id : ConnectionId) (d : TcpDriver) (_ : x.drivers.get? id = some d)
      (_ : d.phase = .closing) (hnone : x.errands.get? id = none) :
      (x.errands.put i errand).get? id = none := by
    have hne : id ≠ i := fun he => by simp [← he, hnone] at found
    rw [Table.get?_put, if_neg hne, hnone]
  -- an errand is what is left of a call that is not the last
  have hfirst {i : ConnectionId} {d₀ : TcpDriver} (driver : x.drivers.get? i = some d₀)
      (phase : d₀.phase ≠ .closing) (errand : Errand) (id : ConnectionId) (d : TcpDriver)
      (hd : x.drivers.get? id = some d) (hclosing : d.phase = .closing)
      (hnone : x.errands.get? id = none) : (x.errands.put i errand).get? id = none := by
    have hne : id ≠ i := by
      rintro rfl
      obtain rfl := Option.some.inj (driver.symm.trans hd)
      exact phase hclosing
    rw [Table.get?_put, if_neg hne, hnone]
  have hmove := x.move_step h.loose e
  generalize x.step e = r at hmove
  cases hmove with
  | accept id port host peer new => exact hcalm (fun _ _ => .inl) (hnew _ new) hidle
  | up number id host peer asked new => exact hcalm (fun _ _ => .inl) (hnew _ new) hidle
  | turn _ _ turn =>
    cases turn with
    | enter id d port driver free phase opening =>
      refine hcalm (fun id' n hid => ?_) hsame (hfirst driver (by simp [phase]) _)
      simp only [PairTable.enter, Table.get?_put] at hid
      split at hid
      · rename_i he
        exact .inr ⟨d, he ▸ driver, phase⟩
      · exact .inl hid
    | join id d p driver free phase opening pair =>
      refine hcalm (fun id' n hid => ?_) hsame (hfirst driver (by simp [phase]) _)
      simp only [Table.get?_put] at hid
      split at hid
      · rename_i he
        exact .inr ⟨d, he ▸ driver, phase⟩
      · exact .inl hid
    | relay id d driver free phase =>
      refine hcalm (fun id' n hid => .inl ?_) (hput driver rfl) (hfirst driver (by simp [phase]) _)
      rwa [x.forwarder.snd_received, PairTable.byConnection_relay] at hid
    | leave id d driver free phase =>
      -- who leaves is listed no more, and the others are left alone
      intro id' n hid
      dsimp only at hid ⊢
      rw [x.forwarder.snd_closed, PairTable.get?_byConnection_leave h.table] at hid
      split at hid
      · cases hid
      · rename_i hne
        rw [Table.get?_put, if_neg hne]
        exact hattends id' n hid
  | conclude id d answer driver free phase =>
    refine hcalm (fun _ _ => .inl) hsame (hfirst driver ?_ _)
    rcases phase with phase | phase <;> simp [phase]
  | answer id asked d answer driver errand =>
    intro id' n hid
    dsimp only
    rw [Table.get?_put, Table.get?_erase]
    split
    · rename_i he
      obtain ⟨d₀, hd₀, hdone, hclosing⟩ := hattends id' n hid
      obtain rfl := Option.some.inj (driver.symm.trans (he ▸ hd₀))
      refine ⟨_, rfl, TcpDriver.returned_ne_done hdone (fun hc => ?_) answer, fun _ => rfl⟩
      simp [← he, hclosing hc] at errand
    · exact hattends id' n hid
  | forget id asked answer driver errand =>
    obtain ⟨d, hd, -⟩ := h.busy errand
    simp [driver] at hd
  | ask id number request errand => exact hcalm (fun _ _ => .inl) hsame (hnext errand _)
  | resolve id asked errand answer watched found idle =>
    exact hcalm (fun _ _ => .inl) hsame (hnext found _)
  | posting _ _ posting =>
    cases posting with
    | post id asked other chunk rest d errand driver granted =>
      exact hcalm (fun _ _ => .inl) (hput driver (TcpDriver.step_request d _).1) (hnext errand _)
    | lose id asked other chunk rest errand refused =>
    exact hcalm (fun _ _ => .inl) hsame (hnext errand _)
  | hangUp id asked other answer d errand driver =>
    exact hcalm (fun _ _ => .inl) (hput driver rfl) (hnext errand _)
  | looseHangUp i other answer d errand driver =>
    exact hcalm (fun _ _ => .inl) (hput driver rfl) hidle
  | drive id d e driver free =>
    intro id' n hid
    dsimp only [put]
    rw [Table.get?_put]
    split
    · rename_i he
      subst he
      obtain ⟨d₀, hd₀, hdone, hclosing⟩ := hattends id' n hid
      obtain rfl := Option.some.inj (driver.symm.trans hd₀)
      refine ⟨_, rfl, fun hnow => hdone (TcpDriver.done_step (fun keep he => ?_) hnow),
        fun hnow => ?_⟩
      · subst he
        cases free
      · cases found : x.errands.get? id' with
        | none => rfl
        | some errand =>
          -- nothing but its service goes on with a call
          obtain ⟨d₁, hd₁, hs⟩ := h.busy found
          obtain rfl := Option.some.inj (driver.symm.trans hd₁)
          rw [(TcpDriver.calling_step free hs.isCalling).1] at hnow
          simp [hclosing hnow] at found
    · exact hattends id' n hid
  | _ => exact hcalm (fun _ _ => .inl) hsame hidle

/-! ### Whole runs -/

lemma attends_run (h : x.Sound) (hattends : x.Attends) (es : List Event) :
    (x.run es).1.Attends := by
  induction es using List.reverseRecOn with
  | nil => exact hattends
  | append_singleton es e ih =>
    rw [run_concat]
    exact ih.step (sound_run h es) e

/-- Whether the last call of a connection, if it is under way, has been at the table. -/
def HasLeft (x : Exchange) (id : ConnectionId) : Prop :=
  ∀ d, x.drivers.get? id = some d → d.phase = .closing → x.errands.get? id ≠ none

/-- A history remembers that a connection with a driver was announced. -/
lemma Remembers.announced {id : ConnectionId} {d : TcpDriver} {history : List Note}
    (h : x.Remembers history id d) : Note.Announced id history := by
  obtain ⟨c, opening, fs, rfl, -, hown⟩ := h
  set start := TcpDriver.ofConnection c opening x.chunkSize x.linger
  have hopens : start.announcement.opens? = some c.id := start.opens?_announcement
  have howner := Callback.connection?_of_opens? hopens
  refine ⟨start.announcement, ?_, hopens⟩
  rw [← Note.mem_callbacks_own c.id howner, hown, Note.mem_callbacks_own c.id howner]
  have hfresh : start.phase = .fresh := rfl
  simp [TcpDriver.run, Noted.andThen, TcpDriver.step, TcpDriver.start, hfresh, Note.callbacks]

/-- A history remembers a driver whose end it tells of as one that is over. -/
lemma Remembers.isOver {id : ConnectionId} {d : TcpDriver} {history : List Note}
    (h : x.Remembers history id d) (hclose : .close id .closed ∈ Note.callbacks history) :
    d.phase.isOver = true := by
  obtain ⟨c, opening, fs, rfl, rfl, hown⟩ := h
  rw [← Note.mem_callbacks_own c.id rfl, hown, Note.mem_callbacks_own c.id rfl] at hclose
  exact TcpDriver.isOver_of_close_mem hclose

/-- A connection whose last call was at the table is not listed. -/
lemma unlisted_of_hasLeft {f : Forwarder} {chunkSize : Nat} {linger : Option Nat}
    {es : List Event} {id : ConnectionId} {d : TcpDriver}
    (hd : ((ofForwarder f chunkSize linger).run es).1.drivers.get? id = some d)
    (hover : d.phase.isOver = true)
    (hleft : ((ofForwarder f chunkSize linger).run es).1.HasLeft id) :
    ((ofForwarder f chunkSize linger).run es).1.forwarder.table.byConnection.get? id = none := by
  have hattends := attends_run (sound_ofForwarder f chunkSize linger) (fun _ _ h => by cases h) es
  by_contra hlisted
  obtain ⟨n, hn⟩ := Option.ne_none_iff_exists'.mp hlisted
  obtain ⟨d', hd', hdone, hclosing⟩ := hattends id n hn
  obtain rfl := Option.some.inj (hd.symm.trans hd')
  have hphase : d.phase = .closing := by
    cases hphase : d.phase <;> simp_all [TcpPhase.isOver]
  exact hleft d hd hphase (hclosing hphase)

/-- After every turn at the table a connection is listed for a pair exactly if it is a side of it,
no connection is in two pairs and every pair has a side.  Once all connections that were announced
have had their last call at the table, nothing is left in it. -/
theorem pairs_accounted_for (f : Forwarder) (chunkSize : Nat) (linger : Option Nat)
    (es : List Event) :
    let r := (ofForwarder f chunkSize linger).run es
    let table := r.1.forwarder.table
    (∀ id n, table.byConnection.get? id = some n ↔
      ∃ p, table.pairs.get? n = some p ∧ (p.source = some id ∨ p.target = some id)) ∧
    (∀ m n p q id, table.pairs.get? m = some p → table.pairs.get? n = some q →
      (p.source = some id ∨ p.target = some id) → (q.source = some id ∨ q.target = some id) →
      m = n) ∧
    (∀ n p, table.pairs.get? n = some p → p.source ≠ none ∨ p.target ≠ none) ∧
    ((∀ id, Note.Announced id r.2 → .close id .closed ∈ Note.callbacks r.2 ∧ r.1.HasLeft id) →
      table = {}) := by
  intro r table
  have hsound : r.1.Sound := sound_run (sound_ofForwarder f chunkSize linger) es
  have hside {n : Nat} {p : Pair} {id : ConnectionId} (hp : table.pairs.get? n = some p)
      (h : p.source = some id ∨ p.target = some id) : table.byConnection.get? id = some n :=
    h.elim (hsound.table.source hp) (hsound.table.target hp)
  have hoccupied {n : Nat} {p : Pair} (hp : table.pairs.get? n = some p) :
      p.source ≠ none ∨ p.target ≠ none := by
    by_cases hs : p.source = none
    · exact .inr (hsound.table.occupied hp hs)
    · exact .inl hs
  refine ⟨fun id n => ⟨hsound.table.listed, fun ⟨p, hp, h⟩ => hside hp h⟩,
    fun m n p q id hp hq hid hid' => ?_, fun n p hp => hoccupied hp, fun hall => ?_⟩
  · exact Option.some.inj ((hside hp hid).symm.trans (hside hq hid'))
  · have hnobody (id : ConnectionId) : table.byConnection.get? id = none := by
      rcases birth_run f chunkSize linger es id with ⟨hnone, -⟩ | ⟨d, hd, hremembers⟩
      · by_contra hlisted
        obtain ⟨n, hn⟩ := Option.ne_none_iff_exists'.mp hlisted
        obtain ⟨d, hd, -⟩ := hsound.listed hn
        exact absurd (hnone.symm.trans hd) (by simp)
      · obtain ⟨hclose, hleft⟩ := hall id hremembers.announced
        exact unlisted_of_hasLeft hd (hremembers.isOver hclose) hleft
    have hnopair (n : Nat) : table.pairs.get? n = none := by
      by_contra hpair
      obtain ⟨p, hp⟩ := Option.ne_none_iff_exists'.mp hpair
      rcases hoccupied hp with h | h
      · obtain ⟨id, hid⟩ := Option.ne_none_iff_exists'.mp h
        exact absurd ((hnobody id).symm.trans (hside hp (.inl hid))) (by simp)
      · obtain ⟨id, hid⟩ := Option.ne_none_iff_exists'.mp h
        exact absurd ((hnobody id).symm.trans (hside hp (.inr hid))) (by simp)
    have hpairs : table.pairs = [] := Table.eq_nil_of_get?_eq_none hnopair
    have hlists : table.byConnection = [] := Table.eq_nil_of_get?_eq_none hnobody
    exact PairTable.mk.injEq .. ▸ ⟨hpairs, hlists⟩

/-- A client ends its stream while its target is on the way, so its pair is gone when the target
comes, which is turned away. -/
def lateTarget : List Event :=
  let here : Endpoint := ⟨.loopback, 80⟩
  [.accept ⟨1⟩ 80 here here, .consult ⟨1⟩, .errand ⟨1⟩ true, .errand ⟨1⟩ true, .errand ⟨1⟩ true,
    .drive ⟨1⟩ (.readDone (.ok [])), .drive ⟨1⟩ .shutdownOver, .consult ⟨1⟩, .errand ⟨1⟩ true,
    .targetUp 1 ⟨2⟩ here here, .consult ⟨2⟩, .errand ⟨2⟩ true, .consult ⟨2⟩]

/-- Both connections were announced and have left, so no pair is left. -/
theorem pairs_accounted_for_late_target :
    let f : Forwarder :=
      { attached := true, targetHost := "target", targetPort := 80, maxHeld := 8, deadline := none }
    Note.callbacks ((ofForwarder f 512 none).run lateTarget).2 =
        [.accept ⟨1⟩ 80, .close ⟨1⟩ .closed, .connect (some ⟨2⟩) ⟨1⟩, .close ⟨2⟩ .closed] ∧
      ((ofForwarder f 512 none).run lateTarget).1.forwarder.table = {} := by
  intro f
  have h := (pairs_accounted_for f 512 none lateTarget).2.2.2
  have hcalls : Note.callbacks ((ofForwarder f 512 none).run lateTarget).2 =
      [.accept ⟨1⟩ 80, .close ⟨1⟩ .closed, .connect (some ⟨2⟩) ⟨1⟩, .close ⟨2⟩ .closed] := by
    decide +kernel
  have hphase : (((ofForwarder f 512 none).run lateTarget).1.drivers.get? ⟨1⟩).map (·.phase) =
      some .done := by
    decide +kernel
  have hbusy : ((ofForwarder f 512 none).run lateTarget).1.errands.get? ⟨2⟩ =
      some (.done true) := by
    decide +kernel
  generalize (ofForwarder f 512 none).run lateTarget = r at h hcalls hphase hbusy ⊢
  refine ⟨hcalls, h fun id hannounced => ?_⟩
  unfold Note.Announced at hannounced
  rw [hcalls] at hannounced ⊢
  have hid : id = ⟨1⟩ ∨ id = ⟨2⟩ := by
    simpa [Callback.opens?, eq_comm] using hannounced
  rcases hid with rfl | rfl
  · refine ⟨by simp, fun d hd hclosing => ?_⟩
    simp [hd, hclosing] at hphase
  · exact ⟨by simp, fun d hd hclosing => by simp [hbusy]⟩

end Exchange

end Proxy

end Switchboard
