import Switchboard.Proofs.Tcp.Sending

/-!
# Drivers that nothing bad happens to

The laws of sending ask why a driver left and whether its writing out was cut short, which is known
only in hindsight.  Here the same is said beforehand.  A driver is spared if its socket does not
fail, its closing time does not end and its loop does not drop it (`TcpDriver.Event.isBlow` lists
what may not happen).  A driver that serves its connection and is spared from then on leaves in an
orderly way and writes everything out (`TcpDriver.left_of_spared`).
-/

namespace Switchboard

namespace TcpDriver

/-- Whether an event is a failure of the socket, the end of the closing time or the loss of the
loop. -/
def Event.isBlow : Event → Bool
  | .readDone (.error _) | .writeDone (.error _) | .writeDone (.ok 0)
  | .flushDone (.error _) => true
  | .lingerOver | .abort => true
  | _ => false

/-- A driver that serves its connection, or that left in an orderly way. -/
def Spared (d : TcpDriver) : Prop :=
  d.phase.isActive = true ∧ d.phase ≠ .opening ∨
    ∃ reason, d.reason = some reason ∧ reason.isOrderly = true

/-- A driver that leaves gives its reason. -/
@[simp] lemma reason_leave (d : TcpDriver) (reason : CloseReason) :
    (d.leave reason).1.reason = some reason := by
  obtain ⟨posted, queue, phase, hleave, -⟩ := d.fst_leave reason
  rw [hleave]

/-- A driver is only active if it was before. -/
lemma isActive_of_step {d : TcpDriver} {e : Event} (h : (d.step e).1.phase.isActive = true) :
    d.phase.isActive = true := by
  have hmove := d.move_step e
  generalize d.step e = r at hmove h
  cases hmove with
  | stay => exact h
  | post => exact h
  | postMark => exact h
  | postClose => exact h
  | gather => exact h
  | enqueue rest phase => simp_all [TcpPhase.isActive]
  | tell _ can => simp [(waiting_of_canRead can).1, TcpPhase.isActive]
  | write _ can => simp [(waiting_of_canWrite can).1, TcpPhase.isActive]
  | keep phase => rcases phase with phase | phase | phase <;> simp [phase, TcpPhase.isActive]
  | refuse phase => rcases phase with phase | phase <;> simp [phase, TcpPhase.isActive]
  | emptyRest =>
    have hleaving := d.isLeaving_nextChunk
    cases hphase : d.nextChunk.phase <;> simp_all [TcpPhase.isActive, TcpPhase.isLeaving]
  | abandon phase => simp [finish, TcpPhase.isActive] at h
  | _ => simp_all [TcpPhase.isActive, finish]

/-- A driver that has left does not serve its connection again. -/
lemma isActive_step_eq_false {d : TcpDriver} (h : d.phase.isActive = false) (e : Event) :
    (d.step e).1.phase.isActive = false := by
  refine Bool.eq_false_iff.mpr fun hactive => ?_
  simp [isActive_of_step hactive] at h

lemma isActive_run_eq_false {d : TcpDriver} (h : d.phase.isActive = false) (es : List Event) :
    (d.run es).1.phase.isActive = false := by
  induction es using List.reverseRecOn with
  | nil => exact h
  | append_singleton es e ih =>
    rw [run_concat]
    exact isActive_step_eq_false ih e

/-- An active driver does not write out what is left yet, so nothing was cut short. -/
lemma writesOut_of_isActive {d : TcpDriver} {es : List Event}
    (h : (d.run es).1.phase.isActive = true) : d.writesOut es = true := by
  induction es using List.reverseRecOn with
  | nil => rfl
  | append_singleton es e ih =>
    rw [run_concat] at h
    have hactive := isActive_of_step h
    have hcut : (d.run es).1.cutsShort e = false := by
      cases hphase : (d.run es).1.phase <;> simp_all [cutsShort, TcpPhase.isActive]
    rw [writesOut_concat, ih hactive, hcut]
    rfl

/-- What is no blow does not cut short. -/
lemma cutsShort_of_isBlow {e : Event} (h : e.isBlow = false) (d : TcpDriver) :
    d.cutsShort e = false := by
  unfold cutsShort
  split <;> simp_all [Event.isBlow]

/-- A started driver that is spared stays so unless it meets with a blow. -/
lemma Spared.step {d : TcpDriver} (h : d.Spared) (hco : d.Coherent) {e : Event}
    (hblow : e.isBlow = false) : (d.step e).1.Spared := by
  -- an active driver has given no reason
  have hserving (hactive : d.phase.isActive = true) : d.phase ≠ .opening := by
    rcases h with ⟨-, hopening⟩ | ⟨reason, hreason, -⟩
    · exact hopening
    · simp [(hco.active hactive).1] at hreason
  -- one that is not active any more keeps to its reason
  have hleft (hidle : d.phase.isActive = false) {d' : TcpDriver} (hreason : d'.reason = d.reason) :
      d'.Spared := by
    rcases h with ⟨hactive, -⟩ | hgone
    · simp [hidle] at hactive
    · exact .inr (hreason ▸ hgone)
  have hmove := d.move_step e
  generalize d.step e = r at hmove
  cases hmove with
  | stay => exact h
  | post => exact h
  | postMark => exact h
  | postClose => exact h
  | announce phase => exact absurd phase hco.started
  | enqueue data rest phase posted =>
    exact .inl (by simp [prepared, phase, TcpPhase.isActive])
  | adopt mark rest phase posted =>
    exact .inl (by simp [prepared, phase, TcpPhase.isActive])
  | obey rest phase posted => exact .inr ⟨.requested, by simp, rfl⟩
  | giveUp e reason phase why =>
    refine .inr ⟨reason, by simp, ?_⟩
    unfold Event.verdict? at why
    split at why <;> simp_all [Event.isBlow, CloseReason.isOrderly]
    subst why
    rfl
  | gather _ can => exact h
  | tell bytes can some reached => exact .inl (by simp [TcpPhase.isActive])
  | write n can some phase next =>
    rcases next with rfl | ⟨rfl, -⟩ <;> exact .inl (by simp [TcpPhase.isActive])
  | flushFailed source phase => simp [Event.isBlow] at hblow
  | drain phase => exact .inl (by simp [TcpPhase.isActive])
  | remove => exact h
  | set => exact h
  | keep phase => exact .inl (by simp [TcpPhase.isActive])
  | reject phase => exact absurd phase (hserving (by simp [phase, TcpPhase.isActive]))
  | refuse phase => exact .inr ⟨.rejected, by simp, rfl⟩
  | discard phase => simp [Event.isBlow] at hblow
  | abandon phase => simp [Event.isBlow] at hblow
  | emptyPart chunk written n phase => exact hleft (by simp [phase, TcpPhase.isActive]) rfl
  | emptyRest chunk written n phase =>
    obtain ⟨queue, phase', hnext, -⟩ := d.nextChunk_eq
    exact hleft (by simp [phase, TcpPhase.isActive]) (by rw [hnext])
  | cut _ chunk written phase => exact hleft (by simp [phase, TcpPhase.isActive]) rfl
  | settle _ phase => exact hleft (by simp [phase, TcpPhase.isActive]) rfl
  | shut phase => exact hleft (by simp [phase, TcpPhase.isActive]) rfl
  | part keep phase => exact hleft (by simp [phase, TcpPhase.isActive]) rfl

/-- A driver that serves its connection and meets with no blow from then on has sent all that was
granted by the time its end is announced. -/
theorem left_of_spared (c : TcpConnection) (opening : Opening) (chunkSize : Nat)
    (linger : Option Nat) (hlinger : linger.isSome = true) (es fs : List Event) :
    let start := ofConnection c opening chunkSize linger
    (start.run es).1.phase.isActive = true → (start.run es).1.phase ≠ .opening →
      (start.run es).1.Coherent → (∀ f ∈ fs, f.isBlow = false) →
      .close c.id .closed ∈ Note.callbacks (start.run (es ++ fs)).2 →
        Note.stream .left c.id (start.run (es ++ fs)).2 =
          Note.stream .posted c.id (start.run (es ++ fs)).2 := by
  intro start hactive hopening hco hblow hclose
  have hspared : (start.run (es ++ fs)).1.Spared ∧ start.writesOut (es ++ fs) = true := by
    clear hclose
    induction fs using List.reverseRecOn with
    | nil =>
      rw [List.append_nil]
      exact ⟨.inl ⟨hactive, hopening⟩, writesOut_of_isActive hactive⟩
    | append_singleton fs f ih =>
      obtain ⟨hspared, hout⟩ := ih fun f' hf' => hblow f' (List.mem_append_left _ hf')
      have hnow := hblow f (by simp)
      have hco' : (start.run (es ++ fs)).1.Coherent := by
        rw [run_append]
        exact coherent_run hco fs
      rw [← List.append_assoc, run_concat, writesOut_concat, hout, cutsShort_of_isBlow hnow]
      exact ⟨hspared.step hco' hnow, rfl⟩
  have hover : (start.run (es ++ fs)).1.phase.isOver = true :=
    isOver_of_close_mem (d := start) hclose
  rcases hspared.1 with ⟨hactive', -⟩ | ⟨reason, hreason, horderly⟩
  · cases hphase : (start.run (es ++ fs)).1.phase <;>
      simp_all [TcpPhase.isActive, TcpPhase.isOver]
  · exact flushed_run c opening chunkSize linger hlinger (es ++ fs) hspared.2
      (isMute_of_isOver hover) reason hreason horderly

/-- Nothing comes in any more once a driver is over. -/
lemma arrived_of_isOver {d : TcpDriver} (hover : d.phase.isOver = true) (es : List Event) :
    Note.data .arrived d.id (d.run es).2 = [] := by
  refine (run_induction (motive := fun _ d' history =>
    d'.phase.isOver = true ∧ Note.data .arrived d.id history = []) ⟨hover, rfl⟩
    (fun es e ⟨hover, harrived⟩ => ⟨(step_of_isOver hover e).1, ?_⟩) es).2
  rw [Note.data_append, harrived, List.nil_append]
  have hmove := (d.run es).1.move_step e
  generalize (d.run es).1.step e = r at hmove
  cases hmove with
  | gather _ can => simp [(waiting_of_canRead can).1, TcpPhase.isOver] at hover
  | tell _ can => simp [(waiting_of_canRead can).1, TcpPhase.isOver] at hover
  | obey rest phase posted => simp
  | giveUp _ reason phase why => simp
  | flushFailed source phase => simp
  | refuse phase => simp
  | _ => rfl

end TcpDriver

end Switchboard
