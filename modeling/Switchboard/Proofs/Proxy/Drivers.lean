import Switchboard.Proofs.Tcp.Receiving
import Switchboard.Proxy.Exchange

/-!
# What a forwarder's drivers do of themselves

An exchange has its drivers do what the service asks for, and lets everything else happen to them.
Here is what it relies on.  While a driver waits for its service (`TcpPhase.isCalling`) nothing but
the service's answer ends the wait (`TcpDriver.calling_step`), and it is told of received bytes only
when there are some (`TcpDriver.receiving_step`).  Only the service posts chunks to a driver and
takes received bytes out of it (`TcpDriver.data_of_free`), and a mailbox that was closed stays so
(`TcpDriver.isOpen_step`).
-/

namespace Switchboard

namespace TcpDriver

open Proxy (Exchange)

/-! ### Calls under way -/

/-- A started driver does not announce its connection again. -/
lemma opening_step {d : TcpDriver} (hstarted : d.phase ≠ .fresh) {e : Event}
    (hopening : (d.step e).1.phase = .opening) : d.phase = .opening := by
  have hmove := d.move_step e
  generalize d.step e = r at hmove hopening
  cases hmove with
  | announce phase => exact absurd phase hstarted
  | obey rest phase posted => exact (ne_of_isLeaving (isLeaving_leave _ _) rfl hopening).elim
  | giveUp _ reason phase why => exact (ne_of_isLeaving (isLeaving_leave _ _) rfl hopening).elim
  | flushFailed source phase => exact (ne_of_isLeaving (isLeaving_leave _ _) rfl hopening).elim
  | refuse phase => exact (ne_of_isLeaving (isLeaving_leave _ _) rfl hopening).elim
  | emptyRest => exact (ne_of_isLeaving d.isLeaving_nextChunk rfl hopening).elim
  | write n can some phase next =>
    rcases next with rfl | ⟨rfl, -⟩ <;> simp at hopening
  | stay => exact hopening
  | post => exact hopening
  | postMark => exact hopening
  | postClose => exact hopening
  | enqueue => exact hopening
  | adopt => exact hopening
  | gather => exact hopening
  | remove => exact hopening
  | set => exact hopening
  | _ => simp [finish] at hopening

/-- What is not up to the service leaves a call under way alone. -/
lemma calling_step {d : TcpDriver} {e : Event} (free : Exchange.isOfService e = false)
    (hcalling : d.phase.isCalling = true) :
    (d.step e).1.phase = d.phase ∧ (d.step e).1.received = d.received := by
  have hmove := d.move_step e
  generalize d.step e = r at hmove
  cases hmove with
  | stay => exact ⟨rfl, rfl⟩
  | gather _ can => simp [(waiting_of_canRead can).1, TcpPhase.isCalling] at hcalling
  | tell _ can => simp [(waiting_of_canRead can).1, TcpPhase.isCalling] at hcalling
  | write _ can => simp [(waiting_of_canWrite can).1, TcpPhase.isCalling] at hcalling
  | remove _ length how => rcases how with rfl | rfl <;> cases free
  | abandon phase =>
    rcases phase with phase | phase | ⟨_, _, phase⟩ | phase | phase <;>
      simp [phase, TcpPhase.isCalling] at hcalling
  | _ => simp_all [TcpPhase.isCalling, Exchange.isOfService]

/-- Without the service, a driver only waits for it because of received bytes if there are some. -/
lemma receiving_step {d : TcpDriver} {e : Event} (free : Exchange.isOfService e = false)
    (hreceiving : (d.step e).1.phase = .receiving) :
    d.phase = .receiving ∨ (d.step e).1.received.data ≠ [] := by
  refine (read_of_receiving_step hreceiving).imp_right ?_
  rintro ⟨bytes, rfl, hbytes, hcan⟩
  have hdata : (d.received.receive d.chunkSize bytes).data ≠ [] := by
    simp [ReceiveBuffer.data_receive (length_le_of_canRead hcan), hbytes]
  simp only [step, hcan, if_true, read_ok hbytes]
  split <;> exact hdata

/-- Whatever is answered, the call is over. -/
lemma returned_step {d : TcpDriver} (hcalling : d.phase.isCalling = true) (answer : Bool) :
    (d.step (.returned answer)).1.phase ≠ .opening ∧
      (d.step (.returned answer)).1.phase ≠ .receiving := by
  cases answer <;> cases hphase : d.phase <;> simp_all [TcpPhase.isCalling, step, returned, finish]
  · exact ⟨ne_of_isLeaving (isLeaving_leave _ _) rfl, ne_of_isLeaving (isLeaving_leave _ _) rfl⟩
  · exact ⟨ne_of_isLeaving (isLeaving_leave _ _) rfl, ne_of_isLeaving (isLeaving_leave _ _) rfl⟩

/-- Asking to send changes neither what a driver waits for nor what it received. -/
lemma step_request (d : TcpDriver) (r : SendRequest) :
    (d.step (.request r)).1.phase = d.phase ∧ (d.step (.request r)).1.received = d.received := by
  cases r <;> exact ⟨rfl, rfl⟩

/-- An answer does not touch the receive buffer. -/
lemma received_returned (d : TcpDriver) (answer : Bool) :
    (d.step (.returned answer)).1.received = d.received := by
  cases answer <;> cases hphase : d.phase <;> simp [step, returned, hphase, finish]

/-! ### What is posted and taken out -/

/-- What is not up to the service neither posts nor removes anything. -/
lemma data_of_free {d : TcpDriver} {e : Event} (free : Exchange.isOfService e = false)
    (i : ConnectionId) :
    Note.data .removed i (d.step e).2 = [] ∧ Note.data .posted i (d.step e).2 = [] := by
  refine data_step_eq_nil (fun r he => ?_) (fun length => ⟨fun he => ?_, fun he => ?_⟩) i
  · subst he; cases free
  · subst he; cases free
  · subst he; cases free

/-- Asking to send removes nothing, and posts nothing for others. -/
lemma data_request (d : TcpDriver) (r : SendRequest) (i : ConnectionId) :
    Note.data .removed i (d.step (.request r)).2 = [] ∧
      (i ≠ d.id → Note.data .posted i (d.step (.request r)).2 = []) := by
  cases r with
  | answered granted => exact ⟨rfl, fun _ => rfl⟩
  | chunk data =>
    cases hopen : d.mailbox.isOpen with
    | true =>
      refine ⟨by simp [step, request, Mailbox.post, hopen, Note.data_cons, Note.datum?], ?_⟩
      intro hi
      simp [step, request, Mailbox.post, hopen, Note.data_cons, Note.datum?, Ne.symm hi]
    | false => exact ⟨by simp [step, request, Mailbox.post, hopen],
        fun _ => by simp [step, request, Mailbox.post, hopen]⟩

/-- A chunk that is granted is posted, if there is anything in it. -/
lemma posted_request {d : TcpDriver} {chunk : Bytes} (hchunk : chunk ≠ [])
    (granted : (d.request (.ofChunk chunk)).1 = true) :
    Note.data .posted d.id (d.step (.request (.ofChunk chunk))).2 = [chunk] := by
  have hopen : d.mailbox.isOpen = true := by
    simpa [SendRequest.ofChunk, hchunk, request] using granted
  simp [SendRequest.ofChunk, hchunk, step, request, Mailbox.post, hopen, Note.data_cons,
    Note.datum?]

/-- A connection with an open mailbox is granted every chunk. -/
lemma granted_of_isOpen {d : TcpDriver} (hopen : d.mailbox.isOpen = true) (chunk : Bytes) :
    (d.request (.ofChunk chunk)).1 = true := by
  unfold SendRequest.ofChunk
  split <;> simp [request, hopen]

/-- A mailbox that is open was open before. -/
lemma isOpen_step {d : TcpDriver} {e : Event} (h : (d.step e).1.mailbox.isOpen = true) :
    d.mailbox.isOpen = true := by
  have hleave (d' : TcpDriver) (reason : CloseReason)
      (h : (d'.leave reason).1.mailbox.isOpen = true) : False := by
    obtain ⟨_, _, _, hleave, -⟩ := d'.fst_leave reason
    simp [hleave] at h
  have hmove := d.move_step e
  generalize d.step e = r at hmove h
  cases hmove with
  | obey rest phase posted => exact (hleave _ _ h).elim
  | giveUp _ reason phase why => exact (hleave _ _ h).elim
  | flushFailed source phase => exact (hleave _ _ h).elim
  | refuse phase => exact (hleave _ _ h).elim
  | emptyRest =>
    obtain ⟨_, _, hnext, -⟩ := d.nextChunk_eq
    rwa [hnext] at h
  | reject => cases h
  | part => cases h
  | abandon => cases h
  | _ => exact h

end TcpDriver

end Switchboard
