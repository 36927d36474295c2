import Switchboard.Proofs.Accounts.Books
import Switchboard.Proofs.Gate.Permits
import Switchboard.Tcp.Manager

/-!
# Accounts of stream connections

A stream connection is counted from the start of its driver until the service has taken note of its
end, and it runs until that end is announced.  Whatever happens to a started driver keeps these
accounts (`TcpDriver.booked_step`), also if its loop drops it.

The drivers of accepted connections sit in a gate, which starts them and lets go of them when they
are done (`Tcp.Gate.Kept.booked_step`); a connection that is turned away or lost before it has a
driver is never counted.  An outbound connection is counted in the same step in which its driver is
made, or never (`Tcp.Manager.enters_createConnection`).
-/

namespace Switchboard

namespace TcpDriver

variable {d d' : TcpDriver}

/-! ### Drivers -/

/-- What a driver counts for. -/
def census (d : TcpDriver) : Account → Int
  | .live => if d.phase = .done then 0 else 1
  | .running c => if d.carrier = c ∧ d.phase.isOver = false then 1 else 0
  | .peers => 0

/-- Until the end is announced a driver counts for the same. -/
lemma census_of_running (hcarrier : d'.carrier = d.carrier) (hbefore : d.phase.isOver = false)
    (hafter : d'.phase.isOver = false) (k : Account) : d'.census k = d.census k := by
  have hdone {p : TcpPhase} (hp : p.isOver = false) : p ≠ .done := by
    rintro rfl
    cases hp
  cases k with
  | live => simp only [census, hdone hbefore, hdone hafter, if_false]
  | running c => simp only [census, hcarrier, hbefore, hafter]
  | peers => rfl

/-- The end of a connection is announced and booked at once; its driver stays. -/
lemma booked_finish (hrunning : d.phase.isOver = false) :
    Booked d.census d.finish.1.census d.finish.2 := by
  have hnot : d.phase ≠ .done := by
    intro hdone
    rw [hdone] at hrunning
    cases hrunning
  refine ⟨fun k => ?_, by simp [finish, Note.change]⟩
  cases k with
  | live => simp [census, finish, Note.change, hnot]
  | running c =>
    have hover : TcpPhase.closing.isOver = true := rfl
    by_cases hc : d.carrier = c <;> simp [census, finish, Note.change, hrunning, hc, hover]
  | peers => simp [census, finish, Note.change]

/-- A driver that leaves counts for what it did. -/
lemma booked_leave (hrunning : d.phase.isOver = false) (reason : CloseReason) :
    Booked d.census (d.leave reason).1.census (d.leave reason).2 := by
  obtain ⟨chunks, hchunks⟩ := d.snd_leave reason
  have hcarrier : (d.leave reason).1.carrier = d.carrier := by
    obtain ⟨posted, queue, phase, hleave, -⟩ := d.fst_leave reason
    rw [hleave]
    rfl
  refine .ofNeutral (census_of_running hcarrier hrunning ?_) ?_
  · exact TcpPhase.isOver_of_isLeaving (isLeaving_leave d reason)
  · rw [hchunks]
    simp [Note.isNeutral]

/-- Whatever happens to a started driver, its accounts are kept. -/
theorem booked_step (hstarted : d.phase ≠ .fresh) (e : Event) :
    Booked d.census (d.step e).1.census (d.step e).2 := by
  have hmove := d.move_step e
  generalize d.step e = r at hmove
  -- neither the carrier nor the phase is another one
  have hsame {d' : TcpDriver} (hcarrier : d'.carrier = d.carrier) (hphase : d'.phase = d.phase)
      (k : Account) : d'.census k = d.census k := by
    cases k <;> simp only [census, hcarrier, hphase]
  have hover {p : TcpPhase} (phase : d.phase = p) (hp : p.isOver = false) :
      d.phase.isOver = false := by rw [phase, hp]
  cases hmove with
  | stay | post | postMark | postClose | enqueue | adopt | gather | remove | set =>
    exact .ofNeutral (hsame rfl rfl) rfl
  | announce phase | discard phase => exact absurd phase hstarted
  | obey rest phase =>
    exact booked_leave (d := { d.prepared with mailbox := { d.mailbox with posted := rest } })
      (hover phase rfl) .requested
  | giveUp _ reason phase => exact booked_leave (d := d.prepared) (hover phase rfl) reason
  | flushFailed source phase => exact booked_leave (hover phase rfl) _
  | tell bytes can =>
    exact .ofNeutral (census_of_running rfl (hover (waiting_of_canRead can).1 rfl) rfl) rfl
  | write n can some phase next =>
    have hafter : phase.isOver = false := by rcases next with rfl | ⟨rfl, -⟩ <;> rfl
    exact .ofNeutral (census_of_running rfl (hover (waiting_of_canWrite can).1 rfl) hafter) rfl
  | drain phase => exact .ofNeutral (census_of_running rfl (hover phase rfl) rfl) rfl
  | emptyPart chunk written n phase =>
    exact .ofNeutral (census_of_running rfl (hover phase rfl) rfl) rfl
  | emptyRest chunk written n phase =>
    have hleaving := isLeaving_nextChunk d
    have hcarrier : d.nextChunk.carrier = d.carrier := by
      obtain ⟨queue, phase, hnext, -⟩ := d.nextChunk_eq
      rw [hnext]
      rfl
    exact .ofNeutral
      (census_of_running hcarrier (hover phase rfl) (TcpPhase.isOver_of_isLeaving hleaving)) rfl
  | cut _ chunk written phase => exact .ofNeutral (census_of_running rfl (hover phase rfl) rfl) rfl
  | settle _ phase => exact .ofNeutral (census_of_running rfl (hover phase rfl) rfl) rfl
  | shut phase => exact booked_finish (hover phase rfl)
  | keep phase =>
    have hbefore : d.phase.isOver = false := by
      rcases phase with phase | phase | phase <;> exact hover phase rfl
    exact .ofNeutral (census_of_running rfl hbefore rfl) rfl
  | reject phase =>
    exact booked_finish (d := { d with mailbox := d.mailbox.close }) (hover phase rfl)
  | refuse phase =>
    rcases phase with phase | phase <;> exact booked_leave (hover phase rfl) _
  | part keep phase =>
    refine ⟨fun k => ?_, by simp⟩
    cases k <;> simp [census, Note.change, phase, TcpPhase.isOver]
  | abandon phase =>
    refine booked_finish (d := { d with mailbox := .abandoned }) ?_
    rcases phase with phase | phase | ⟨chunk, written, phase⟩ | phase | phase <;>
      exact hover phase rfl

end TcpDriver

namespace Tcp

/-! ### Outbound connections -/

/-- What is noted where a stream connection may come in. -/
abbrev EntersStream : Option TcpDriver → List Note → Prop :=
  Enters TcpDriver.census TcpDriver.Coherent

namespace Engine

/-- A driver is counted and announced in the same step. -/
lemma enters_runConnection (engine : Engine) (id : ConnectionId) (identity : Identity)
    (encrypted : Bool) (ends : Except SystemError (Endpoint × Endpoint)) (opening : Opening) :
    EntersStream (engine.runConnection id identity encrypted ends opening).1
      (engine.runConnection id identity encrypted ends opening).2 := by
  cases ends with
  | error e => cases opening <;> exact .nobody rfl
  | ok ends =>
    constructor
    case booked =>
      refine ⟨fun k => ?_, by simp [runConnection, TcpDriver.start, Note.change]⟩
      have hover : TcpPhase.opening.isOver = false := rfl
      cases k with
      | live =>
        simp [Account.optional, runConnection, TcpDriver.start, TcpDriver.census, Note.change]
      | running c =>
        simp [Account.optional, runConnection, TcpDriver.start, TcpDriver.census, Note.change,
          TcpDriver.carrier, hover]
      | peers =>
        simp [Account.optional, runConnection, TcpDriver.start, TcpDriver.census, Note.change]
    case proper =>
      rintro d ⟨⟩
      exact .ofActive (by simp) rfl ⟨rfl, rfl, rfl⟩

lemma enters_establish (engine : Engine) (journey : Journey) (id : ConnectionId)
    (request : Connect.Request) :
    EntersStream (engine.establish journey id request).1
      (engine.establish journey id request).2 := by
  have hgo (encrypted : Bool) := engine.enters_runConnection id request.identity encrypted
    journey.ends .connected
  unfold establish
  cases engine.connector with
  | none => exact hgo false
  | some material =>
    dsimp only
    cases Tls.ServerName.ofHost request.host with
    | error e => exact .nobody rfl
    | ok name =>
      cases journey.handshake with
      | error e => exact .nobody rfl
      | ok => exact hgo true

lemma enters_connect (engine : Engine) (journey : Journey) (id : ConnectionId)
    (request : Connect.Request) (bind : Option Endpoint) :
    EntersStream (engine.connect journey id request bind).1.driver
      (engine.connect journey id request bind).2 := by
  unfold connect
  cases journey.resolver request.host request.service with
  | error e => exact .nobody rfl
  | ok candidates =>
    dsimp only
    rcases Connect.connectStepwise (journey.attempt bind) candidates with ⟨_ | _, tried⟩
    · exact engine.enters_establish journey id request
    · exact .nobody rfl

lemma enters_attend (engine : Engine) (journey : Journey) (id : ConnectionId)
    (request : Connect.Request) (bind : Option Endpoint) :
    EntersStream (engine.attend journey id request bind).2.1.driver
      (engine.attend journey id request bind).2.2 := by
  unfold attend
  cases journey.resolver request.host request.service with
  | error e => exact .nobody rfl
  | ok candidates =>
    dsimp only
    rcases Connect.connectBlocking (journey.attempt bind) candidates with ⟨_ | _, tried⟩
    · cases journey.register with
      | error e => exact .nobody rfl
      | ok => exact engine.enters_establish journey id request
    · exact .nobody rfl

end Engine

/-- Whatever comes of a request, its connection is counted if there is one. -/
theorem Manager.enters_createConnection (m : Manager) (journey : Journey) (id : ConnectionId)
    (request : Connect.Request) :
    EntersStream (m.createConnection journey id request).1.passage.driver
      (m.createConnection journey id request).1.notes := by
  unfold createConnection
  cases m.engine with
  | none => exact .nobody rfl
  | some engine =>
    dsimp only
    cases bindEndpoint request.bindIp request.bindPort with
    | error e => exact .nobody rfl
    | ok bind =>
      dsimp only
      split
      · exact .nobody rfl
      · rename_i eventLoop pool hnext
        cases request.sync with
        | true =>
          simp only [if_true, LoopPool.runOn]
          cases pool.isStopped eventLoop with
          | true => exact .nobody rfl
          | false => exact engine.enters_attend journey id request bind
        | false =>
          simp only [Bool.false_eq_true, if_false, LoopPool.runOn]
          cases pool.isStopped eventLoop with
          | true => exact .nobody rfl
          | false => exact engine.enters_connect journey id request bind

/-! ### Accepted connections -/

/-- What an accepted connection counts for: nothing before it has a driver. -/
def Arrival.census (a : Arrival) : Account → Int :=
  match a.stage with
  | .driven d => d.census
  | _ => fun _ => 0

namespace Gate

variable {g : Gate} {n : Nat}

/-- What a gate counts for. -/
def census (g : Gate) : Account → Int := Account.totalOf Arrival.census g.arrivals

/-- What has to hold of a gate that keeps its accounts. -/
structure Kept (g : Gate) : Prop where
  /-- Its parts go together. -/
  sound : ∃ limit, g.Sound limit
  /-- Its drivers were started. -/
  started : ∀ {n port loop d}, g.arrivals.get? n = some ⟨port, loop, .driven d⟩ → d.Coherent

/-- A gate starts with nobody in it. -/
lemma kept_start (engine : Engine) (limit : Nat) : (start engine limit).Kept where
  sound := ⟨limit, sound_start engine limit⟩
  started harrival := by cases harrival

/-- A gate goes on as it should. -/
lemma Kept.step (h : g.Kept) (e : Event) : (g.step e).1.Kept := by
  obtain ⟨limit, hsound⟩ := h.sound
  refine ⟨⟨limit, hsound.step e⟩, ?_⟩
  have hmove := g.move_step e
  generalize g.step e = r at hmove
  cases hmove with
  | letIn i l listener stage loop detached place early =>
    intro n port loop' d harrival
    rw [get?_enter] at harrival
    split at harrival
    · cases harrival
      rcases early with hplace | hplace <;> cases hplace
    · exact h.started harrival
  | visit e n a next notes about arrival goes =>
    intro m port loop d harrival
    rw [get?_settle] at harrival
    split at harrival
    · rw [harrival] at goes
      cases goes with
      | announced port loop d notes coherent => exact coherent
      | driven port loop d e phase => exact TcpDriver.coherent_step (h.started arrival) e
    · exact h.started harrival
  | _ =>
    intro n port loop d harrival
    exact h.started harrival

/-- One connection of a gate keeps its accounts, and so does the gate. -/
lemma Kept.booked_settle (h : g.Kept) {a : Arrival} (arrival : g.arrivals.get? n = some a)
    (next : Option Arrival) {notes : List Note}
    (booked : Booked a.census (Account.optional Arrival.census next) notes) :
    Booked g.census (g.settle n next).census notes := by
  obtain ⟨limit, hsound⟩ := h.sound
  refine ⟨fun k => ?_, booked.first⟩
  have hbalanced := booked.balanced k
  cases next with
  | some a' =>
    have hput := Account.totalOf_put Arrival.census arrival a' k
    simp only [Account.optional] at hbalanced
    change Account.totalOf Arrival.census (g.arrivals.put n a') k = _
    rw [hput, hbalanced, census]
    omega
  | none =>
    have herase := Account.totalOf_erase Arrival.census hsound.arrivals arrival k
    simp only [Account.optional] at hbalanced
    change Account.totalOf Arrival.census (g.arrivals.erase n) k = _
    rw [herase, census]
    omega

/-- Something happens to a driver, also if it is its end. -/
lemma Kept.booked_drive (h : g.Kept) (n : Nat) (f : TcpDriver.Event) :
    Booked g.census (g.drive n f).1.census (g.drive n f).2 := by
  unfold drive
  split
  · rename_i port loop d arrival
    have hbooked := TcpDriver.booked_step (h.started arrival).started f
    dsimp only
    split
    · rename_i hdone
      refine h.booked_settle arrival none (hbooked.congr_after fun k => ?_)
      cases k <;> simp [Account.optional, TcpDriver.census, hdone, TcpPhase.isOver]
    · exact h.booked_settle arrival (some ⟨port, loop, .driven (d.step f).1⟩) hbooked
  · exact .ofNeutral (fun _ => rfl) rfl

/-- A connection is given a driver, or is lost uncounted. -/
lemma Kept.booked_openArrival (h : g.Kept) (n : Nat) (id : ConnectionId)
    (handshake : Except SystemError Unit) (ends : Except SystemError (Endpoint × Endpoint)) :
    Booked g.census (g.openArrival n id handshake ends).1.census
      (g.openArrival n id handshake ends).2 := by
  unfold openArrival
  split
  · rename_i port loop arrival
    have hlost {notes : List Note} (hnotes : notes.all Note.isNeutral = true) :
        Booked g.census (g.forget n).census notes :=
      h.booked_settle arrival none (.ofNeutral (fun _ => rfl) hnotes)
    have hgo {encrypted : Bool} {r : Noted (Option TcpDriver)}
        (hr : g.engine.runConnection id .anonymous encrypted ends (.accepted port) = r) :
        Booked g.census
          (g.settle n (r.1.map fun d => ⟨port, loop, .driven d⟩)).census r.2 := by
      have henters := g.engine.enters_runConnection id .anonymous encrypted ends (.accepted port)
      rw [hr] at henters
      refine h.booked_settle arrival _ (henters.booked.congr_after fun k => ?_)
      cases r.1 <;> rfl
    cases hacceptor : g.engine.acceptor with
    | none =>
      dsimp only
      split <;> exact hgo ‹_›
    | some material =>
      cases handshake with
      | ok =>
        dsimp only
        split <;> exact hgo ‹_›
      | error e => exact hlost rfl
  · exact .ofNeutral (fun _ => rfl) rfl

/-- Whatever happens at a gate, its accounts are kept. -/
theorem Kept.booked_step (h : g.Kept) (e : Event) :
    Booked g.census (g.step e).1.census (g.step e).2 := by
  cases hvisit : e.arrival? with
  | none =>
    have hmove := g.move_step e
    generalize g.step e = r at hmove
    cases hmove with
    | letIn i l listener stage loop detached place early =>
      obtain ⟨limit, hsound⟩ := h.sound
      refine .ofNeutral (fun k => ?_) rfl
      have hnew : g.arrivals.get? g.nextArrival = none := by
        by_contra hsome
        exact (hsound.numbered _ (Table.mem_keys_iff.mpr hsome)).false
      have hput := Account.totalOf_put_new Arrival.census hnew ⟨l.port, loop, place⟩ k
      have hzero : Arrival.census ⟨l.port, loop, place⟩ k = 0 := by
        rcases early with rfl | rfl <;> rfl
      exact hput.trans (by rw [hzero, Int.add_zero]; rfl)
    | visit e n a next notes about => exact absurd (hvisit.symm.trans about) (by simp)
    | _ => exact .ofNeutral (fun _ => rfl) rfl
  | some n =>
    cases e with
    | openArrival n id handshake ends => exact h.booked_openArrival n id handshake ends
    | drive n f => exact h.booked_drive n f
    | arrive n registered =>
      simp only [Gate.step, arrive]
      split
      · rename_i port loop arrival
        split
        · exact h.booked_settle arrival (some ⟨port, loop, .preparing⟩)
            (.ofNeutral (fun _ => rfl) rfl)
        · exact h.booked_settle arrival none (.ofNeutral (fun _ => rfl) rfl)
      · exact .ofNeutral (fun _ => rfl) rfl
    | dropArrival n =>
      simp only [Gate.step, dropArrival]
      split
      · exact .ofNeutral (fun _ => rfl) rfl
      · exact h.booked_drive n .abort
      · rename_i a hdriven arrival
        refine h.booked_settle arrival none (.ofNeutral (fun k => ?_) rfl)
        obtain ⟨port, loop, _ | _ | d⟩ := a
        · rfl
        · rfl
        · exact absurd rfl (hdriven port loop d)
    | _ => cases hvisit

end Gate

end Tcp

end Switchboard
