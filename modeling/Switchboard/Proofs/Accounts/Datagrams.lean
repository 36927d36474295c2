import Switchboard.Proofs.Accounts.Books
import Switchboard.Proofs.Udp.Active
import Switchboard.Proofs.Udp.Stopping
import Switchboard.Udp.Manager

/-!
# Accounts of datagram connections

An acceptor counts a connection as long as its endpoint is registered, and while the service is told
of its end.  It opens and closes connections over and over, also for the same endpoint, and keeps
the accounts in step with its table whatever happens, up to its own end (`Acceptor.booked_step`).
That it leaves nobody behind needs `Acceptor.Sound`: a task which ends was not stopped before.

The driver of an outbound connection is counted from its start until the service has taken note of
its end (`UdpDriver.booked_step`).
-/

namespace Switchboard

/-! ### Drivers -/

namespace UdpDriver

variable {d d' : UdpDriver}

/-- What a driver counts for. -/
def census (d : UdpDriver) : Account → Int
  | .live => if d.phase = .done then 0 else 1
  | .running c => if c = .udp ∧ d.phase.isOver = false then 1 else 0
  | .peers => 0

/-- Until the end is announced a driver counts for the same. -/
lemma census_of_running (hbefore : d.phase.isOver = false) (hafter : d'.phase.isOver = false)
    (k : Account) : d'.census k = d.census k := by
  have hdone {p : UdpPhase} (hp : p.isOver = false) : p ≠ .done := by
    rintro rfl
    cases hp
  cases k with
  | live => simp only [census, hdone hbefore, hdone hafter, if_false]
  | running c => simp only [census, hbefore, hafter]
  | peers => rfl

/-- The end of a connection is announced and booked at once; its driver stays. -/
lemma booked_leave (hrunning : d.phase.isOver = false) :
    Booked d.census d.leave.1.census d.leave.2 := by
  have hnot : d.phase ≠ .done := by
    intro hdone
    rw [hdone] at hrunning
    cases hrunning
  have hover : UdpPhase.closing.isOver = true := rfl
  refine ⟨fun k => ?_, by simp [leave, finish, Note.change]⟩
  cases k with
  | live => simp [census, leave, finish, Note.change, hnot]
  | running c => cases c <;> simp [census, leave, finish, Note.change, hrunning, hover]
  | peers => simp [census, leave, finish, Note.change]

/-- Whatever happens to a started driver, its accounts are kept. -/
theorem booked_step (hstarted : d.phase ≠ .fresh) (e : Event) :
    Booked d.census (d.step e).1.census (d.step e).2 := by
  have hmove := d.move_step e
  generalize d.step e = r at hmove
  have hsame {d' : UdpDriver} (hphase : d'.phase = d.phase) (k : Account) :
      d'.census k = d.census k := by
    cases k <;> simp only [census, hphase]
  have hover {p : UdpPhase} (phase : d.phase = p) (hp : p.isOver = false) :
      d.phase.isOver = false := by rw [phase, hp]
  cases hmove with
  | stay | post | postClose | enqueue | sendOne | remove => exact .ofNeutral (hsame rfl) rfl
  | announce phase | discard phase => exact absurd phase hstarted
  | tell datagram phase => exact .ofNeutral (census_of_running (hover phase rfl) rfl) rfl
  | sendLast data phase => exact .ofNeutral (census_of_running (hover phase rfl) rfl) rfl
  | keep phase =>
    have hbefore : d.phase.isOver = false := by
      rcases phase with phase | phase | phase <;> exact hover phase rfl
    exact .ofNeutral (census_of_running hbefore rfl) rfl
  | leave e d' why =>
    have hphase : d'.phase = d.phase := by cases why <;> rfl
    exact (booked_leave (hphase ▸ why.running.1)).congr_before (hsame hphase)
  | part keep phase =>
    refine ⟨fun k => ?_, by simp⟩
    cases k <;> simp [census, Note.change, phase, UdpPhase.isOver]

end UdpDriver

/-! ### Acceptors -/

/-- Whether the service is told of the end of a connection. -/
def AcceptorPhase.isClosing : AcceptorPhase → Bool
  | closing _ => true
  | _ => false

namespace Table

variable {κ α : Type} [DecidableEq κ] {t : Table κ α} {k : κ}

/-- A value in the place of another one is no further value. -/
lemma length_put {a : α} (ha : t.get? k = some a) (a' : α) : (t.put k a').length = t.length := by
  have hmem : k ∈ t.keys := mem_keys_iff.mpr (by simp [ha])
  have hkeys := congrArg List.length (keys_put t k a')
  rwa [if_pos hmem, keys, keys, List.length_map, List.length_map] at hkeys

/-- A new key is one more. -/
lemma length_put_new (hnew : t.get? k = none) (a : α) : (t.put k a).length = t.length + 1 := by
  have hmem : k ∉ t.keys := fun hmem => mem_keys_iff.mp hmem hnew
  have hkeys := congrArg List.length (keys_put t k a)
  rwa [if_neg hmem, List.length_append, keys, keys, List.length_map, List.length_map] at hkeys

/-- A key that is removed is one less. -/
lemma length_erase (hdistinct : t.keys.Nodup) {a : α} (ha : t.get? k = some a) :
    (t.erase k).length + 1 = t.length := by
  have hmem : k ∈ t.keys := mem_keys_iff.mpr (by simp [ha])
  have hkeys : (t.erase k).keys = t.keys.erase k := by
    rw [keys_erase, hdistinct.erase_eq_filter]
    exact List.filter_congr fun k' _ => decide_not
  have hlength := congrArg List.length hkeys
  have hpos := List.length_pos_of_mem hmem
  rw [List.length_erase_of_mem hmem] at hlength
  simp only [keys, List.length_map] at hlength hpos
  omega

end Table

namespace Acceptor

variable {a a' : Acceptor}

/-- What an acceptor counts for. -/
def census (a : Acceptor) : Account → Int
  | .live => a.peers.length + if a.phase.isClosing then 1 else 0
  | .running c => if c = .udp then a.peers.length else 0
  | .peers => a.peers.length

/-- While as many endpoints are registered and no end is told of an acceptor counts for the same. -/
lemma census_of_same (hlength : a'.peers.length = a.peers.length)
    (hphase : a'.phase.isClosing = a.phase.isClosing) (k : Account) : a'.census k = a.census k := by
  cases k <;> simp only [census, hlength, hphase]

/-- A connection that is ended is off the table while the service is told of it. -/
lemma booked_dismissed (hbefore : a.phase.isClosing = false)
    (hlength : a'.peers.length + 1 = a.peers.length) (hafter : a'.phase.isClosing = true)
    (id : ConnectionId) : Booked a.census a'.census (farewell id) := by
  refine ⟨fun k => ?_, by simp [farewell, Note.change]⟩
  cases k with
  | live =>
    simp [census, farewell, Note.change, hbefore, hafter]
    omega
  | running c =>
    cases c <;> simp [census, farewell, Note.change]
    omega
  | peers =>
    simp [census, farewell, Note.change]
    omega

/-- An acceptor that ends its connections ends one, or has none left. -/
lemma booked_closing {a₀ : Acceptor} {peers : List Endpoint} {r : Noted Acceptor}
    (closing : Closing a₀ peers r) (hdistinct : a₀.peers.keys.Nodup) (hphase : a₀.phase = .idle) :
    Booked a₀.census r.1.census r.2 ∧ ∀ n ∈ r.2, n.change .live = 0 := by
  have hidle : a₀.phase.isClosing = false := by rw [hphase]; rfl
  cases closing with
  | next skipped peer rest p gone registered =>
    have hlength := Table.length_erase hdistinct registered
    exact ⟨booked_dismissed hidle hlength rfl p.id, by simp [farewell, Note.change]⟩
  | finished _ gone =>
    exact ⟨.ofNeutral (census_of_same rfl (by rw [hidle]; rfl)) rfl, by simp⟩

/-- Once the service has taken note of an end the connection is counted no more, whatever comes
next. -/
lemma booked_parted (hclosing : a.phase.isClosing = true) {after : Account → Int}
    {notes : List Note}
    (hnext : Booked ({ a with phase := .idle } : Acceptor).census after notes)
    (hlive : ∀ n ∈ notes, n.change .live = 0) :
    Booked a.census after (.tracked (-1) :: notes) := by
  refine ⟨fun k => ?_, hlive⟩
  have hidle : AcceptorPhase.idle.isClosing = false := rfl
  rw [hnext.balanced k, Note.balance_cons]
  cases k <;> simp [census, Note.change, hclosing, hidle]

/-- Whatever happens to an acceptor, its accounts are kept. -/
theorem booked_step (h : a.Sound) (o : a.Orderly) (e : Event) :
    Booked a.census (a.step e).1.census (a.step e).2 := by
  have hmove := a.move_step e
  generalize a.step e = r at hmove
  have hidle (waits : a.waits = true) : a.phase.isClosing = false := by
    rw [(idle_of_waits waits).1]
    rfl
  have hput {peer : Endpoint} {p : Peer} (registered : a.peers.get? peer = some p) (p' : Peer) :
      (a.peers.put peer p').length = a.peers.length := Table.length_put registered p'
  have herase {peer : Endpoint} {p : Peer} (registered : a.peers.get? peer = some p) :
      (a.peers.erase peer).length + 1 = a.peers.length := Table.length_erase o.distinct registered
  cases hmove with
  | stay | post | postClose | postStop | ignoreSend | ignoreClose | sendStale | loseStale =>
    exact .ofNeutral (census_of_same rfl rfl) rfl
  | enqueue peer data rest p waits posted registered =>
    exact .ofNeutral (census_of_same (hput registered _) rfl) rfl
  | obey peer rest p waits posted registered =>
    exact booked_dismissed (hidle waits) (herase registered) rfl p.id
  | tell peer datagram p waits unasked registered =>
    exact .ofNeutral (census_of_same (hput registered _) (hidle waits).symm) rfl
  | meet peer datagram waits unasked unknown =>
    have hlength : (a.met peer (datagram.take a.maxDatagram)).peers.length = a.peers.length + 1 :=
      Table.length_put_new unknown _
    have hafter : (a.met peer (datagram.take a.maxDatagram)).phase.isClosing = false := rfl
    refine ⟨fun k => ?_, by simp [Note.change]⟩
    cases k with
    | live => simp [census, Note.change, hlength, hafter, hidle waits]
    | running c => cases c <;> simp [census, Note.change, hlength]
    | peers => simp [census, Note.change, hlength]
  | report e waits => exact .ofNeutral (census_of_same rfl (hidle waits).symm) rfl
  | sendLast out p waits unasked front registered =>
    exact .ofNeutral (census_of_same (hput registered _) (hidle waits).symm) rfl
  | sendOne out p waits unasked front registered =>
    exact .ofNeutral (census_of_same (hput registered _) rfl) rfl
  | lose source out p waits unasked front registered =>
    have hbooked : Booked a.census
        (({ a with queue := a.queue.pop } : Acceptor).dismissed out.peer p none).census
        (farewell p.id) := booked_dismissed (hidle waits) (herase registered) rfl p.id
    exact hbooked.consNeutral rfl (by simp [farewell, Note.change])
  | welcome peer datagram p phase registered =>
    exact .ofNeutral (census_of_same (hput registered _) (by rw [phase]; rfl)) rfl
  | refuse peer p phase registered =>
    have hbefore : a.phase.isClosing = false := by
      rcases phase with ⟨datagram, phase⟩ | phase | phase <;> rw [phase] <;> rfl
    exact booked_dismissed hbefore (herase registered) rfl p.id
  | keep peer phase =>
    refine .ofNeutral (census_of_same rfl ?_) rfl
    rcases phase with phase | phase <;> rw [phase] <;> rfl
  | part keep phase =>
    have hclosing : a.phase.isClosing = true := by rw [phase]; rfl
    exact booked_parted hclosing (.ofNeutral (fun _ => rfl) rfl) (by simp)
  | goOn keep rest r phase closing =>
    have hclosing : a.phase.isClosing = true := by rw [phase]; rfl
    obtain ⟨hbooked, hlive⟩ := booked_closing closing o.distinct rfl
    exact booked_parted hclosing hbooked hlive
  | recover keep phase => exact .ofNeutral (census_of_same rfl (by rw [phase]; rfl)) rfl
  | quit e mailbox r why first closing =>
    have hbefore : a.phase.isClosing = false := by
      cases why with
      | asked rest waits => exact hidle waits
      | dropped waits => exact hidle waits
      | failed keep phase => rw [phase]; rfl
    obtain ⟨hbooked, hlive⟩ := booked_closing closing o.distinct rfl
    have hidle : AcceptorPhase.idle.isClosing = a.phase.isClosing := hbefore.symm
    have hstop : Booked a.census r.1.census r.2 :=
      hbooked.congr_before (census_of_same rfl hidle)
    exact hstop.consNeutral rfl hlive
  | vanish e mailbox why again => exact absurd (h.first why) (by simp [again])
  | remove e peer p datagram rest phase registered =>
    exact .ofNeutral (census_of_same (hput registered _) rfl) rfl

end Acceptor

/-! ### Outbound connections -/

namespace Udp

/-- What is noted where an active datagram connection may come in. -/
abbrev EntersDatagram : Option UdpDriver → List Note → Prop :=
  Enters UdpDriver.census UdpDriver.Coherent

namespace Engine

/-- A driver is counted and announced in the same step. -/
lemma enters_runConnection (engine : Engine) (journey : Journey) (id : ConnectionId)
    (identity : Identity) :
    EntersDatagram (engine.runConnection journey id identity).1
      (engine.runConnection journey id identity).2 := by
  unfold runConnection
  split
  · constructor
    case booked =>
      refine ⟨fun k => ?_, by simp [UdpDriver.start, Note.change]⟩
      have hover : UdpPhase.opening.isOver = false := rfl
      cases k with
      | live => simp [Account.optional, UdpDriver.start, UdpDriver.census, Note.change]
      | running c =>
        cases c <;> simp [Account.optional, UdpDriver.start, UdpDriver.census, Note.change, hover]
      | peers => simp [Account.optional, UdpDriver.start, UdpDriver.census, Note.change]
    case proper =>
      rintro d ⟨⟩
      exact ⟨by simp, rfl⟩
  · exact .nobody rfl

lemma enters_connect (engine : Engine) (journey : Journey) (id : ConnectionId)
    (request : Connect.Request) (bind : Option Endpoint) :
    EntersDatagram (engine.connect journey id request bind).1.driver
      (engine.connect journey id request bind).2 := by
  unfold connect
  cases journey.resolver request.host request.service with
  | error e => exact .nobody rfl
  | ok candidates =>
    dsimp only
    rcases Connect.connectStepwise (journey.tryCandidate bind) candidates with ⟨_ | _, tried⟩
    · exact engine.enters_runConnection journey id request.identity
    · exact .nobody rfl

lemma enters_attend (engine : Engine) (journey : Journey) (id : ConnectionId)
    (request : Connect.Request) (bind : Option Endpoint) :
    EntersDatagram (engine.attend journey id request bind).2.1.driver
      (engine.attend journey id request bind).2.2 := by
  unfold attend
  cases journey.resolver request.host request.service with
  | error e => exact .nobody rfl
  | ok candidates =>
    dsimp only
    rcases Connect.connectBlocking (journey.tryCandidate bind) candidates with ⟨_ | _, tried⟩
    · cases journey.register with
      | error e => exact .nobody rfl
      | ok => exact engine.enters_runConnection journey id request.identity
    · exact .nobody rfl

end Engine

/-- Whatever comes of a request, its connection is counted if there is one. -/
theorem Manager.enters_createConnection (m : Manager) (journey : Journey) (id : ConnectionId)
    (request : Connect.Request) :
    EntersDatagram (m.createConnection journey id request).1.passage.driver
      (m.createConnection journey id request).1.notes := by
  unfold createConnection
  cases m.engine with
  | none => exact .nobody rfl
  | some engine =>
    dsimp only
    cases bindEndpoint request.bindIp request.bindPort with
    | error e => exact .nobody rfl
    | ok bind =>
      dsimp only
      split
      · exact .nobody rfl
      · rename_i eventLoop pool hnext
        cases request.sync with
        | true =>
          simp only [if_true, LoopPool.runOn]
          cases pool.isStopped eventLoop with
          | true => exact .nobody rfl
          | false => exact engine.enters_attend journey id request bind
        | false =>
          simp only [Bool.false_eq_true, if_false, LoopPool.runOn]
          cases pool.isStopped eventLoop with
          | true => exact .nobody rfl
          | false => exact engine.enters_connect journey id request bind

end Udp

end Switchboard
