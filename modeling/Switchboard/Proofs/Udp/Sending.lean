import Switchboard.Proofs.Udp.Active
import Switchboard.Proofs.Udp.Counting

/-!
# What datagram connections send

An acceptor sends the datagrams of all its connections through one queue.  A posted datagram joins
the queue if its connection is the registered one of its endpoint by then (`Acceptor.admitted?`),
and the front of the queue is handed to the socket, which takes it or fails to
(`Acceptor.handed?`).  A step does at most one of the two, and until the acceptor stops it loses
nothing in between (`Acceptor.Conveys`).  So what was handed over and what is queued are together
what was admitted, whoever comes, goes or fails meanwhile.

The driver of an active connection has a queue of its own.  What its handles were granted is in the
mailbox, in the queue or with the socket as long as the connection is not over
(`UdpDriver.conveys_step`).
-/

namespace Switchboard

namespace Note

/-- The datagrams that were handed to the network, with the connections they were sent for: those it
took over and those it failed to. -/
def handedOver (history : List Note) : List (ConnectionId × Bytes) :=
  history.filterMap fun
    | left id data | lost id data => some (id, data)
    | _ => none

@[simp] lemma handedOver_nil : handedOver [] = [] := rfl

@[simp] lemma handedOver_append (h k : List Note) :
    handedOver (h ++ k) = handedOver h ++ handedOver k := by
  simp [handedOver]

end Note

/-! ### Acceptors -/

namespace Acceptor

variable {a : Acceptor}

/-- The datagram of a request that is taken up on behalf of the registered connection of its
endpoint. -/
def admitted? (a : Acceptor) : Event → Option Outgoing
  | .command =>
    match a.mailbox.posted with
    | .send peer id data :: _ =>
      if a.waits && a.idOf? peer = some id then some ⟨peer, id, data⟩ else none
    | _ => none
  | _ => none

/-- The datagram that is handed to the socket, whatever comes of it. -/
def handed? (a : Acceptor) : Event → Option Outgoing
  | .sendDone _ => if a.waits && a.mailbox.posted.isEmpty then a.queue.front? else none
  | _ => none

/-- The datagrams that are admitted in a run, in order. -/
def admitted (a : Acceptor) (es : List Event) : List Outgoing := Noted.gather step admitted? a es

/-- The datagrams that are handed to the socket in a run, in order. -/
def handed (a : Acceptor) (es : List Event) : List Outgoing := Noted.gather step handed? a es

lemma admitted_concat (a : Acceptor) (es : List Event) (e : Event) :
    a.admitted (es ++ [e]) = a.admitted es ++ ((a.run es).1.admitted? e).toList := by
  rw [run_eq_iterate]
  exact Noted.gather_concat step admitted? a es e

lemma handed_concat (a : Acceptor) (es : List Event) (e : Event) :
    a.handed (es ++ [e]) = a.handed es ++ ((a.run es).1.handed? e).toList := by
  rw [run_eq_iterate]
  exact Noted.gather_concat step handed? a es e

lemma admitted?_eq_some_iff {e : Event} {out : Outgoing} :
    a.admitted? e = some out ↔ e = .command ∧ a.waits = true ∧ a.idOf? out.peer = some out.id ∧
      ∃ rest, a.mailbox.posted = .send out.peer out.id out.data :: rest := by
  unfold admitted?
  split
  · split
    · rename_i peer id data rest posted
      rw [posted]
      simp only [Bool.and_eq_true, decide_eq_true_eq, Option.ite_none_right_eq_some, true_and,
        Option.some.injEq, List.cons.injEq, AcceptorCommand.send.injEq]
      constructor
      · rintro ⟨⟨waits, same⟩, rfl⟩
        exact ⟨waits, same, rest, ⟨rfl, rfl, rfl⟩, rfl⟩
      · rintro ⟨waits, same, -, ⟨rfl, rfl, rfl⟩, -⟩
        exact ⟨⟨waits, same⟩, rfl⟩
    · rename_i hother
      simp only [reduceCtorEq, false_iff]
      rintro ⟨-, -, -, rest, posted⟩
      exact hother _ _ _ _ posted
  · rename_i hother
    simp only [reduceCtorEq, false_iff]
    exact fun hall => hother hall.1

lemma handed?_eq_some_iff {e : Event} {out : Outgoing} :
    a.handed? e = some out ↔ (∃ outcome, e = .sendDone outcome) ∧ a.waits = true ∧
      a.mailbox.posted = [] ∧ a.queue.front? = some out := by
  unfold handed?
  split
  · simp [and_assoc]
  · rename_i hother
    simp only [reduceCtorEq, false_iff]
    rintro ⟨⟨outcome, rfl⟩, -⟩
    exact hother outcome rfl

/-- What a step does about datagrams that are to be sent. -/
structure Conveys (a : Acceptor) (e : Event) (r : Noted Acceptor) : Prop where
  /-- Until the acceptor stops no datagram gets lost between the mailbox and the socket. -/
  balanced : r.1.stopped = false →
    a.queue.entries ++ (a.admitted? e).toList = (a.handed? e).toList ++ r.1.queue.entries
  /-- What is handed over is noted. -/
  noted : Note.handedOver r.2 = (a.handed? e).toList.map fun out => (out.id, out.data)
  /-- An acceptor that stops or has stopped moves no datagram. -/
  halted : r.1.stopped = true → a.admitted? e = none ∧ a.handed? e = none
  /-- An acceptor that has stopped does not start again. -/
  stays : a.stopped = true → r.1.stopped = true

/-- An acceptor that waits has not been stopped. -/
lemma Sound.running_of_waits (h : a.Sound) (waits : a.waits = true) : a.stopped = false := by
  rw [Bool.eq_false_iff]
  exact fun hstopped => h.halted.mp hstopped (idle_of_waits waits).2

/-- A datagram that is admitted joins the queue. -/
lemma conveys_of_admitted (h : a.Sound) {e : Event} {out : Outgoing}
    (admitted : a.admitted? e = some out) : a.Conveys e (a.step e) := by
  obtain ⟨rfl, waits, same, rest, posted⟩ := admitted?_eq_some_iff.mp admitted
  obtain ⟨p, registered, hid⟩ := Option.map_eq_some_iff.mp same
  have hrunning := h.running_of_waits waits
  have hstep : a.step .command = ({ a with
      mailbox := { a.mailbox with posted := rest }
      peers := a.peers.put out.peer { p with pending := p.pending + 1 }
      queue := a.queue.push out }, [.queued out.id out.data]) := by
    simp [step, waits, takeCommand, Mailbox.take?, posted, enqueue, registered, hid]
  rw [hstep]
  constructor
  case balanced => exact fun _ => by rw [admitted]; rfl
  case noted => rfl
  case halted => exact fun hstopped => absurd (hrunning.symm.trans hstopped) Bool.false_ne_true
  case stays => exact fun hstopped => hstopped

/-- A datagram that is handed over leaves the queue, whatever comes of it. -/
lemma step_of_handed {e : Event} {out : Outgoing} (handed : a.handed? e = some out) :
    (a.step e).1.queue = a.queue.pop ∧ (a.step e).1.stopped = a.stopped ∧
      Note.handedOver (a.step e).2 = [(out.id, out.data)] := by
  obtain ⟨⟨outcome, rfl⟩, waits, unasked, front⟩ := handed?_eq_some_iff.mp handed
  have hstep : a.step (.sendDone outcome) = a.sent outcome := by simp [step, waits, unasked]
  rw [hstep]
  unfold sent
  simp only [front]
  cases outcome with
  | ok =>
    dsimp only
    split
    · exact ⟨rfl, rfl, rfl⟩
    · split
      · split <;> exact ⟨rfl, rfl, rfl⟩
      · exact ⟨rfl, rfl, rfl⟩
  | error source =>
    simp only [Noted.andThen]
    split
    · rename_i same
      obtain ⟨p, registered, -⟩ := Option.map_eq_some_iff.mp same
      rw [remove_of_registered registered]
      exact ⟨rfl, rfl, rfl⟩
    · exact ⟨rfl, rfl, rfl⟩

lemma conveys_of_handed (h : a.Sound) {e : Event} {out : Outgoing}
    (handed : a.handed? e = some out) : a.Conveys e (a.step e) := by
  obtain ⟨hqueue, hstopped, hnotes⟩ := step_of_handed handed
  obtain ⟨⟨outcome, rfl⟩, waits, -, front⟩ := handed?_eq_some_iff.mp handed
  have hnone : a.admitted? (.sendDone outcome) = none := rfl
  have hrunning := h.running_of_waits waits
  have hentries : a.queue.entries = out :: a.queue.entries.tail := (List.cons_head?_tail front).symm
  constructor
  case balanced =>
    intro _
    rw [hnone, handed, hqueue, SendQueue.entries_pop, Option.toList_none, List.append_nil]
    exact hentries
  case noted => rw [hnotes, handed]; rfl
  case halted =>
    intro hlast
    rw [hstopped, hrunning] at hlast
    cases hlast
  case stays => exact fun hbefore => hstopped.trans hbefore

/-- Any other step leaves the queue alone, unless the acceptor stops or has stopped. -/
lemma conveys_of_neither (h : a.Sound) (o : a.Orderly) {e : Event} (admitted : a.admitted? e = none)
    (handed : a.handed? e = none) : a.Conveys e (a.step e) := by
  have hsame {r : Noted Acceptor} (hqueue : r.1.queue = a.queue)
      (hstopped : r.1.stopped = a.stopped) (hnotes : Note.handedOver r.2 = []) :
      a.Conveys e r := by
    constructor
    case balanced => exact fun _ => by rw [admitted, handed, hqueue]; simp
    case noted => rw [hnotes, handed]; rfl
    case halted => exact fun _ => ⟨admitted, handed⟩
    case stays => exact fun hbefore => hstopped.trans hbefore
  have hhalt {a₀ : Acceptor} {peers : List Endpoint} {r : Noted Acceptor} {n : Note}
      (closing : Closing a₀ peers r) (hstopped : a₀.stopped = true)
      (hnote : Note.handedOver [n] = []) : a.Conveys e (r.1, n :: r.2) := by
    have hlast : r.1.stopped = true ∧ Note.handedOver r.2 = [] := by
      cases closing with
      | next => exact ⟨hstopped, rfl⟩
      | finished => exact ⟨hstopped, rfl⟩
    constructor
    case balanced => exact fun hno => absurd (hno.symm.trans hlast.1) Bool.false_ne_true
    case noted =>
      rw [handed, ← List.singleton_append, Note.handedOver_append, hnote, hlast.2]
      rfl
    case halted => exact fun _ => ⟨admitted, handed⟩
    case stays => exact fun _ => hlast.1
  have hsend {out : Outgoing} (waits : a.waits = true) (unasked : a.mailbox.posted = [])
      (front : a.queue.front? = some out) (he : ∃ outcome, e = .sendDone outcome) : False := by
    rw [handed?_eq_some_iff.mpr ⟨he, waits, unasked, front⟩] at handed
    cases handed
  have hmove := a.move_step e
  generalize a.step e = r at hmove
  cases hmove with
  | enqueue peer data rest p waits posted registered =>
    have hid : a.idOf? peer = some p.id := by simp [idOf?, registered]
    have hout : a.admitted? .command = some ⟨peer, p.id, data⟩ :=
      admitted?_eq_some_iff.mpr ⟨rfl, waits, hid, rest, posted⟩
    rw [hout] at admitted
    cases admitted
  | sendLast out p waits unasked front => exact (hsend waits unasked front ⟨_, rfl⟩).elim
  | sendOne out p waits unasked front => exact (hsend waits unasked front ⟨_, rfl⟩).elim
  | sendStale out waits unasked front => exact (hsend waits unasked front ⟨_, rfl⟩).elim
  | lose source out p waits unasked front => exact (hsend waits unasked front ⟨_, rfl⟩).elim
  | loseStale source out waits unasked front => exact (hsend waits unasked front ⟨_, rfl⟩).elim
  | goOn keep rest r phase closing =>
    have hstopped : a.stopped = true := by
      rw [h.halted, o.ending.mpr ⟨rest, phase⟩]
      simp
    exact hhalt closing hstopped rfl
  | quit e mailbox r why first closing => exact hhalt closing rfl rfl
  | vanish e mailbox why again => simp [h.first why] at again
  | _ => exact hsame rfl rfl rfl

/-- Every step conveys datagrams so. -/
lemma conveys_step (h : a.Sound) (o : a.Orderly) (e : Event) : a.Conveys e (a.step e) := by
  cases admitted : a.admitted? e with
  | some out => exact conveys_of_admitted h admitted
  | none =>
    cases handed : a.handed? e with
    | some out => exact conveys_of_handed h handed
    | none => exact conveys_of_neither h o admitted handed

lemma Conveys.running {e : Event} {r : Noted Acceptor} (conveys : a.Conveys e r)
    (hrunning : r.1.stopped = false) : a.stopped = false :=
  Bool.eq_false_iff.mpr fun hstopped => Bool.eq_false_iff.mp hrunning (conveys.stays hstopped)

/-! #### Whole runs -/

/-- An acceptor that has stopped hands nothing over any more. -/
lemma handed_of_stopped (k : a.Kept) (hstopped : a.stopped = true) (es : List Event) :
    a.handed es = [] := by
  induction es generalizing a with
  | nil => rfl
  | cons e es ih =>
    have hstep := conveys_step k.sound k.orderly e
    have hstays := hstep.stays hstopped
    rw [handed, Noted.gather, (hstep.halted hstays).2]
    exact ih (k.step e) hstays

/-- What was handed over is the front part of what was admitted, and until the acceptor stops the
rest of it is queued. -/
theorem conveyed_run (host : Endpoint) (maxDatagram : Nat) (nextId : ConnectionId)
    (es : List Event) :
    let start := bind host maxDatagram nextId
    start.handed es <+: start.admitted es ∧
      ((start.run es).1.stopped = false →
        start.admitted es = start.handed es ++ (start.run es).1.queue.entries) := by
  intro start
  induction es using List.reverseRecOn with
  | nil => exact ⟨List.prefix_rfl, fun _ => rfl⟩
  | append_singleton es e ih =>
    obtain ⟨hpart, hwhole⟩ := ih
    have hkept : (start.run es).1.Kept := kept_run host maxDatagram nextId es
    have hstep := conveys_step hkept.sound hkept.orderly e
    rw [run_concat, admitted_concat, handed_concat]
    have hgoes : ((start.run es).1.step e).1.stopped = false →
        start.admitted es ++ ((start.run es).1.admitted? e).toList =
          start.handed es ++ ((start.run es).1.handed? e).toList ++
            ((start.run es).1.step e).1.queue.entries := fun hrunning => by
      rw [hwhole (hstep.running hrunning), List.append_assoc, hstep.balanced hrunning,
        List.append_assoc]
    refine ⟨?_, hgoes⟩
    cases hstopped : ((start.run es).1.step e).1.stopped with
    | true =>
      obtain ⟨hadmitted, hhanded⟩ := hstep.halted hstopped
      simpa [hadmitted, hhanded] using hpart
    | false =>
      rw [hgoes hstopped]
      exact List.prefix_append _ _

/-- The notes of a run tell what was handed over. -/
lemma handedOver_run (host : Endpoint) (maxDatagram : Nat) (nextId : ConnectionId)
    (es : List Event) :
    Note.handedOver ((bind host maxDatagram nextId).run es).2 =
      ((bind host maxDatagram nextId).handed es).map fun out => (out.id, out.data) := by
  induction es using List.reverseRecOn with
  | nil => rfl
  | append_singleton es e ih =>
    have hkept := kept_run host maxDatagram nextId es
    rw [run_concat, handed_concat, Note.handedOver_append, ih,
      (conveys_step hkept.sound hkept.orderly e).noted, List.map_append]

/-! #### Failures -/

/-- What is left of an acceptor that could not send a datagram. -/
structure Drops (a : Acceptor) (out : Outgoing) (r : Noted Acceptor) : Prop where
  /-- The datagrams behind it are still queued. -/
  queue : a.queue.entries = out :: r.1.queue.entries
  /-- Its connection is gone if it was still there, and every other one is as before. -/
  peers : ∀ peer, r.1.peers.get? peer =
    if peer = out.peer ∧ a.idOf? peer = some out.id then none else a.peers.get? peer
  /-- The service is told of that and of nothing else. -/
  told : Note.callbacks r.2 =
    if a.idOf? out.peer = some out.id then [.close out.id .closed] else []
  /-- No posted request is lost. -/
  mailbox : r.1.mailbox = a.mailbox
  /-- The acceptor goes on. -/
  goesOn : r.1.stopped = false ∧ r.1.task = .running

/-- A datagram that cannot be sent takes only its connection with it, if that is still there. -/
lemma drops_of_failed (h : a.Sound) {source : SystemError} {out : Outgoing}
    (handed : a.handed? (.sendDone (.error source)) = some out) :
    a.Drops out (a.step (.sendDone (.error source))) := by
  have hqueue := (step_of_handed handed).1
  obtain ⟨-, waits, unasked, front⟩ := handed?_eq_some_iff.mp handed
  have hrunning := h.running_of_waits waits
  have htask := (idle_of_waits waits).2
  have hentries : a.queue.entries =
      out :: (a.step (.sendDone (.error source))).1.queue.entries := by
    rw [hqueue, SendQueue.entries_pop]
    exact (List.cons_head?_tail front).symm
  have hstep : a.step (.sendDone (.error source)) = a.sent (.error source) := by
    simp [step, waits, unasked]
  rw [hstep] at hentries ⊢
  unfold sent at hentries ⊢
  simp only [front, Noted.andThen] at hentries ⊢
  by_cases same : a.idOf? out.peer = some out.id
  · obtain ⟨p, registered, hid⟩ := Option.map_eq_some_iff.mp same
    have hsame : ({ a with queue := a.queue.pop } : Acceptor).idOf? out.peer = some out.id := same
    have hremoved := remove_of_registered (a := { a with queue := a.queue.pop }) registered none
    rw [if_pos hsame, hremoved] at hentries ⊢
    constructor
    case queue => exact hentries
    case peers =>
      intro peer
      dsimp only [dismissed]
      rw [Table.get?_erase]
      by_cases hpeer : peer = out.peer
      · simp [hpeer, same]
      · simp [hpeer]
    case told => rw [if_pos same, hid]; rfl
    case mailbox => rfl
    case goesOn => exact ⟨hrunning, htask⟩
  · have hother : ({ a with queue := a.queue.pop } : Acceptor).idOf? out.peer ≠ some out.id := same
    rw [if_neg hother] at hentries ⊢
    constructor
    case queue => exact hentries
    case peers =>
      intro peer
      rw [if_neg]
      rintro ⟨rfl, hsame⟩
      exact same hsame
    case told => rw [if_neg same]; rfl
    case mailbox => rfl
    case goesOn => exact ⟨hrunning, htask⟩

/-! #### Requests -/

/-- A request in the mailbox was there before, or was just made. -/
lemma asked_step (h : a.Sound) {e : Event} {peer : Endpoint} {id : ConnectionId} {data : Bytes}
    (hposted : .send peer id data ∈ (a.step e).1.mailbox.posted) :
    .send peer id data ∈ a.mailbox.posted ∨ e = .request id (.chunk data) := by
  have hrest {command : AcceptorCommand} {rest : List AcceptorCommand}
      (posted : a.mailbox.posted = command :: rest) (hmem : .send peer id data ∈ rest) :
      .send peer id data ∈ a.mailbox.posted ∨ e = .request id (.chunk data) :=
    .inl (posted ▸ List.mem_cons_of_mem command hmem)
  have hclosing {a₀ : Acceptor} {peers : List Endpoint} {r : Noted Acceptor}
      (closing : Closing a₀ peers r) (hmem : .send peer id data ∈ r.1.mailbox.posted) :
      .send peer id data ∈ a₀.mailbox.posted := by
    cases closing with
    | next => exact hmem
    | finished =>
      dsimp only at hmem
      split at hmem
      · cases hmem
      · exact hmem
  have hmove := a.move_step e
  generalize a.step e = r at hmove hposted
  cases hmove with
  | post id' c data' =>
    rcases List.mem_append.mp hposted with hbefore | hnow
    · exact .inl hbefore
    · obtain ⟨-, rfl, rfl⟩ := AcceptorCommand.send.inj (List.mem_singleton.mp hnow)
      exact .inr rfl
  | postClose | postStop =>
    rcases List.mem_append.mp hposted with hbefore | hnow
    · exact .inl hbefore
    · cases List.mem_singleton.mp hnow
  | enqueue peer' data' rest p waits posted => exact hrest posted hposted
  | ignoreSend peer' id' data' rest waits posted => exact hrest posted hposted
  | obey peer' rest p waits posted => exact hrest posted hposted
  | ignoreClose peer' id' rest waits posted => exact hrest posted hposted
  | goOn keep rest r phase closing =>
    have hmem := hclosing closing hposted
    exact .inl hmem
  | quit e mailbox r why first closing =>
    have hmem := hclosing closing hposted
    cases why with
    | asked rest waits posted => exact hrest posted hmem
    | dropped | failed => exact .inl hmem
  | vanish e mailbox why again => simp [h.first why] at again
  | _ => exact .inl hposted

/-- What was admitted was asked for. -/
lemma request_mem_of_admitted (host : Endpoint) (maxDatagram : Nat) (nextId : ConnectionId)
    (es : List Event) : ∀ out ∈ (bind host maxDatagram nextId).admitted es,
      .request out.id (.chunk out.data) ∈ es := by
  have hasked (es : List Event) {peer : Endpoint} {id : ConnectionId} {data : Bytes}
      (hposted : .send peer id data ∈ ((bind host maxDatagram nextId).run es).1.mailbox.posted) :
      .request id (.chunk data) ∈ es := by
    induction es using List.reverseRecOn with
    | nil => cases hposted
    | append_singleton es e ih =>
      rw [run_concat] at hposted
      rcases asked_step (kept_run host maxDatagram nextId es).sound hposted with hbefore | rfl
      · exact List.mem_append_left _ (ih hbefore)
      · exact List.mem_append_right _ (List.mem_singleton_self _)
  induction es using List.reverseRecOn with
  | nil => exact fun out hout => by cases hout
  | append_singleton es e ih =>
    intro out hout
    rw [admitted_concat] at hout
    rcases List.mem_append.mp hout with hbefore | hnow
    · exact List.mem_append_left _ (ih out hbefore)
    · obtain ⟨-, -, -, rest, posted⟩ := admitted?_eq_some_iff.mp (Option.mem_toList.mp hnow)
      exact List.mem_append_left _ (hasked es (by rw [posted]; exact List.mem_cons_self))

end Acceptor

/-! ### Drivers -/

namespace UdpDriver

variable {d : UdpDriver}

/-- The datagrams among posted requests. -/
def datagrams (requests : List UdpCommand) : List Bytes :=
  requests.filterMap fun
    | .send data => some data
    | .close => none

/-- The datagrams that a driver has not handed to its socket: those in the queue, and behind them
those in the mailbox. -/
def backlog (d : UdpDriver) : List Bytes := d.queue.entries ++ datagrams d.mailbox.posted

/-- The datagram of a request that is accepted. -/
def accepted? (d : UdpDriver) : Event → Option Bytes
  | .request (.chunk data) => if (d.request (.chunk data)).1 then some data else none
  | _ => none

/-- The datagram that is handed to the socket, whatever comes of it. -/
def handed? (d : UdpDriver) : Event → Option Bytes
  | .sendDone _ => if d.listens then d.queue.front? else none
  | _ => none

/-- The datagram whose sending an event completes. -/
def completed? (d : UdpDriver) : Event → Option Bytes
  | .sendDone (.ok ()) => if d.listens then d.queue.front? else none
  | _ => none

/-- The datagrams that are accepted in a run, in order. -/
def accepted (d : UdpDriver) (es : List Event) : List Bytes := Noted.gather step accepted? d es

/-- The datagrams that are handed to the socket in a run, in order. -/
def handed (d : UdpDriver) (es : List Event) : List Bytes := Noted.gather step handed? d es

lemma accepted_concat (d : UdpDriver) (es : List Event) (e : Event) :
    d.accepted (es ++ [e]) = d.accepted es ++ ((d.run es).1.accepted? e).toList := by
  rw [run_eq_iterate]
  exact Noted.gather_concat step accepted? d es e

lemma handed_concat (d : UdpDriver) (es : List Event) (e : Event) :
    d.handed (es ++ [e]) = d.handed es ++ ((d.run es).1.handed? e).toList := by
  rw [run_eq_iterate]
  exact Noted.gather_concat step handed? d es e

lemma accepted?_eq_some_iff {e : Event} {data : Bytes} :
    d.accepted? e = some data ↔ e = .request (.chunk data) ∧ d.connection.isRunning = true ∧
      d.mailbox.isOpen = true := by
  unfold accepted?
  split
  · rename_i data'
    cases running : d.connection.isRunning with
    | false => simp [request, UdpConnection.screen, running]
    | true =>
      simp only [request, UdpConnection.screen, running, if_true, Mailbox.fst_post,
        Option.ite_none_right_eq_some, Option.some.injEq, Event.request.injEq,
        SendRequest.chunk.injEq, true_and]
      exact and_comm
  · rename_i hother
    simp only [reduceCtorEq, false_iff]
    exact fun hall => hother data hall.1

lemma handed?_eq_some_iff {e : Event} {data : Bytes} :
    d.handed? e = some data ↔ (∃ outcome, e = .sendDone outcome) ∧ d.phase = .waiting ∧
      d.mailbox.posted = [] ∧ d.queue.front? = some data := by
  unfold handed?
  split
  · simp [listens_iff, and_assoc]
  · rename_i hother
    simp only [reduceCtorEq, false_iff]
    rintro ⟨⟨outcome, rfl⟩, -⟩
    exact hother outcome rfl

/-- What a step does about datagrams that are to be sent. -/
structure Conveys (d : UdpDriver) (e : Event) (r : Noted UdpDriver) : Prop where
  /-- Until the connection is over no datagram gets lost between the mailbox and the socket. -/
  balanced : r.1.phase.isOver = false →
    d.backlog ++ (d.accepted? e).toList = (d.handed? e).toList ++ r.1.backlog
  /-- What is handed over was to be sent next. -/
  next : (d.handed? e).toList <+: d.backlog
  /-- What is handed over leaves, unless the connection is over with it. -/
  noted : Note.data .left d.id r.2 = if r.1.phase.isOver then [] else (d.handed? e).toList
  /-- The service is told when the last queued datagram is sent, and only then. -/
  told : Note.sentCalls r.2 =
    if (d.completed? e).isSome ∧ r.1.queue.isEmpty = true then [d.id] else []

/-- A connection that is over hands nothing over, and stays over. -/
lemma handed?_of_isOver (hover : d.phase.isOver = true) (e : Event) : d.handed? e = none := by
  rw [← Option.not_isSome_iff_eq_none, Option.isSome_iff_exists]
  rintro ⟨data, handed⟩
  obtain ⟨-, phase, -⟩ := handed?_eq_some_iff.mp handed
  rw [phase] at hover
  cases hover

@[simp] lemma datagrams_append (early late : List UdpCommand) :
    datagrams (early ++ late) = datagrams early ++ datagrams late := by
  simp [datagrams]

/-- What is completed was handed over. -/
lemma completed?_of_handed? {e : Event} (handed : d.handed? e = none) : d.completed? e = none := by
  unfold completed?
  split
  · exact handed
  · rfl

/-- A datagram that is accepted waits in the mailbox. -/
lemma conveys_of_accepted {e : Event} {data : Bytes} (h : d.accepted? e = some data) :
    d.Conveys e (d.step e) := by
  obtain ⟨rfl, running, isOpen⟩ := accepted?_eq_some_iff.mp h
  have hstep : d.step (.request (.chunk data)) = ({ d with
      mailbox := { d.mailbox with posted := d.mailbox.posted ++ [.send data] } },
        [.posted d.id data]) := by
    simp [step, request, UdpConnection.screen, running, Mailbox.post, isOpen]
  rw [hstep]
  constructor
  case balanced =>
    intro _
    rw [h]
    simp [backlog, handed?, datagrams]
  case next => exact List.nil_prefix
  case noted => simp [handed?, Note.data, Note.datum?]
  case told => rfl

/-- A datagram that is handed over leaves the queue, or the connection is over. -/
lemma conveys_of_handed {e : Event} {data : Bytes} (h : d.handed? e = some data) :
    d.Conveys e (d.step e) := by
  obtain ⟨⟨outcome, rfl⟩, phase, unasked, front⟩ := handed?_eq_some_iff.mp h
  have hentries : d.queue.entries = data :: d.queue.pop.entries := (List.cons_head?_tail front).symm
  have hlistens : d.listens = true := listens_iff.mpr ⟨phase, unasked⟩
  have hbacklog : d.backlog = data :: d.queue.pop.entries := by
    rw [backlog, unasked, hentries]
    exact List.append_nil _
  have hnext : (d.handed? (.sendDone outcome)).toList <+: d.backlog := by
    rw [h, hbacklog]
    exact ⟨d.queue.pop.entries, rfl⟩
  have hstep : d.step (.sendDone outcome) = d.sent outcome := by simp [step, hlistens]
  rw [hstep]
  unfold sent
  simp only [front]
  cases outcome with
  | error source =>
    constructor
    case balanced => exact fun hopen => by cases hopen
    case next => exact hnext
    case noted => rfl
    case told => rfl
  | ok =>
    have hgoes : d.backlog ++ (d.accepted? (.sendDone (.ok ()))).toList =
        (d.handed? (.sendDone (.ok ()))).toList ++
          (d.queue.pop.entries ++ datagrams d.mailbox.posted) := by
      rw [h, hbacklog, unasked]
      simp [accepted?, datagrams]
    have hcompleted : (d.completed? (.sendDone (.ok ()))).isSome = true := by
      simp [completed?, hlistens, front]
    have hleft : Note.data .left d.id [.left d.id data] = [data] := by
      simp [Note.data, Note.datum?]
    by_cases last : d.queue.pop.isEmpty = true
    · simp only [if_pos last]
      constructor
      case balanced => exact fun _ => hgoes
      case next => exact hnext
      case noted => rw [h]; exact hleft
      case told => rw [if_pos ⟨hcompleted, last⟩]; rfl
    · simp only [if_neg last]
      constructor
      case balanced => exact fun _ => hgoes
      case next => exact hnext
      case noted => rw [h, phase]; exact hleft
      case told => rw [if_neg fun hall => last hall.2]; rfl

/-- Any other step moves datagrams only from the mailbox into the queue. -/
lemma conveys_of_neither {e : Event} (accepted : d.accepted? e = none)
    (handed : d.handed? e = none) : d.Conveys e (d.step e) := by
  have hcompleted := completed?_of_handed? handed
  have hsame {r : Noted UdpDriver} (hbacklog : r.1.phase.isOver = false → r.1.backlog = d.backlog)
      (hleft : Note.data .left d.id r.2 = []) (hsent : Note.sentCalls r.2 = []) :
      d.Conveys e r := by
    constructor
    case balanced => exact fun hopen => by rw [accepted, handed, hbacklog hopen]; simp
    case next => rw [handed]; exact List.nil_prefix
    case noted => rw [hleft, handed]; simp
    case told => rw [hsent, hcompleted]; simp
  have hsend {data : Bytes} (phase : d.phase = .waiting) (unasked : d.mailbox.posted = [])
      (front : d.queue.front? = some data) (he : ∃ outcome, e = .sendDone outcome) : False := by
    rw [handed?_eq_some_iff.mpr ⟨he, phase, unasked, front⟩] at handed
    cases handed
  have hmove := d.move_step e
  generalize d.step e = r at hmove
  cases hmove with
  | post data running isOpen =>
    rw [accepted?_eq_some_iff.mpr ⟨rfl, running, isOpen⟩] at accepted
    cases accepted
  | sendLast data phase unasked front => exact (hsend phase unasked front ⟨_, rfl⟩).elim
  | sendOne data phase unasked front => exact (hsend phase unasked front ⟨_, rfl⟩).elim
  | postClose => exact hsame (fun _ => by simp [backlog, datagrams]) rfl rfl
  | enqueue data rest phase posted =>
    exact hsame (fun _ => by simp [backlog, datagrams, posted]) rfl rfl
  | leave e d' why => exact hsame (fun hno => by cases hno) rfl rfl
  | part | discard => exact hsame (fun hno => by cases hno) rfl rfl
  | _ => exact hsame (fun _ => rfl) rfl rfl

/-- Every step conveys datagrams so. -/
lemma conveys_step (d : UdpDriver) (e : Event) : d.Conveys e (d.step e) := by
  cases accepted : d.accepted? e with
  | some data => exact conveys_of_accepted accepted
  | none =>
    cases handed : d.handed? e with
    | some data => exact conveys_of_handed handed
    | none => exact conveys_of_neither accepted handed

/-- A driver whose end was announced stays over in every step, started or not. -/
lemma isOver_step (hover : d.phase.isOver = true) (e : Event) :
    (d.step e).1.phase.isOver = true := by
  have hmove := d.move_step e
  generalize d.step e = r at hmove
  cases hmove with
  | stay | post | postClose | remove => exact hover
  | leave | part | discard => rfl
  | announce phase | enqueue data rest phase | tell datagram phase | sendLast data phase
  | sendOne data phase =>
    rw [phase] at hover
    cases hover
  | keep phase => rcases phase with phase | phase | phase <;> rw [phase] at hover <;> cases hover

/-! #### Whole runs -/

/-- What was handed over is the front part of what was accepted, and until the connection is over
the rest of it waits. -/
theorem conveyed_run (hnew : d.backlog = []) (es : List Event) :
    d.handed es <+: d.accepted es ∧
      ((d.run es).1.phase.isOver = false →
        d.accepted es = d.handed es ++ (d.run es).1.backlog) := by
  induction es using List.reverseRecOn with
  | nil => exact ⟨List.prefix_rfl, fun _ => hnew.symm⟩
  | append_singleton es e ih =>
    obtain ⟨hpart, hwhole⟩ := ih
    have hstep := (d.run es).1.conveys_step e
    rw [run_concat, accepted_concat, handed_concat]
    cases hover : (d.run es).1.phase.isOver with
    | true =>
      refine ⟨?_, fun hopen => ?_⟩
      · rw [handed?_of_isOver hover, Option.toList_none, List.append_nil]
        exact hpart.trans (List.prefix_append _ _)
      · rw [isOver_step hover] at hopen
        cases hopen
    | false =>
      rw [hwhole hover]
      refine ⟨?_, fun hopen => ?_⟩
      · rw [List.append_assoc]
        exact (List.prefix_append_right_inj _).mpr (hstep.next.trans (List.prefix_append _ _))
      · rw [List.append_assoc, hstep.balanced hopen, List.append_assoc]

/-- All that was handed over has left, unless the connection is over: then the last of it may be
what ended it. -/
lemma left_run (d : UdpDriver) (es : List Event) :
    ∃ failed : Option Bytes, d.handed es = Note.data .left d.id (d.run es).2 ++ failed.toList ∧
      ((d.run es).1.phase.isOver = false → failed = none) := by
  induction es using List.reverseRecOn with
  | nil => exact ⟨none, rfl, fun _ => rfl⟩
  | append_singleton es e ih =>
    obtain ⟨failed, hhanded, hfailed⟩ := ih
    have hnoted := ((d.run es).1.conveys_step e).noted
    rw [(d.id_run es).1] at hnoted
    rw [run_concat, handed_concat, Note.data_append, hnoted, hhanded]
    cases hover : (d.run es).1.phase.isOver with
    | true =>
      have hstays := isOver_step hover e
      rw [handed?_of_isOver hover, hstays]
      exact ⟨failed, by simp, fun hopen => by cases hopen⟩
    | false =>
      rw [hfailed hover]
      cases hends : ((d.run es).1.step e).1.phase.isOver with
      | true => exact ⟨(d.run es).1.handed? e, by simp, fun hopen => by cases hopen⟩
      | false => exact ⟨none, by simp, fun _ => rfl⟩

/-- What was accepted was asked for. -/
lemma request_mem_of_accepted (d : UdpDriver) (es : List Event) :
    ∀ data ∈ d.accepted es, .request (.chunk data) ∈ es := by
  induction es using List.reverseRecOn with
  | nil => exact fun data hdata => by cases hdata
  | append_singleton es e ih =>
    intro data hdata
    rw [accepted_concat] at hdata
    rcases List.mem_append.mp hdata with hbefore | hnow
    · exact List.mem_append_left _ (ih data hbefore)
    · obtain ⟨rfl, -⟩ := accepted?_eq_some_iff.mp (Option.mem_toList.mp hnow)
      exact List.mem_append_right _ (List.mem_singleton_self _)

end UdpDriver

/-! ### Both -/

/-- How an acceptor sends over a run. -/
structure Acceptor.SendsWhole (start : Acceptor) (es : List Event) : Prop where
  /-- What it hands over is what was admitted, in order, from the first on. -/
  inOrder : start.handed es <+: start.admitted es
  /-- Until it stops, whatever was admitted and not handed over waits in the queue. -/
  whole : (start.run es).1.stopped = false →
    start.admitted es = start.handed es ++ (start.run es).1.queue.entries
  /-- When it has stopped nothing is handed over any more. -/
  halted : (start.run es).1.stopped = true → ∀ fs, (start.run es).1.handed fs = []
  /-- The network gets the data of what is handed over, uncut. -/
  noted : Note.handedOver (start.run es).2 = (start.handed es).map fun out => (out.id, out.data)
  /-- A datagram that cannot be sent does not keep others from being sent. -/
  spares : ∀ {source out},
    (start.run es).1.handed? (.sendDone (.error source)) = some out →
      (start.run es).1.Drops out ((start.run es).1.step (.sendDone (.error source)))
  /-- Nothing it hands over is empty, as long as the requests are those of handles. -/
  filled : (∀ {id r}, .request id r ∈ es → r.IsIssued) → ∀ out ∈ start.handed es, out.data ≠ []

/-- How the driver of an active connection sends over a run. -/
structure UdpDriver.SendsWhole (start : UdpDriver) (es : List Event) : Prop where
  /-- What it hands over is what was accepted, in order, from the first on. -/
  inOrder : start.handed es <+: start.accepted es
  /-- Until the connection is over, whatever was accepted and not handed over waits. -/
  whole : (start.run es).1.phase.isOver = false →
    start.accepted es = start.handed es ++ (start.run es).1.backlog
  /-- The network gets what is handed over uncut, but for a last datagram that could not be sent. -/
  noted : ∃ failed : Option Bytes,
    start.handed es = Note.data .left start.id (start.run es).2 ++ failed.toList ∧
      ((start.run es).1.phase.isOver = false → failed = none)
  /-- The service is told of the end of sending when a completed send leaves the queue empty. -/
  told : ∀ e, Note.sentCalls ((start.run es).1.step e).2 =
    if ((start.run es).1.completed? e).isSome ∧ ((start.run es).1.step e).1.queue.isEmpty = true
      then [start.id] else []
  /-- Nothing it hands over is empty, as long as the requests are those of handles. -/
  filled : (∀ {r}, .request r ∈ es → r.IsIssued) → ∀ data ∈ start.handed es, data ≠ []

lemma Acceptor.sendsWhole (host : Endpoint) (maxDatagram : Nat) (nextId : ConnectionId)
    (es : List Event) : (bind host maxDatagram nextId).SendsWhole es where
  inOrder := (conveyed_run host maxDatagram nextId es).1
  whole := (conveyed_run host maxDatagram nextId es).2
  halted hstopped fs := handed_of_stopped (kept_run host maxDatagram nextId es) hstopped fs
  noted := handedOver_run host maxDatagram nextId es
  spares := drops_of_failed (kept_run host maxDatagram nextId es).sound
  filled hissued out hout :=
    have hadmitted := (conveyed_run host maxDatagram nextId es).1.subset hout
    (hissued (request_mem_of_admitted host maxDatagram nextId es out hadmitted)).ne_nil rfl

lemma UdpDriver.sendsWhole (c : UdpConnection) (maxDatagram : Nat) (es : List Event) :
    (ofConnection c maxDatagram).SendsWhole es where
  inOrder := (conveyed_run rfl es).1
  whole := (conveyed_run rfl es).2
  noted := left_run _ es
  told e := by
    rw [← ((ofConnection c maxDatagram).id_run es).1]
    exact (conveys_step _ e).told
  filled hissued data hdata :=
    have haccepted := (conveyed_run rfl es).1.subset hdata
    (hissued (request_mem_of_accepted _ es data haccepted)).ne_nil rfl

/-- **Datagrams are sent in order, once each and whole.**  An acceptor hands its socket what was
admitted to its queue until it stops, and a datagram that cannot be sent is missed by nobody but its
own connection.  The driver of an active connection hands over what was accepted until the
connection is over, and tells the service whenever nothing is left in the queue. -/
theorem sends_whole :
    (∀ host maxDatagram nextId es, (Acceptor.bind host maxDatagram nextId).SendsWhole es) ∧
      ∀ c maxDatagram es, (UdpDriver.ofConnection c maxDatagram).SendsWhole es :=
  ⟨Acceptor.sendsWhole, UdpDriver.sendsWhole⟩

/-- Two endpoints are given connections, and three datagrams of them are queued in turn; the first
of them cannot be sent and ends its connection, the two behind it are sent. -/
def setback : List Acceptor.Event :=
  let peer : Endpoint := ⟨.v4 0x7f000001, 5001⟩
  let other : Endpoint := ⟨.v4 0x7f000001, 5002⟩
  [.arrive peer [1], .returned true, .returned true, .arrive other [2], .returned true,
    .returned true, .request ⟨1⟩ (.ofChunk [7]), .command, .request ⟨2⟩ (.ofChunk [8]), .command,
    .request ⟨1⟩ (.ofChunk [9]), .command, .sendDone (.error (.os 113)),
    .returned true, .sendDone (.ok ()), .returned true, .sendDone (.ok ())]

/-- What is queued behind a datagram that cannot be sent is sent in order all the same, whichever
connection it is from, and none of it is empty. -/
theorem sends_whole_past_setback :
    let start := Acceptor.bind ⟨.v4 0x7f000001, 9000⟩ 100 .first
    Note.handedOver (start.run setback).2 = [(⟨1⟩, [7]), (⟨2⟩, [8]), (⟨1⟩, [9])] ∧
      start.handed setback <+: start.admitted setback ∧
      ∀ out ∈ start.handed setback, out.data ≠ [] := by
  intro start
  have hsends := sends_whole.1 ⟨.v4 0x7f000001, 9000⟩ 100 .first setback
  refine ⟨by decide +kernel, hsends.inOrder, hsends.filled fun {id r} hasked => ?_⟩
  simp only [setback, List.mem_cons, reduceCtorEq, Acceptor.Event.request.injEq, List.not_mem_nil,
    false_or, or_false] at hasked
  rcases hasked with ⟨-, rfl⟩ | ⟨-, rfl⟩ | ⟨-, rfl⟩ <;> exact .ofChunk _

end Switchboard
