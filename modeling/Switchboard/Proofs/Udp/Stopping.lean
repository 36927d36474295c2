import Switchboard.Proofs.Udp.Demultiplexing

/-!
# How an acceptor stops

An acceptor that stops releases its socket, writes down who is registered, and ends the connections
on that list one after the other: each is the subject of one call of the service, and the next one
is ended when the service has answered.  Behind the last one the queue is emptied and the task is
over.

`Acceptor.Orderly` says that the list in the phase and the registered connections are the same at
each moment of this, so nobody is left out or told twice.  From it comes what a stop does as a
whole, with any other events in between (`Acceptor.winding_run`): the calls made so far and those
that are still to be made are together the last calls of all who were registered.
-/

namespace Switchboard

namespace Acceptor

variable {a : Acceptor}

/-! ### The list of an acceptor that stops -/

/-- An acceptor that ends works through the connections that are registered. -/
structure Orderly (a : Acceptor) : Prop where
  /-- No endpoint is listed twice. -/
  distinct : a.peers.keys.Nodup
  /-- Those that are still to be ended are the registered ones. -/
  listed : ∀ {rest}, a.phase = .closing (some rest) → rest = a.peers.keys
  /-- An ending task is at its list. -/
  ending : a.task = .ending ↔ ∃ rest, a.phase = .closing (some rest)
  /-- A task that has ended has left nothing behind. -/
  ended : a.task = .ended →
    a.phase = .idle ∧ a.peers = [] ∧ a.queue.entries = [] ∧ a.mailbox.isOpen = false
  /-- The socket is held until the stop. -/
  held : a.socketOpen = !a.stopped

/-- A new acceptor has nothing to end. -/
lemma orderly_bind (host : Endpoint) (maxDatagram : Nat) (nextId : ConnectionId) :
    (bind host maxDatagram nextId).Orderly where
  distinct := List.nodup_nil
  listed hphase := by simp [bind] at hphase
  ending := by simp [bind]
  ended hended := by simp [bind] at hended
  held := rfl

/-- While the task runs and no list is worked through, only the endpoints have to be kept apart. -/
lemma Orderly.ofRunning {a' : Acceptor} (hdistinct : a'.peers.keys.Nodup)
    (hphase : ∀ rest, a'.phase ≠ .closing (some rest)) (hrunning : a'.task = .running)
    (hheld : a'.socketOpen = !a'.stopped) : a'.Orderly where
  distinct := hdistinct
  listed hclosing := absurd hclosing (hphase _)
  ending := by
    constructor
    · intro hending
      simp [hrunning] at hending
    · rintro ⟨rest, hclosing⟩
      exact absurd hclosing (hphase rest)
  ended hended := by simp [hrunning] at hended
  held := hheld

/-- The order is kept while the list, the phase and the task stay as they are. -/
lemma Orderly.ofSame {a' : Acceptor} (k : a.Orderly) (hkeys : a'.peers.keys = a.peers.keys)
    (hphase : a'.phase = a.phase) (htask : a'.task = a.task)
    (hempty : a.task = .ended →
      a'.peers = [] ∧ a'.queue.entries = [] ∧ a'.mailbox.isOpen = false)
    (hsocket : a'.socketOpen = a.socketOpen) (hstopped : a'.stopped = a.stopped) :
    a'.Orderly := by
  constructor
  case distinct =>
    rw [hkeys]
    exact k.distinct
  case listed =>
    intro rest hclosing
    rw [hkeys]
    exact k.listed (hphase ▸ hclosing)
  case ending =>
    rw [htask, hphase]
    exact k.ending
  case ended =>
    intro hended
    rw [htask] at hended
    exact ⟨hphase.trans (k.ended hended).1, hempty hended⟩
  case held =>
    rw [hsocket, hstopped]
    exact k.held

/-- An acceptor that works through the list of all registered connections ends the first of them, or
has come to its end. -/
lemma Closing.exact {r : Noted Acceptor} (closing : Closing a a.peers.keys r) :
    (∃ peer p, ∃ rest : Table Endpoint Peer, a.peers = (peer, p) :: rest ∧
        r = (a.dismissed peer p (some rest.keys), farewell p.id)) ∨
      a.peers = [] ∧
        r = ({ a with
            queue := {}
            phase := .idle
            task := if a.task = .ending then .ended else a.task
            mailbox := if a.task = .ending then .abandoned else a.mailbox }, []) := by
  generalize hkeys : a.peers.keys = keys at closing
  cases closing with
  | next skipped peer rest p gone registered =>
    refine .inl ?_
    -- nobody on the list is gone, so the first one is ended
    have hskipped : skipped = [] := by
      refine List.eq_nil_iff_forall_not_mem.mpr fun e he => ?_
      have hmem : e ∈ a.peers.keys := by
        rw [hkeys]
        exact List.mem_append_left _ he
      exact Table.mem_keys_iff.mp hmem (gone e he)
    rw [hskipped, List.nil_append] at hkeys
    cases hpeers : a.peers with
    | nil => simp [hpeers] at hkeys
    | cons first others =>
      obtain ⟨peer', p'⟩ := first
      rw [hpeers, Table.keys_cons] at hkeys
      obtain ⟨hpeer, hrest⟩ := List.cons.inj hkeys
      have hp : p' = p := by
        rw [hpeers, Table.get?_cons, if_pos hpeer] at registered
        exact Option.some.inj registered
      subst hpeer hrest hp
      exact ⟨peer', p', others, rfl, rfl⟩
  | finished peers gone =>
    refine .inr ⟨?_, rfl⟩
    refine Table.eq_nil_of_get?_eq_none fun peer => ?_
    by_contra hsome
    have hmem : peer ∈ a.peers.keys := Table.mem_keys_iff.mpr hsome
    rw [hkeys] at hmem
    exact hsome (gone peer hmem)

/-- Whoever is first on the list is off it when the connection is ended. -/
lemma peers_dismissed {peer : Endpoint} {p : Peer} {rest : Table Endpoint Peer}
    (hpeers : a.peers = (peer, p) :: rest) (hdistinct : a.peers.keys.Nodup)
    (following : Option (List Endpoint)) : (a.dismissed peer p following).peers = rest := by
  have herase := Table.erase_cons_self (hpeers ▸ hdistinct)
  simpa [dismissed, hpeers] using herase

/-- Working through the list keeps it in order. -/
lemma Orderly.closing {a₀ : Acceptor} {r : Noted Acceptor} (closing : Closing a₀ a₀.peers.keys r)
    (hdistinct : a₀.peers.keys.Nodup) (hending : a₀.task = .ending)
    (hheld : a₀.socketOpen = !a₀.stopped) : r.1.Orderly := by
  rcases closing.exact with ⟨peer, p, rest, hpeers, rfl⟩ | ⟨hpeers, rfl⟩
  · have hrest := peers_dismissed hpeers hdistinct (some rest.keys)
    constructor
    case distinct =>
      rw [hrest]
      rw [hpeers] at hdistinct
      exact (List.nodup_cons.mp hdistinct).2
    case listed =>
      intro rest' hphase
      have hsame : rest.keys = rest' := by simpa [dismissed] using hphase
      rw [hrest, hsame]
    case ending => exact ⟨fun _ => ⟨rest.keys, rfl⟩, fun _ => hending⟩
    case ended =>
      intro hended
      have hno : AcceptorTask.ending = .ended := hending.symm.trans hended
      cases hno
    case held => exact hheld
  · constructor
    case distinct => exact hdistinct
    case listed => intro rest hphase; cases hphase
    case ending => simp [hending]
    case ended => exact fun _ => ⟨rfl, hpeers, rfl, by simp [hending, Mailbox.abandoned]⟩
    case held => exact hheld

/-- No step brings the list of an acceptor into disorder. -/
theorem Orderly.step (h : a.Sound) (k : a.Orderly) (e : Event) : (a.step e).1.Orderly := by
  have hput {peer : Endpoint} {p : Peer} : (a.peers.put peer p).keys.Nodup :=
    Table.nodup_keys_put k.distinct peer p
  have herase {peer : Endpoint} : (a.peers.erase peer).keys.Nodup :=
    Table.nodup_keys_erase k.distinct peer
  have hengaged {peer : Endpoint} (hphase : a.phase.peer? = some peer) : a.task = .running :=
    h.engaged (.inl (by simp [hphase]))
  have hmove := a.move_step e
  generalize a.step e = r at hmove
  cases hmove with
  | stay => exact k
  | post | postClose | postStop =>
    exact k.ofSame rfl rfl rfl (fun hended => (k.ended hended).2) rfl rfl
  | ignoreSend | ignoreClose | sendStale | loseStale =>
    refine .ofRunning k.distinct (fun rest hphase => ?_) (idle_of_waits (by assumption)).2 k.held
    have hidle := (idle_of_waits (by assumption)).1
    simp [hidle] at hphase
  | enqueue peer data rest p waits posted registered =>
    obtain ⟨hidle, hrunning⟩ := idle_of_waits waits
    exact .ofRunning hput (by simp [hidle]) hrunning k.held
  | sendOne out p waits unasked front registered same more =>
    obtain ⟨hidle, hrunning⟩ := idle_of_waits waits
    exact .ofRunning hput (by simp [hidle]) hrunning k.held
  | sendLast out p waits unasked front registered same last =>
    exact .ofRunning hput (by simp) (idle_of_waits waits).2 k.held
  | tell peer datagram p waits unasked registered =>
    exact .ofRunning hput (by simp [told]) (idle_of_waits waits).2 k.held
  | meet peer datagram waits unasked unknown =>
    exact .ofRunning hput (by simp [met]) (idle_of_waits waits).2 k.held
  | report e waits unasked =>
    exact .ofRunning k.distinct (by simp) (idle_of_waits waits).2 k.held
  | obey peer rest p waits posted registered =>
    exact .ofRunning herase (by simp [dismissed]) (idle_of_waits waits).2 k.held
  | lose source out p waits unasked front registered same =>
    exact .ofRunning herase (by simp [dismissed]) (idle_of_waits waits).2 k.held
  | welcome peer datagram p phase registered =>
    exact .ofRunning hput (by simp [told]) (hengaged (by rw [phase]; rfl)) k.held
  | refuse peer p phase registered =>
    have hserved : a.phase.peer? = some peer := by
      rcases phase with ⟨datagram, phase⟩ | phase | phase <;> rw [phase] <;> rfl
    exact .ofRunning herase (by simp [dismissed]) (hengaged hserved) k.held
  | keep peer phase =>
    have hserved : a.phase.peer? = some peer := by
      rcases phase with phase | phase <;> rw [phase] <;> rfl
    exact .ofRunning k.distinct (by simp) (hengaged hserved) k.held
  | recover keep phase =>
    have hrunning : a.task = .running := h.engaged (.inr ⟨false, phase⟩)
    exact .ofRunning k.distinct (by simp) hrunning k.held
  | part keep phase =>
    have hrunning : a.task = .running := by
      cases htask : a.task with
      | running => rfl
      | ending =>
        obtain ⟨rest, hphase⟩ := k.ending.mp htask
        simp [phase] at hphase
      | ended =>
        have hidle := (k.ended htask).1
        simp [phase] at hidle
    exact .ofRunning k.distinct (by simp) hrunning k.held
  | goOn keep rest r phase closing =>
    obtain rfl := k.listed phase
    exact (Orderly.closing closing k.distinct (k.ending.mpr ⟨_, phase⟩) k.held :)
  | quit e mailbox r why first closing =>
    exact (Orderly.closing closing k.distinct rfl rfl :)
  | vanish e mailbox why again => simp [h.first why] at again
  | remove e peer p datagram rest phase registered =>
    exact .ofRunning hput (by simp [phase]) (hengaged (by rw [phase]; rfl)) k.held

/-- The list of an acceptor is in order at every moment of a run. -/
theorem orderly_run (h : a.Sound) (k : a.Orderly) (es : List Event) : (a.run es).1.Orderly := by
  induction es using List.reverseRecOn with
  | nil => exact k
  | append_singleton es e ih =>
    rw [run_concat]
    exact ih.step (sound_run h es) e

/-! ### A stop as a whole -/

/-- A step that neither goes on with the list nor tells the service of anything. -/
structure Idles (a : Acceptor) (r : Noted Acceptor) : Prop where
  /-- The connections that are registered stay so. -/
  peers : r.1.peers = a.peers
  /-- The task is as far as it was. -/
  task : r.1.task = a.task
  /-- Nobody is called. -/
  calls : Note.callbacks r.2 = []
  /-- No socket is released. -/
  kept : .released ∉ r.2

/-- While an acceptor stops, and when it has stopped, only the answers of the service matter, and
these only while it stops. -/
lemma idles_of_halted (h : a.Sound) (k : a.Orderly) (hhalted : a.task ≠ .running) {e : Event}
    (he : e.answer? = none ∨ a.task = .ended) : a.Idles (a.step e) := by
  have hwaits (hwaits : a.waits = true) : False := hhalted (idle_of_waits hwaits).2
  have hserved {peer : Endpoint} (hphase : a.phase.peer? = some peer) : False :=
    hhalted (h.engaged (.inl (by simp [hphase])))
  have hreporting {fatal : Bool} (hphase : a.phase = .reporting fatal) : False :=
    hhalted (h.engaged (.inr ⟨fatal, hphase⟩))
  -- an answer means something only to a call, and a task that has ended makes none
  have hanswer {keep : Bool} {following : Option (List Endpoint)}
      (hphase : a.phase = .closing following) (hreturned : e = .returned keep) : False := by
    rcases he with hnone | hended
    · simp [hreturned, Event.answer?] at hnone
    · have hidle := (k.ended hended).1
      simp [hphase] at hidle
  have hmove := a.move_step e
  generalize a.step e = r at hmove
  cases hmove with
  | stay | postClose | postStop => exact ⟨rfl, rfl, rfl, by simp⟩
  | post => exact ⟨rfl, rfl, rfl, by simp⟩
  | enqueue | ignoreSend | obey | ignoreClose | tell | meet | report | sendLast | sendOne
  | sendStale | lose | loseStale => exact (hwaits (by assumption)).elim
  | welcome peer datagram p phase => exact (hserved (by rw [phase]; rfl)).elim
  | refuse peer p phase =>
    have hphase : a.phase.peer? = some peer := by
      rcases phase with ⟨datagram, phase⟩ | phase | phase <;> rw [phase] <;> rfl
    exact (hserved hphase).elim
  | keep peer phase =>
    have hphase : a.phase.peer? = some peer := by
      rcases phase with phase | phase <;> rw [phase] <;> rfl
    exact (hserved hphase).elim
  | part keep phase => exact (hanswer phase rfl).elim
  | goOn keep rest r phase => exact (hanswer phase rfl).elim
  | recover keep phase => exact (hreporting phase).elim
  | quit e mailbox r why | vanish e mailbox why =>
    cases why with
    | asked rest waits => exact (hwaits waits).elim
    | dropped waits => exact (hwaits waits).elim
    | failed keep phase => exact (hreporting phase).elim
  | remove e peer p datagram rest phase => exact (hserved (by rw [phase]; rfl)).elim

/-- The last calls about the connections of a table. -/
def lastCalls (peers : Table Endpoint Peer) : List Callback :=
  peers.map fun entry => .close entry.2.id .closed

/-- How far an acceptor that stops has come when the service has answered so often. -/
structure Winding (peers : Table Endpoint Peer) (given : Nat) (s : Noted Acceptor) : Prop where
  /-- The calls so far and those still to come are the last calls of all who were registered. -/
  calls : Note.callbacks s.2 ++ lastCalls s.1.peers = lastCalls peers
  /-- With each answer one more connection is ended. -/
  left : s.1.peers = peers.drop (given + 1)
  /-- The task has ended when the service has answered all its calls. -/
  task : s.1.task = if given < peers.length then .ending else .ended
  /-- The socket was released first, and only then. -/
  released : ∃ rest, s.2 = .released :: rest ∧ .released ∉ rest

namespace Winding

variable {peers : Table Endpoint Peer} {given : Nat} {s : Noted Acceptor}

/-- The next connection on the list is ended. -/
lemma go_on (w : Winding peers given s) {r : Noted Acceptor} {given' : Nat}
    (hcalls : Note.callbacks r.2 ++ lastCalls r.1.peers = lastCalls s.1.peers)
    (hleft : r.1.peers = peers.drop (given' + 1))
    (htask : r.1.task = if given' < peers.length then .ending else .ended)
    (hkept : .released ∉ r.2) : Winding peers given' (r.1, s.2 ++ r.2) where
  calls := by rw [Note.callbacks_append, List.append_assoc, hcalls, w.calls]
  left := hleft
  task := htask
  released := by
    obtain ⟨rest, hrest, hnone⟩ := w.released
    refine ⟨rest ++ r.2, by rw [hrest]; rfl, ?_⟩
    simp [hnone, hkept]

/-- A step that idles changes nothing. -/
lemma idle (w : Winding peers given s) {r : Noted Acceptor} (idles : s.1.Idles r) :
    Winding peers given (r.1, s.2 ++ r.2) := by
  refine w.go_on ?_ (idles.peers.trans w.left) (idles.task.trans w.task) idles.kept
  rw [idles.calls, idles.peers, List.nil_append]

/-- An answer lets the acceptor end the next connection, or its task if there is none. -/
lemma answer (k : s.1.Orderly) (w : Winding peers given s) (hgiven : given < peers.length)
    (keep : Bool) : Winding peers (given + 1)
      ((s.1.step (.returned keep)).1, s.2 ++ (s.1.step (.returned keep)).2) := by
  have hending : s.1.task = .ending := by rw [w.task, if_pos hgiven]
  obtain ⟨rest, hphase⟩ := k.ending.mp hending
  obtain rfl := k.listed hphase
  have hstep : s.1.step (.returned keep) =
      ((({ s.1 with phase := .idle } : Acceptor).closeAll s.1.peers.keys).1,
        .tracked (-1) :: (({ s.1 with phase := .idle } : Acceptor).closeAll s.1.peers.keys).2) := by
    simp [step, returned, hphase, Noted.andThen]
  have hclosing := closing_closeAll ({ s.1 with phase := .idle } : Acceptor) s.1.peers.keys
  rw [hstep]
  generalize ({ s.1 with phase := .idle } : Acceptor).closeAll s.1.peers.keys = r at hclosing
  rcases hclosing.exact with ⟨peer, p, others, hpeers, rfl⟩ | ⟨hpeers, rfl⟩
  · have hlist : s.1.peers = (peer, p) :: others := hpeers
    have hothers := peers_dismissed (a := { s.1 with phase := .idle }) hpeers k.distinct
      (some others.keys)
    have hdrop : peers.drop (given + 1 + 1) = others := by
      rw [← List.tail_drop, ← w.left, hlist, List.tail_cons]
    have hmore : given + 1 < peers.length := by
      have hlength := congrArg List.length (w.left.symm.trans hlist)
      simp only [List.length_drop, List.length_cons] at hlength
      omega
    refine w.go_on ?_ (hothers.trans hdrop.symm) ?_ ?_
    · rw [hothers, hlist]
      rfl
    · rw [if_pos hmore]
      exact hending
    · simp [farewell]
  · have hnone : s.1.peers = [] := hpeers
    have hlast : ¬ given + 1 < peers.length := by
      have hlength := congrArg List.length (w.left.symm.trans hnone)
      simp only [List.length_drop, List.length_nil] at hlength
      omega
    have hdrop : peers.drop (given + 1 + 1) = [] := by
      rw [← List.tail_drop, ← w.left, hnone, List.tail_nil]
    refine w.go_on ?_ (hnone.trans hdrop.symm) ?_ ?_
    · rw [show Note.callbacks [Note.tracked (-1)] = [] from rfl]
      rfl
    · rw [if_neg hlast]
      simp [hending]
    · simp

/-- Whatever happens next, the stop goes its way. -/
lemma step (h : s.1.Sound) (k : s.1.Orderly) (w : Winding peers given s) (e : Event) :
    Winding peers (given + e.answer?.toList.length) ((s.1.step e).1, s.2 ++ (s.1.step e).2) := by
  have hhalted : s.1.task ≠ .running := by
    rw [w.task]
    split <;> simp
  cases he : e.answer? with
  | none => exact w.idle (idles_of_halted h k hhalted (.inl he))
  | some keep =>
    obtain rfl : e = .returned keep := by
      cases e <;> simp_all [Event.answer?]
    by_cases hgiven : given < peers.length
    · exact w.answer k hgiven keep
    · have hended : s.1.task = .ended := by rw [w.task, if_neg hgiven]
      have idles := idles_of_halted h k hhalted (e := .returned keep) (.inr hended)
      have hdone : peers.drop (given + 1 + 1) = [] := List.drop_eq_nil_iff.mpr (by omega)
      refine w.go_on ?_ ?_ ?_ idles.kept
      · rw [idles.calls, idles.peers, List.nil_append]
      · rw [idles.peers, (k.ended hended).2.1]
        exact hdone.symm
      · rw [idles.task, hended, if_neg (by simp; omega)]

/-- When the service has answered its last call nobody is registered, nothing is queued, and it was
told of the end of each that was registered. -/
lemma finished (k : s.1.Orderly) (w : Winding peers given s) (hgiven : peers.length ≤ given) :
    Note.callbacks s.2 = lastCalls peers ∧ s.1.peers = [] ∧ s.1.queue.entries = [] ∧
      s.1.task = .ended := by
  have hended : s.1.task = .ended := by rw [w.task, if_neg (Nat.not_lt.mpr hgiven)]
  obtain ⟨-, hpeers, hqueue, -⟩ := k.ended hended
  have hcalls : Note.callbacks s.2 ++ lastCalls s.1.peers = lastCalls peers := w.calls
  rw [hpeers] at hcalls
  exact ⟨(List.append_nil _).symm.trans hcalls, hpeers, hqueue, hended⟩

end Winding

/-- An event for which the task of an acceptor quits lets it release its socket and end the first
connection. -/
lemma winding_quits (h : a.Sound) (k : a.Orderly) {e : Event} {mailbox : Mailbox AcceptorCommand}
    (why : Quits a e mailbox) : Winding a.peers 0 (a.step e) := by
  let a₀ : Acceptor :=
    { a with phase := .idle, mailbox, task := .ending, stopped := true, socketOpen := false }
  have hfirst : a.stopped = false := h.first why
  have hend : ({ a with phase := .idle, mailbox } : Acceptor).endTask =
      ((a₀.closeAll a.peers.keys).1, .released :: (a₀.closeAll a.peers.keys).2) := by
    simp [endTask, stop, hfirst, Noted.andThen, a₀]
  have hstep : a.step e = ({ a with phase := .idle, mailbox } : Acceptor).endTask := by
    cases why with
    | asked rest waits posted =>
      have hidle := (idle_of_waits waits).1
      simp [step, takeCommand, Mailbox.take?, waits, posted, ← hidle]
    | dropped waits =>
      rw [withIdle (idle_of_waits waits).1]
      simp [step, waits]
    | failed keep phase => simp [step, returned, phase]
  have hclosing : Closing a₀ a₀.peers.keys (a₀.closeAll a.peers.keys) := closing_closeAll a₀ _
  rw [hstep, hend]
  generalize a₀.closeAll a.peers.keys = r at hclosing
  rcases hclosing.exact with ⟨peer, p, rest, hpeers, rfl⟩ | ⟨hpeers, rfl⟩
  · have hlist : a.peers = (peer, p) :: rest := hpeers
    have hrest := peers_dismissed (a := a₀) hpeers k.distinct (some rest.keys)
    constructor
    case calls =>
      rw [hrest, hlist]
      rfl
    case left => rw [hrest, hlist]; rfl
    case task => rw [if_pos (by simp [hlist])]; rfl
    case released => exact ⟨_, rfl, by simp [farewell]⟩
  · have hnone : a.peers = [] := hpeers
    constructor
    case calls =>
      have hsilent : Note.callbacks [Note.released] = [] := rfl
      simp [hnone, a₀, hsilent]
    case left => simp [hnone, a₀]
    case task => simp [hnone, a₀]
    case released => exact ⟨_, rfl, by simp⟩

/-- A stop goes its way through whatever else happens. -/
theorem winding_run (h : a.Sound) (k : a.Orderly) {e : Event} {mailbox : Mailbox AcceptorCommand}
    (why : Quits a e mailbox) (gs : List Event) :
    Winding a.peers (answers gs).length (a.run (e :: gs)) := by
  induction gs using List.reverseRecOn with
  | nil => simpa [run, Noted.andThen, answers] using winding_quits h k why
  | append_singleton gs g ih =>
    have hanswers : (answers (gs ++ [g])).length =
        (answers gs).length + g.answer?.toList.length := by
      cases hg : g.answer? <;> simp [answers, hg]
    rw [← List.cons_append, run_concat, hanswers]
    exact ih.step (sound_run h _) (orderly_run h k _) g

end Acceptor

end Switchboard
