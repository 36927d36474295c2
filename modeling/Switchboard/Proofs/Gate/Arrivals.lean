import Switchboard.Proofs.Gate.Permits
import Switchboard.Proofs.Tcp.Calls

/-!
# The life of an accepted connection

An accepted connection is numbered when it comes in, and has its permit for as long as it is there.
The calls made about it up to then are told by `Gate.callsFor`, and `Arrival.Story` says what they
are: none before it has a driver, then those of the driver, and when it is gone they are complete.
A driver is done only when the service has returned from the last call, so the permit comes back
after that call (`Gate.GivesBack`).  A number that is gone does not come back, and so does its
permit only once.

`Gate.permits_conserved` puts this together with the count of all permits.
-/

namespace Switchboard

/-- The service of a connection that is not over may be told of data several times. -/
lemma Callback.Life.tells {opening : Callback} {id : ConnectionId} {calls more : List Callback}
    (life : Life opening id false calls) (hmore : ∀ call ∈ more, tells id call) :
    Life opening id false (calls ++ more) := by
  induction more using List.reverseRecOn with
  | nil => simpa using life
  | append_singleton more call ih =>
    rw [← List.append_assoc]
    exact (ih fun call' hcall' => hmore call' (by simp [hcall'])).tell (hmore call (by simp))

/-- A driver whose service returned from the call that was under way, if one was and it was not the
last, waits for something else than its service. -/
lemma TcpDriver.waits_of_returned {d : TcpDriver} (hstarted : d.phase ≠ .fresh)
    (hdone : d.phase ≠ .done) (hclosing : d.phase ≠ .closing) :
    let d' := (d.step (.returned true)).1
    d'.phase = .waiting ∨ d'.phase = .flushing ∨
      (∃ chunk written, d'.phase = .emptying chunk written) ∨ d'.phase = .settling ∨
      d'.phase = .shutting := by
  cases hphase : d.phase <;> simp_all [step, returned]

/-- Dropped there, it makes the last call. -/
lemma TcpDriver.closing_of_dropped {d : TcpDriver}
    (hwaits : d.phase = .waiting ∨ d.phase = .flushing ∨
      (∃ chunk written, d.phase = .emptying chunk written) ∨ d.phase = .settling ∨
      d.phase = .shutting) : (d.step .abort).1.phase = .closing := by
  rcases hwaits with h | h | ⟨chunk, written, h⟩ | h | h <;> simp [step, abort, h, finish]

namespace Tcp

/-! ### The calls about one connection -/

/-- Where an accepted connection is, if it is still there, and the calls that were made about it. -/
inductive Arrival.Story : Option Arrival → List Callback → Prop where
  /-- Nobody was called before it has a driver. -/
  | early (port : Port) (loop : EventLoop) (stage : ArrivalStage)
      (early : stage = .moving ∨ stage = .preparing) : Story (some ⟨port, loop, stage⟩) []
  /-- Its driver announced it and goes on, or has made the last call and waits for its return. -/
  | driven (port : Port) (loop : EventLoop) (d : TcpDriver) (calls : List Callback)
      (coherent : d.Coherent) (phase : d.phase ≠ .done)
      (life : Callback.Life (.accept d.id port) d.id d.phase.isOver calls) :
      Story (some ⟨port, loop, .driven d⟩) calls
  /-- It was lost before it had a driver, of which the service hears only if its handshake
  failed. -/
  | lost (calls : List Callback)
      (silent : calls = [] ∨
        ∃ code message, calls = [.error "connection" "handshake" code message]) :
      Story none calls
  /-- Its driver announced it and made the last call. -/
  | parted (id : ConnectionId) (port : Port) (calls : List Callback)
      (life : Callback.Life (.accept id port) id true calls) : Story none calls

namespace Arrival

section Story

variable {port : Port} {loop : EventLoop} {calls : List Callback}

/-- The driver of a connection is coherent. -/
lemma Story.coherent {d : TcpDriver} (h : Story (some ⟨port, loop, .driven d⟩) calls) :
    d.Coherent := by
  cases h with
  | driven _ _ _ _ coherent => exact coherent
  | early _ _ _ hearly => simp at hearly

/-- Nobody was called about a connection that has yet to be given a driver. -/
lemma Story.silent (h : Story (some ⟨port, loop, .preparing⟩) calls) : calls = [] := by
  cases h with
  | early => rfl

end Story

/-- A driver that goes on makes its calls in order. -/
lemma life_step {d : TcpDriver} {port : Port} {calls : List Callback}
    (coherent : d.Coherent) (life : Callback.Life (.accept d.id port) d.id d.phase.isOver calls)
    (e : TcpDriver.Event) :
    Callback.Life (.accept (d.step e).1.id port) (d.step e).1.id (d.step e).1.phase.isOver
      (calls ++ Note.callbacks (d.step e).2) := by
  rw [(d.sameSettings_step e).id]
  cases hover : d.phase.isOver with
  | true =>
    obtain ⟨hstays, hnone⟩ := TcpDriver.step_of_isOver hover e
    rw [hstays, hnone, List.append_nil]
    exact hover ▸ life
  | false =>
    rw [hover] at life
    obtain ⟨told, htold, hcalls⟩ := TcpDriver.callbacks_step coherent.started e
    have hlife := life.tells fun call hcall => (htold call hcall).1
    rw [hcalls, TcpDriver.farewell_of_running hover, ← List.append_assoc]
    cases hend : (d.step e).1.phase.isOver with
    | true => simpa using hlife.stop
    | false => simpa using hlife

/-- Whatever happens to a connection goes on with its story. -/
lemma Goes.story {a : Arrival} {next : Option Arrival} {notes : List Note} {calls : List Callback}
    (goes : a.Goes next notes) (story : Story (some a) calls) :
    Story next (calls ++ Note.callbacks notes) := by
  cases goes with
  | taken port loop =>
    cases story with
    | early => exact .early port loop .preparing (.inr rfl)
  | lost port loop stage notes early hnotes =>
    cases story with
    | early => exact .lost _ (by simpa using hnotes)
    | driven => simp at early
  | announced port loop d notes coherent phase hnotes =>
    cases story with
    | early =>
      rw [hnotes, List.nil_append]
      exact .driven port loop d _ coherent (by simp [phase]) (by rw [phase]; exact .start)
  | driven port loop d e phase =>
    cases story with
    | early _ _ _ early => simp at early
    | driven _ _ _ _ coherent _ life =>
      exact .driven port loop _ _ (TcpDriver.coherent_step coherent e) phase
        (life_step coherent life e)
  | parted port loop d e phase =>
    cases story with
    | early _ _ _ early => simp at early
    | driven _ _ _ _ coherent hphase life =>
      have hlife := life_step coherent life e
      rw [phase] at hlife
      exact .parted _ port _ hlife

/-- The calls about a connection that lets go of its permit were made before it does, except for the
one that tells of a failed handshake. -/
lemma Goes.calls_before {a : Arrival} {notes : List Note} {calls : List Callback}
    (goes : a.Goes none notes) (story : Story (some a) calls) :
    (calls = [] ∧ (a.stage = .moving ∨ a.stage = .preparing)) ∨
      ∃ d, a.stage = .driven d ∧ Note.callbacks notes = [] ∧
        Callback.Life (.accept d.id a.port) d.id true calls := by
  cases goes with
  | lost port loop stage notes early =>
    cases story with
    | early => exact .inl ⟨rfl, early⟩
    | driven => simp at early
  | parted port loop d e phase =>
    cases story with
    | early _ _ _ early => simp at early
    | driven _ _ _ _ coherent hphase life =>
      have hover : d.phase.isOver = true := by
        rw [((TcpDriver.done_of_step phase).resolve_left hphase).1]
        rfl
      exact .inr ⟨d, rfl, (TcpDriver.step_of_isOver hover e).2, hover ▸ life⟩

end Arrival

namespace Gate

variable {g : Gate} {n : Nat}

/-- The calls made in the steps that are about an accepted connection. -/
def callsFor (g : Gate) (n : Nat) : List Event → List Callback
  | [] => []
  | e :: es =>
    (if e.arrival? = some n then Note.callbacks (g.step e).2 else []) ++
      callsFor (g.step e).1 n es

/-- The calls are those made in one part of a run and those made in the rest. -/
lemma callsFor_append (g : Gate) (n : Nat) (es fs : List Event) :
    g.callsFor n (es ++ fs) = g.callsFor n es ++ (g.run es).1.callsFor n fs := by
  induction es generalizing g with
  | nil => rfl
  | cons e es ih => simp [callsFor, run, Noted.andThen, ih, List.append_assoc]

/-- The calls with those of one more step. -/
lemma callsFor_concat (g : Gate) (n : Nat) (es : List Event) (e : Event) :
    g.callsFor n (es ++ [e]) =
      g.callsFor n es ++
        if e.arrival? = some n then Note.callbacks ((g.run es).1.step e).2 else [] := by
  rw [callsFor_append]
  simp [callsFor]

/-! ### Coming and going -/

/-- A step about a connection changes only that one; any other step lets at most a new one in. -/
lemma get?_step (g : Gate) (e : Event) (n : Nat) :
    (g.step e).1.arrivals.get? n = g.arrivals.get? n ∧ (e.arrival? = some n → g.step e = (g, [])) ∨
      (∃ a, e.arrival? = some n ∧ g.arrivals.get? n = some a ∧
        a.Goes ((g.step e).1.arrivals.get? n) (g.step e).2) ∨
      n = g.nextArrival ∧ e.arrival? = none ∧
        ∃ port loop stage, (g.step e).1.arrivals.get? n = some ⟨port, loop, stage⟩ ∧
          (stage = .moving ∨ stage = .preparing) := by
  have hmove := g.move_step e
  generalize g.step e = r at hmove
  cases hmove with
  | stay => exact .inl ⟨rfl, fun _ => rfl⟩
  | letIn i l listener stage loop detached place early =>
    have hget := (g.ask i).get?_enter ⟨l.port, loop, place⟩ n
    by_cases hn : n = g.nextArrival
    · exact .inr (.inr ⟨hn, rfl, l.port, loop, place, hget.trans (if_pos hn), early⟩)
    · exact .inl ⟨hget.trans (if_neg hn), fun hno => by cases hno⟩
  | visit _ m a next notes about arrival goes =>
    rw [get?_settle]
    by_cases hm : n = m
    · subst hm
      exact .inr (.inl ⟨a, about, arrival, by simpa using goes⟩)
    · refine .inl ⟨if_neg hm, fun hno => ?_⟩
      exact absurd (Option.some.inj (hno.symm.trans about)) hm
  | _ => exact .inl ⟨rfl, fun hno => by cases hno⟩

/-- A step that is about no connection enters at most the next one. -/
lemma nextArrival_step (g : Gate) (e : Event) : g.nextArrival ≤ (g.step e).1.nextArrival := by
  have hmove := g.move_step e
  generalize g.step e = r at hmove
  cases hmove with
  | letIn => exact Nat.le_succ _
  | visit => exact (nextArrival_settle g _ _).ge
  | _ => exact le_rfl

/-- A connection that is gone does not come back, and nobody is called about it any more. -/
lemma gone_run (hgone : g.arrivals.get? n = none) (hpast : n < g.nextArrival) (es : List Event) :
    (g.run es).1.arrivals.get? n = none ∧ g.callsFor n es = [] := by
  induction es generalizing g with
  | nil => exact ⟨hgone, rfl⟩
  | cons e es ih =>
    have hstep : (g.step e).1.arrivals.get? n = none ∧
        (e.arrival? = some n → g.step e = (g, [])) := by
      rcases g.get?_step e n with ⟨hget, hnothing⟩ | ⟨a, -, ha, -⟩ | ⟨hn, -⟩
      · exact ⟨hget.trans hgone, hnothing⟩
      · cases hgone.symm.trans ha
      · exact absurd hn hpast.ne
    obtain ⟨hrun, hcalls⟩ := ih hstep.1 (hpast.trans_le (g.nextArrival_step e))
    refine ⟨hrun, ?_⟩
    rw [callsFor, hcalls, List.append_nil]
    split
    · rename_i habout
      rw [hstep.2 habout]
      rfl
    · rfl

/-- The calls about a connection tell its story; none were made about one that has not come yet. -/
theorem story_run (engine : Engine) (limit : Nat) (es : List Event) (n : Nat) :
    Arrival.Story (((start engine limit).run es).1.arrivals.get? n)
        ((start engine limit).callsFor n es) ∧
      (((start engine limit).run es).1.nextArrival ≤ n →
        (start engine limit).callsFor n es = []) := by
  induction es using List.reverseRecOn with
  | nil => exact ⟨.lost _ (.inl rfl), fun _ => rfl⟩
  | append_singleton es e ih =>
    obtain ⟨hstory, hnone⟩ := ih
    have hmono := ((start engine limit).run es).1.nextArrival_step e
    rw [run_concat, callsFor_concat]
    rcases ((start engine limit).run es).1.get?_step e n with
      ⟨hget, hnothing⟩ | ⟨a, habout, ha, hgoes⟩ | ⟨hn, habout, port, loop, stage, hget, hstage⟩
    · have hcalls : (if e.arrival? = some n then
          Note.callbacks ((((start engine limit).run es).1).step e).2 else []) = [] := by
        split
        · rw [hnothing ‹_›]
          rfl
        · rfl
      rw [hcalls, List.append_nil]
      exact ⟨hget ▸ hstory, fun hle => hnone (hmono.trans hle)⟩
    · rw [if_pos habout]
      refine ⟨hgoes.story (ha ▸ hstory), fun hle => ?_⟩
      have hpast : n < ((start engine limit).run es).1.nextArrival :=
        (sound_run engine limit es).numbered n (mem_keys_of_get? ha)
      exact absurd (hmono.trans hle) hpast.not_ge
    · -- nobody was called about the number before it was given out, so the story starts here
      have hcalls := hnone hn.ge
      rw [habout, hcalls, if_neg (by simp), List.append_nil]
      exact ⟨hget ▸ .early port loop stage hstage, fun _ => rfl⟩

/-! ### Giving the permit back -/

/-- A step gives the permit of an accepted connection back, about which these calls were made, and
nobody else's, and for good. -/
structure GivesBack (g : Gate) (e : Event) (n : Nat) (a : Arrival) (calls : List Callback) :
    Prop where
  /-- The permit is free. -/
  free : (g.step e).1.free = g.free + 1
  /-- No listener is affected. -/
  listeners : (g.step e).1.listeners = g.listeners
  /-- No other connection is affected. -/
  others : ∀ m, m ≠ n → (g.step e).1.arrivals.get? m = g.arrivals.get? m
  /-- Either it never had a driver, or all calls about it were made before, the last one
  included. -/
  told : (calls = [] ∧ (a.stage = .moving ∨ a.stage = .preparing)) ∨
    ∃ d, a.stage = .driven d ∧ Note.callbacks (g.step e).2 = [] ∧
      Callback.Life (.accept d.id a.port) d.id true calls
  /-- It is gone, and nobody is called about it any more. -/
  gone : ∀ es, ((g.step e).1.run es).1.arrivals.get? n = none ∧ (g.step e).1.callsFor n es = []

/-- A connection that leaves the table gives its permit back. -/
lemma Sound.givesBack {limit : Nat} (h : g.Sound limit) {a : Arrival} {calls : List Callback}
    (story : Arrival.Story (some a) calls) {e : Event} (ha : g.arrivals.get? n = some a)
    (hgone : (g.step e).1.arrivals.get? n = none) : g.GivesBack e n a calls := by
  have hpast : n < (g.step e).1.nextArrival :=
    (h.numbered n (mem_keys_of_get? ha)).trans_le (g.nextArrival_step e)
  have hback := fun es => gone_run hgone hpast es
  have hmove := g.move_step e
  rcases hr : g.step e with ⟨g', notes⟩
  rw [hr] at hmove hgone
  cases hmove with
  | visit _ m b next _ about arrival goes =>
    rw [get?_settle] at hgone
    by_cases hm : n = m
    · subst hm
      have hnext : next = none := by simpa using hgone
      have hab : b = a := Option.some.inj (arrival.symm.trans ha)
      subst hnext hab
      refine ⟨by rw [hr]; rfl, by rw [hr]; rfl, fun m hm => ?_, ?_, hback⟩
      · rw [hr, get?_settle, if_neg hm]
      · rw [hr]
        exact goes.calls_before story
    · rw [if_neg hm, ha] at hgone
      cases hgone
  | letIn i l listener stage loop detached place early =>
    rw [get?_enter] at hgone
    split at hgone
    · cases hgone
    · cases ha.symm.trans hgone
  | _ => cases ha.symm.trans hgone

/-- How the loop of a connection stops: the service returns from the call that is under way, the
connection is dropped where it waits, and the service returns from the last call. -/
def stopping (n : Nat) : List Event :=
  [.drive n (.returned true), .dropArrival n, .drive n (.returned true)]

/-- What becomes of a driven connection. -/
lemma get?_drive {port : Port} {loop : EventLoop} {d : TcpDriver}
    (ha : g.arrivals.get? n = some ⟨port, loop, .driven d⟩) (e : TcpDriver.Event) :
    (g.drive n e).1.arrivals.get? n =
      if (d.step e).1.phase = .done then none else some ⟨port, loop, .driven (d.step e).1⟩ := by
  unfold drive
  rw [ha]
  dsimp only
  split
  · exact (get?_settle g n n none).trans (if_pos rfl)
  · exact (get?_settle g n n (some _)).trans (if_pos rfl)

/-- A driven connection is dropped, makes its last call, and is gone when the service returns. -/
lemma get?_dropped {port : Port} {loop : EventLoop} {d : TcpDriver}
    (ha : g.arrivals.get? n = some ⟨port, loop, .driven d⟩)
    (hlast : (d.step .abort).1.phase = .closing) :
    (g.run [.dropArrival n, .drive n (.returned true)]).1.arrivals.get? n = none := by
  have hdrop : g.dropArrival n = g.drive n .abort := by
    simp [dropArrival, ha]
  have hdropped := get?_drive ha .abort
  rw [if_neg (by simp [hlast])] at hdropped
  have hdone : ((d.step .abort).1.step (.returned true)).1.phase = .done := by
    rw [TcpDriver.step, TcpDriver.returned, hlast]
  have hreturned := get?_drive hdropped (.returned true)
  rw [if_pos hdone] at hreturned
  simpa [run, Noted.andThen, step, hdrop] using hreturned

/-- An event about a connection that is not there does nothing. -/
lemma step_of_gone (hgone : g.arrivals.get? n = none) {e : Event} (habout : e.arrival? = some n) :
    g.step e = (g, []) := by
  rcases g.get?_step e n with ⟨-, hnothing⟩ | ⟨a, -, ha, -⟩ | ⟨-, hno, -⟩
  · exact hnothing habout
  · cases hgone.symm.trans ha
  · cases hno.symm.trans habout

/-- So do several of them. -/
lemma run_of_gone (hgone : g.arrivals.get? n = none) (es : List Event)
    (habout : ∀ e ∈ es, e.arrival? = some n) : g.run es = (g, []) := by
  induction es with
  | nil => rfl
  | cons e es ih =>
    rw [run, step_of_gone hgone (habout e (by simp))]
    exact ih fun e' he' => habout e' (by simp [he'])

/-- Once its loop has stopped a connection is gone. -/
lemma get?_stopping {calls : List Callback} (story : Arrival.Story (g.arrivals.get? n) calls) :
    (g.run (stopping n)).1.arrivals.get? n = none := by
  have hrun : g.run (stopping n) =
      (g.step (.drive n (.returned true))).andThen fun g =>
        g.run [.dropArrival n, .drive n (.returned true)] := rfl
  cases ha : g.arrivals.get? n with
  | none =>
    rw [run_of_gone ha _ (by simp [stopping, Event.arrival?])]
    exact ha
  | some a =>
    rw [ha] at story
    cases story with
    | early port loop stage early =>
      have hstay : g.step (.drive n (.returned true)) = (g, []) := by
        rcases early with rfl | rfl <;> simp [step, drive, ha]
      have hdrop : (g.step (.dropArrival n)).1 = g.forget n := by
        rcases early with rfl | rfl <;> simp [step, dropArrival, ha]
      have hgone : (g.step (.dropArrival n)).1.arrivals.get? n = none := by
        rw [hdrop]
        exact (get?_settle g n n none).trans (if_pos rfl)
      have hlast := step_of_gone hgone (e := .drive n (.returned true)) rfl
      simpa [hrun, hstay, run, Noted.andThen, hlast] using hgone
    | driven port loop d _ coherent phase =>
      have hfirst := get?_drive ha (.returned true)
      by_cases hclosing : d.phase = .closing
      · -- the last call is under way: the first event ends it, and the other two find nothing
        have hdone : (d.step (.returned true)).1.phase = .done := by
          simp [TcpDriver.step, TcpDriver.returned, hclosing]
        rw [if_pos hdone] at hfirst
        have hrest := run_of_gone hfirst [.dropArrival n, .drive n (.returned true)]
          (by simp [Event.arrival?])
        exact (congrArg (·.1.arrivals.get? n) hrest).trans hfirst
      · have hwaits := d.waits_of_returned coherent.started phase hclosing
        have hgoes : (d.step (.returned true)).1.phase ≠ .done := by
          rcases hwaits with h | h | ⟨_, _, h⟩ | h | h <;> simp [h]
        rw [if_neg hgoes] at hfirst
        have hlast := d.step (.returned true) |>.1.closing_of_dropped hwaits
        exact get?_dropped hfirst hlast

/-! ### All permits -/

/-- Whatever happens to the listeners of a manager and to the connections they let in: the free
permits, those of the listeners and those of the accepted connections, which are counted once each,
make up the limit, so the connections do not exceed it.  The calls about a connection tell its
story, and it keeps its permit until they are complete; when it leaves it gives its permit back, and
that is the last of it.  It does leave when its loop stops. -/
theorem permits_conserved (engine : Engine) (limit : Nat) (es : List Event) :
    let g := ((start engine limit).run es).1
    let calls := fun n => (start engine limit).callsFor n es
    g.free + g.heldByListeners + g.heldByArrivals = limit ∧
      g.heldByArrivals ≤ limit ∧
      g.arrivals.keys.Nodup ∧
      (∀ n, Arrival.Story (g.arrivals.get? n) (calls n)) ∧
      (∀ e n a, g.arrivals.get? n = some a → (g.step e).1.arrivals.get? n = none →
        g.GivesBack e n a (calls n)) ∧
      ∀ n, (g.run (stopping n)).1.arrivals.get? n = none := by
  intro g calls
  have hsound : g.Sound limit := sound_run engine limit es
  have hstory : ∀ n, Arrival.Story (g.arrivals.get? n) (calls n) := fun n =>
    (story_run engine limit es n).1
  refine ⟨hsound.balance, ?_, hsound.arrivals, hstory, fun e n a ha hgone => ?_, fun n => ?_⟩
  · exact hsound.balance ▸ Nat.le_add_left _ _
  · exact hsound.givesBack (ha ▸ hstory n) ha hgone
  · exact get?_stopping (hstory n)

/-- Two listeners come, the first one lets a client in, and the service turns it away. -/
def turningAway : List Event :=
  [.join 80 ⟨0, 0⟩, .join 81 ⟨0, 0⟩, .grant, .accept 0 (some ⟨0, 0⟩) true,
    .openArrival 0 ⟨1⟩ (.ok ()) (.ok (⟨.loopback, 80⟩, ⟨.loopback, 4000⟩)),
    .drive 0 (.returned false)]

/-- With one permit the client has it until the service has returned from the last call. -/
theorem permits_conserved_turned_away :
    let g := ((start { loops := ⟨0⟩ } 1).run turningAway).1
    let calls := (start { loops := ⟨0⟩ } 1).callsFor 0 turningAway
    g.heldByArrivals = 1 ∧ g.free = 0 ∧ g.queue = [1, 0] ∧
      calls = [.accept ⟨1⟩ 80, .close ⟨1⟩ .closed] ∧
      ∃ a, g.arrivals.get? 0 = some a ∧ g.GivesBack (.drive 0 (.returned true)) 0 a calls := by
  have hthere : (((start { loops := ⟨0⟩ } 1).run turningAway).1.arrivals.get? 0).isSome = true := by
    decide +kernel
  have hgone : ((((start { loops := ⟨0⟩ } 1).run turningAway).1.step
      (.drive 0 (.returned true))).1.arrivals.get? 0).isNone = true := by
    decide +kernel
  obtain ⟨a, ha⟩ := Option.isSome_iff_exists.mp hthere
  obtain ⟨-, -, -, -, hback, -⟩ := permits_conserved { loops := ⟨0⟩ } 1 turningAway
  exact ⟨by decide +kernel, by decide +kernel, by decide +kernel, by decide +kernel, a, ha,
    hback _ 0 a ha (Option.isNone_iff_eq_none.mp hgone)⟩

end Gate

end Tcp

end Switchboard
