import Mathlib.Tactic.Common
import Switchboard.Proofs.Tcp.Coherence
import Switchboard.Tcp.Gate

/-!
# The moves of a gate

`Gate.step` answers any event at any time.  Most answers are "nothing"; `Gate.Move` lists all
others, one rule for each thing that a listener can do, and one for whatever happens to an accepted
connection.  What that can be is listed by `Arrival.Goes`: the connection is taken over by its loop,
is given a driver, is driven on, or lets go of its permit.  `Gate.move_step` says that the list is
complete.

Moving one listener on, or one connection, leaves all others alone; the lemmas in front say so.
-/

namespace Switchboard.Tcp

namespace Gate

variable {g : Gate} {i j n : Nat}

/-! ### Listeners and connections one by one -/

/-- The listener that is moved on is at its new stage, and the others are where they were. -/
lemma getElem?_setStage (g : Gate) (i j : Nat) (stage : ListenerStage) :
    (g.setStage i stage).listeners[j]? =
      if i = j then (g.listeners[j]?).map fun l => { l with stage } else g.listeners[j]? := by
  rw [setStage, List.getElem?_modify]
  by_cases h : i = j
  · simp [h]
  · simp [h]

/-- The permit of a listener is counted as long as it accepts. -/
lemma heldByListeners_setStage {l : Listener} (hl : g.listeners[i]? = some l)
    (stage : ListenerStage) :
    (g.setStage i stage).heldByListeners + (if l.stage = .accepting then 1 else 0) =
      g.heldByListeners + if stage = .accepting then 1 else 0 := by
  obtain ⟨hi, rfl⟩ := List.getElem?_eq_some_iff.mp hl
  have hset : (g.setStage i stage).listeners =
      g.listeners.set i { g.listeners[i] with stage } := by
    rw [setStage, List.modify_eq_set_getElem?, hl]
    rfl
  have hmem : g.listeners[i].stage = .accepting →
      0 < g.listeners.countP (·.stage = .accepting) := fun hstage =>
    List.countP_pos_iff.mpr ⟨_, List.getElem_mem hi, by simpa using hstage⟩
  rw [heldByListeners, heldByListeners, hset, List.countP_set hi]
  by_cases hold : g.listeners[i].stage = .accepting
  · have hpos := hmem hold
    simp only [hold, decide_true, if_true, decide_eq_true_eq]
    omega
  · simp [hold]

/-- A connection that comes in has the next number, and the others are where they were. -/
lemma get?_enter (g : Gate) (a : Arrival) (n : Nat) :
    (g.enter a).arrivals.get? n = if n = g.nextArrival then some a else g.arrivals.get? n :=
  Table.get?_put _ _ _ _

/-- An accepted connection as far as it goes: it is kept, or it is let go of with its permit. -/
def settle (g : Gate) (n : Nat) : Option Arrival → Gate
  | some a => { g with arrivals := g.arrivals.put n a }
  | none => g.forget n

@[simp] lemma nextArrival_settle (g : Gate) (n : Nat) (next : Option Arrival) :
    (g.settle n next).nextArrival = g.nextArrival := by
  cases next <;> rfl

/-- The connection is where it went, and the others are where they were. -/
lemma get?_settle (g : Gate) (n m : Nat) (next : Option Arrival) :
    (g.settle n next).arrivals.get? m = if m = n then next else g.arrivals.get? m := by
  cases next with
  | some a => exact Table.get?_put _ _ _ _
  | none => exact Table.get?_erase _ _ _

end Gate

/-! ### What happens to an accepted connection -/

/-- What can happen to an accepted connection, with what is noted of it. -/
inductive Arrival.Goes : Arrival → Option Arrival → List Note → Prop where
  /-- Its loop takes it over. -/
  | taken (port : Port) (loop : EventLoop) :
      Goes ⟨port, loop, .moving⟩ (some ⟨port, loop, .preparing⟩) []
  /-- It is lost on its way, of which nobody is told unless its handshake failed. -/
  | lost (port : Port) (loop : EventLoop) (stage : ArrivalStage) (notes : List Note)
      (early : stage = .moving ∨ stage = .preparing)
      (calls : Note.callbacks notes = [] ∨
        ∃ code message, Note.callbacks notes = [.error "connection" "handshake" code message]) :
      Goes ⟨port, loop, stage⟩ none notes
  /-- It is given a driver, which announces it. -/
  | announced (port : Port) (loop : EventLoop) (d : TcpDriver) (notes : List Note)
      (coherent : d.Coherent) (phase : d.phase = .opening)
      (calls : Note.callbacks notes = [.accept d.id port]) :
      Goes ⟨port, loop, .preparing⟩ (some ⟨port, loop, .driven d⟩) notes
  /-- Something happens to its driver, which goes on. -/
  | driven (port : Port) (loop : EventLoop) (d : TcpDriver) (e : TcpDriver.Event)
      (phase : (d.step e).1.phase ≠ .done) :
      Goes ⟨port, loop, .driven d⟩ (some ⟨port, loop, .driven (d.step e).1⟩) (d.step e).2
  /-- Its driver is done. -/
  | parted (port : Port) (loop : EventLoop) (d : TcpDriver) (e : TcpDriver.Event)
      (phase : (d.step e).1.phase = .done) :
      Goes ⟨port, loop, .driven d⟩ none (d.step e).2

namespace Gate

variable {g : Gate} {i n : Nat}

/-- The accepted connection that an event is about. -/
def Event.arrival? : Event → Option Nat
  | .arrive n _ | .openArrival n _ _ _ | .drive n _ | .dropArrival n => some n
  | _ => none

/-! ### The rules -/

/-- What a gate can do on an event. -/
inductive Move (g : Gate) : Event → Noted Gate → Prop where
  /-- Nothing happens. -/
  | stay (e : Event) : Move g e (g, [])
  /-- A listener joins. -/
  | join (port : Port) (loop : EventLoop) : Move g (.join port loop) (g.join port loop, [])
  /-- The listener that has waited longest is given a permit. -/
  | grant (free i : Nat) (rest : List Nat) (some : g.free = free + 1)
      (queue : g.queue = i :: rest) :
      Move g .grant (({ g with free, queue := rest } : Gate).setStage i .accepting, [])
  /-- A listener accepts and has no loop to send the connection to. -/
  | quit (i : Nat) (l : Listener) (listener : g.listeners[i]? = some l)
      (stage : l.stage = .accepting) (detached : Bool) :
      Move g (.accept i none detached) ((g.setStage i .ended).release, [])
  /-- A listener accepts and asks for its next permit; the connection has the one it had. -/
  | letIn (i : Nat) (l : Listener) (listener : g.listeners[i]? = some l)
      (stage : l.stage = .accepting) (loop : EventLoop) (detached : Bool) (place : ArrivalStage)
      (early : place = .moving ∨ place = .preparing) :
      Move g (.accept i (some loop) detached) ((g.ask i).enter ⟨l.port, loop, place⟩, [])
  /-- A listener accepts, but the connection does not come off its loop. -/
  | bounce (i : Nat) (l : Listener) (listener : g.listeners[i]? = some l)
      (stage : l.stage = .accepting) (loop : EventLoop) :
      Move g (.accept i (some loop) false) ((g.ask i).release, [])
  /-- A listener fails to accept. -/
  | pause (i : Nat) (l : Listener) (listener : g.listeners[i]? = some l)
      (stage : l.stage = .accepting) (e : SystemError) :
      Move g (.acceptFailed i e) ((g.setStage i .pausing).release,
        [.callback (.error "acceptor" "accept" e.code e.message)])
  /-- A pause is over. -/
  | resume (i : Nat) (l : Listener) (listener : g.listeners[i]? = some l)
      (stage : l.stage = .pausing) : Move g (.resume i) (g.ask i, [])
  /-- A listener with a permit is dropped. -/
  | dropHolder (i : Nat) (l : Listener) (listener : g.listeners[i]? = some l)
      (stage : l.stage = .accepting) :
      Move g (.dropListener i)
        (({ g.setStage i .ended with queue := g.queue.filter (· ≠ i) } : Gate).release, [])
  /-- A listener without a permit is dropped. -/
  | dropOther (i : Nat) (l : Listener) (listener : g.listeners[i]? = some l)
      (stage : l.stage ≠ .accepting) :
      Move g (.dropListener i)
        ({ g.setStage i .ended with queue := g.queue.filter (· ≠ i) }, [])
  /-- Something happens to an accepted connection. -/
  | visit (e : Event) (n : Nat) (a : Arrival) (next : Option Arrival) (notes : List Note)
      (about : e.arrival? = some n) (arrival : g.arrivals.get? n = some a)
      (goes : a.Goes next notes) : Move g e (g.settle n next, notes)

/-! ### The list is complete -/

lemma move_grant (g : Gate) : g.Move .grant (g.grant, []) := by
  unfold grant
  split
  · exact .grant _ _ _ ‹_› ‹_›
  · exact .stay _

lemma move_accept (g : Gate) (i : Nat) (target : Option EventLoop) (detached : Bool) :
    g.Move (.accept i target detached) (g.accept i target detached, []) := by
  unfold accept
  split
  · exact .stay _
  · rename_i l listener
    split
    · rename_i stage
      cases target with
      | none => exact .quit i l listener stage detached
      | some loop =>
        dsimp only
        split
        · exact .letIn i l listener stage loop detached .preparing (.inr rfl)
        · cases detached with
          | true => exact .letIn i l listener stage loop true .moving (.inl rfl)
          | false => exact .bounce i l listener stage loop
    · exact .stay _

lemma move_acceptFailed (g : Gate) (i : Nat) (e : SystemError) :
    g.Move (.acceptFailed i e) (g.acceptFailed i e) := by
  unfold acceptFailed
  split
  · exact .stay _
  · split
    · exact .pause i _ ‹_› ‹_› e
    · exact .stay _

lemma move_resume (g : Gate) (i : Nat) : g.Move (.resume i) (g.resume i, []) := by
  unfold resume
  split
  · exact .stay _
  · split
    · exact .resume i _ ‹_› ‹_›
    · exact .stay _

lemma move_dropListener (g : Gate) (i : Nat) :
    g.Move (.dropListener i) (g.dropListener i, []) := by
  unfold dropListener
  split
  · exact .stay _
  · dsimp only
    split
    · exact .dropHolder i _ ‹_› ‹_›
    · exact .dropOther i _ ‹_› ‹_›

lemma move_arrive (g : Gate) (n : Nat) (registered : Bool) :
    g.Move (.arrive n registered) (g.arrive n registered, []) := by
  unfold arrive
  split
  · rename_i port loop arrival
    cases registered with
    | true => exact .visit _ n _ (some ⟨port, loop, .preparing⟩) [] rfl arrival (.taken port loop)
    | false =>
      exact .visit _ n _ none [] rfl arrival (.lost port loop .moving [] (.inl rfl) (.inl rfl))
  · exact .stay _

/-- A driver that was just started is coherent, and the connection is announced. -/
lemma goes_runConnection (engine : Engine) (id : ConnectionId) (encrypted : Bool)
    (ends : Except SystemError (Endpoint × Endpoint)) (port : Port) (loop : EventLoop) :
    Arrival.Goes ⟨port, loop, .preparing⟩
      ((engine.runConnection id .anonymous encrypted ends (.accepted port)).1.map fun d =>
        ⟨port, loop, .driven d⟩)
      (engine.runConnection id .anonymous encrypted ends (.accepted port)).2 := by
  cases ends with
  | error e => exact .lost port loop .preparing [] (.inr rfl) (.inl rfl)
  | ok ends =>
    exact .announced port loop _ _ (.ofActive (by simp) rfl ⟨rfl, rfl, rfl⟩) rfl
      rfl

lemma move_openArrival (g : Gate) (n : Nat) (id : ConnectionId)
    (handshake : Except SystemError Unit) (ends : Except SystemError (Endpoint × Endpoint)) :
    g.Move (.openArrival n id handshake ends) (g.openArrival n id handshake ends) := by
  unfold openArrival
  split
  · rename_i port loop arrival
    have hlost {encrypted : Bool} {notes : List Note}
        (h : g.engine.runConnection id .anonymous encrypted ends (.accepted port) = (none, notes)) :
        g.Move (.openArrival n id handshake ends) (g.forget n, notes) := by
      have hgoes := goes_runConnection g.engine id encrypted ends port loop
      rw [h] at hgoes
      exact .visit _ n _ none notes rfl arrival hgoes
    have hdriven {encrypted : Bool} {driver : TcpDriver} {notes : List Note}
        (h : g.engine.runConnection id .anonymous encrypted ends (.accepted port) =
          (some driver, notes)) :
        g.Move (.openArrival n id handshake ends)
          ({ g with arrivals := g.arrivals.put n ⟨port, loop, .driven driver⟩ }, notes) := by
      have hgoes := goes_runConnection g.engine id encrypted ends port loop
      rw [h] at hgoes
      exact .visit _ n _ (some ⟨port, loop, .driven driver⟩) notes rfl arrival hgoes
    cases hacceptor : g.engine.acceptor with
    | none =>
      dsimp only
      split
      · exact hlost ‹_›
      · exact hdriven ‹_›
    | some material =>
      cases handshake with
      | ok =>
        dsimp only
        split
        · exact hlost ‹_›
        · exact hdriven ‹_›
      | error e =>
        exact .visit _ n _ none _ rfl arrival
          (.lost port loop .preparing _ (.inr rfl) (.inr ⟨e.code, e.message, rfl⟩))
  · exact .stay _

/-- Something happens to a driver, also if it is its end. -/
lemma move_drive {port : Port} {loop : EventLoop} {d : TcpDriver} {e : Event}
    (about : e.arrival? = some n) (arrival : g.arrivals.get? n = some ⟨port, loop, .driven d⟩)
    (f : TcpDriver.Event) : g.Move e (g.drive n f) := by
  unfold drive
  rw [arrival]
  dsimp only
  split
  · rename_i hdone
    exact .visit e n _ none _ about arrival (.parted port loop d f hdone)
  · rename_i hgoes
    exact .visit e n _ (some ⟨port, loop, .driven (d.step f).1⟩) _ about arrival
      (.driven port loop d f hgoes)

lemma move_dropArrival (g : Gate) (n : Nat) : g.Move (.dropArrival n) (g.dropArrival n) := by
  unfold dropArrival
  split
  · exact .stay _
  · exact move_drive rfl ‹_› .abort
  · rename_i a hdriven arrival
    obtain ⟨port, loop, _ | _ | d⟩ := a
    · exact .visit _ n _ none [] rfl arrival (.lost port loop .moving [] (.inl rfl) (.inl rfl))
    · exact .visit _ n _ none [] rfl arrival (.lost port loop .preparing [] (.inr rfl) (.inl rfl))
    · exact absurd rfl (hdriven port loop d)

/-- Every step is one of the moves. -/
theorem move_step (g : Gate) (e : Event) : g.Move e (g.step e) := by
  cases e with
  | join port loop => exact .join port loop
  | grant => exact g.move_grant
  | accept i target detached => exact g.move_accept i target detached
  | acceptFailed i e => exact g.move_acceptFailed i e
  | resume i => exact g.move_resume i
  | arrive n registered => exact g.move_arrive n registered
  | openArrival n id handshake ends => exact g.move_openArrival n id handshake ends
  | drive n e =>
    cases harrival : g.arrivals.get? n with
    | none =>
      have hnone : g.step (.drive n e) = (g, []) := by simp [step, drive, harrival]
      exact hnone ▸ .stay _
    | some a =>
      obtain ⟨port, loop, _ | _ | d⟩ := a
      · have hnone : g.step (.drive n e) = (g, []) := by simp [step, drive, harrival]
        exact hnone ▸ .stay _
      · have hnone : g.step (.drive n e) = (g, []) := by simp [step, drive, harrival]
        exact hnone ▸ .stay _
      · exact move_drive rfl harrival e
  | dropListener i => exact g.move_dropListener i
  | dropArrival n => exact g.move_dropArrival n

end Gate

end Switchboard.Tcp
