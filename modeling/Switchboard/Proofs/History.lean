import Mathlib.Data.List.Infix
import Mathlib.Tactic.Common
import Switchboard.Connection.Note

/-!
# Histories of runs

Every machine of the library has a `step`, which answers an event with a state and some notes, and a
`run`, which does this event after event and adds the notes up.  `Noted.iterate` is that fold for
any step.  A machine shows once that its `run` is an instance, and then has what is proved here: a
run goes on where another one stopped (`Noted.iterate_append`), its last event comes last
(`Noted.iterate_concat`), and what one step preserves holds along every run
(`Noted.iterate_induction`).  `Noted.gather` lists what single steps are about, over a whole run.

The second half reads histories.  Data passes from hand to hand, and `Note.data` lists what passed
one hand of one connection; `Note.stream` is the same with the borders of the chunks forgotten.
`Note.own` is the part of a history that is about one connection, which all of this is read off.
`Note.reports` lists what the service is told of failures of one kind.
-/

namespace Switchboard

namespace Noted

variable {σ ε : Type}

/-- Where nothing was noted so far, what follows is all there is. -/
@[simp] lemma andThen_of_quiet {τ : Type} (s : σ) (f : σ → Noted τ) :
    Noted.andThen (s, []) f = f s := rfl

/-- What a sequence of events does, given what one event does. -/
def iterate (step : σ → ε → Noted σ) (s : σ) : List ε → Noted σ
  | [] => (s, [])
  | e :: es => (step s e).andThen fun s => iterate step s es

@[simp] lemma iterate_nil (step : σ → ε → Noted σ) (s : σ) : iterate step s [] = (s, []) := rfl

/-- A run over two sequences is the run over the first, gone on with the second. -/
lemma iterate_append (step : σ → ε → Noted σ) (s : σ) (es fs : List ε) :
    iterate step s (es ++ fs) = (iterate step s es).andThen fun s => iterate step s fs := by
  induction es generalizing s with
  | nil => simp [Noted.andThen]
  | cons e es ih =>
    have h := ih (step s e).1
    simp only [List.cons_append, iterate, Noted.andThen] at h ⊢
    rw [h, List.append_assoc]

/-- The state and the history after one more event. -/
lemma iterate_concat (step : σ → ε → Noted σ) (s : σ) (es : List ε) (e : ε) :
    iterate step s (es ++ [e]) =
      ((step (iterate step s es).1 e).1,
        (iterate step s es).2 ++ (step (iterate step s es).1 e).2) := by
  rw [iterate_append]
  simp [Noted.andThen, iterate]

/-- What holds at the start of a run and is preserved by every further event holds at each of its
moments.  The property may speak of the events so far and of their history. -/
lemma iterate_induction {step : σ → ε → Noted σ} {s : σ} {motive : List ε → σ → List Note → Prop}
    (start : motive [] s [])
    (next : ∀ es e, motive es (iterate step s es).1 (iterate step s es).2 →
      motive (es ++ [e]) (step (iterate step s es).1 e).1
        ((iterate step s es).2 ++ (step (iterate step s es).1 e).2))
    (es : List ε) : motive es (iterate step s es).1 (iterate step s es).2 := by
  induction es using List.reverseRecOn with
  | nil => exact start
  | append_singleton es e ih =>
    rw [iterate_concat]
    exact next es e ih

/-- What is picked from the steps of a run, in order, given what is picked from one of them. -/
def gather {β : Type} (step : σ → ε → Noted σ) (pick : σ → ε → Option β) (s : σ) : List ε → List β
  | [] => []
  | e :: es => (pick s e).toList ++ gather step pick (step s e).1 es

/-- What is picked from the last step comes last. -/
lemma gather_concat {β : Type} (step : σ → ε → Noted σ) (pick : σ → ε → Option β) (s : σ)
    (es : List ε) (e : ε) : gather step pick s (es ++ [e]) =
      gather step pick s es ++ (pick (iterate step s es).1 e).toList := by
  induction es generalizing s with
  | nil => simp [gather]
  | cons e' es ih => simp [gather, iterate, Noted.andThen, ih]

end Noted

/-- The hands that data passes through between a service and the network. -/
inductive Hand where
  /-- It was accepted for sending. -/
  | posted
  /-- It came in from the network. -/
  | arrived
  /-- The service removed it. -/
  | removed
  /-- It joined the queue of what is to be sent. -/
  | queued
  /-- The network took it over. -/
  | left
  /-- It could not be sent and is gone. -/
  | lost
  deriving DecidableEq, Repr

namespace Note

/-- The hand that the data of a note passed, whose data it is, and the data. -/
@[simp] def passage? : Note → Option (Hand × ConnectionId × Bytes)
  | posted id data => some (.posted, id, data)
  | arrived id data => some (.arrived, id, data)
  | removed id data => some (.removed, id, data)
  | queued id data => some (.queued, id, data)
  | left id data => some (.left, id, data)
  | lost id data => some (.lost, id, data)
  | callback _ | measured _ | tracked _ | released => none

/-- The data of a connection that a note reports to have passed a hand. -/
def datum? (hand : Hand) (id : ConnectionId) (n : Note) : Option Bytes :=
  match n.passage? with
  | some (hand', id', data) => if hand' = hand ∧ id' = id then some data else none
  | none => none

/-- The data of a connection that passed a hand over a history, in order. -/
def data (hand : Hand) (id : ConnectionId) (history : List Note) : List Bytes :=
  history.filterMap (datum? hand id)

/-- The data of a connection that passed a hand over a history, in one piece. -/
def stream (hand : Hand) (id : ConnectionId) (history : List Note) : Bytes :=
  (data hand id history).flatten

variable (hand : Hand) (id : ConnectionId)

@[simp] lemma data_nil : data hand id [] = [] := rfl

@[simp] lemma data_append (h k : List Note) :
    data hand id (h ++ k) = data hand id h ++ data hand id k := by
  simp [data]

lemma data_cons (n : Note) (h : List Note) :
    data hand id (n :: h) = (datum? hand id n).toList ++ data hand id h := by
  cases hn : datum? hand id n <;> simp [data, hn]

@[simp] lemma stream_nil : stream hand id [] = [] := rfl

@[simp] lemma stream_append (h k : List Note) :
    stream hand id (h ++ k) = stream hand id h ++ stream hand id k := by
  simp [stream]

lemma stream_of_data_eq_nil {hand : Hand} {id : ConnectionId} {h : List Note}
    (hnone : data hand id h = []) : stream hand id h = [] := by
  rw [stream, hnone, List.flatten_nil]

/-- Nothing of a connection passes a hand in a history of which no note says so. -/
lemma data_eq_nil {h : List Note} (hn : ∀ n ∈ h, datum? hand id n = none) :
    data hand id h = [] := by
  simpa [data, List.filterMap_eq_nil_iff] using hn

@[simp] lemma callbacks_nil : callbacks [] = [] := rfl

@[simp] lemma callbacks_append (h k : List Note) :
    callbacks (h ++ k) = callbacks h ++ callbacks k := by
  simp [callbacks]

lemma mem_callbacks {call : Callback} {h : List Note} :
    call ∈ callbacks h ↔ .callback call ∈ h := by
  constructor
  · intro hcall
    obtain ⟨n, hn, hsome⟩ := List.mem_filterMap.mp hcall
    cases n <;> simp_all
  · intro hcall
    exact List.mem_filterMap.mpr ⟨_, hcall, rfl⟩

end Note

/-- Whether a call tells of a failure of some kind. -/
def Callback.isReport (operation action : String) : Callback → Bool
  | error operation' action' _ _ => operation' == operation && action' == action
  | _ => false

namespace Note

/-- What the service is told of failures of some kind, in order. -/
def reports (operation action : String) (history : List Note) : List Callback :=
  (callbacks history).filter (Callback.isReport operation action)

variable {operation action : String}

@[simp] lemma reports_append (h k : List Note) :
    reports operation action (h ++ k) =
      reports operation action h ++ reports operation action k := by
  simp [reports]

/-- Failures of another kind are not counted. -/
lemma reports_eq_nil {history : List Note}
    (h : ∀ call ∈ callbacks history, call.isReport operation action = false) :
    reports operation action history = [] := by
  simpa [reports] using h

/-- Failures that are told of one by one are the reports. -/
lemma reports_map {α : Type} (code : α → Nat) (message : α → String) (failures : List α) :
    reports operation action
        (failures.map fun a => .callback (.error operation action (code a) (message a))) =
      failures.map fun a => .error operation action (code a) (message a) := by
  induction failures with
  | nil => rfl
  | cons a rest ih =>
    rw [List.map_cons, ← List.singleton_append, reports_append, ih]
    simp [reports, callbacks, Callback.isReport]

end Note

/-- The connection that a call is about. -/
def Callback.connection? : Callback → Option ConnectionId
  | accept id _ | receive id | sent id | close id _ => some id
  | connect id _ => id
  | error .. => none

/-- A call that tells the service of a connection about received or sent data. -/
def Callback.tells (id : ConnectionId) (call : Callback) : Prop :=
  call = .receive id ∨ call = .sent id

/-- The calls about a connection in order: it is opened, its service is told of received and sent
data any number of times, and if it is over the last call says so. -/
def Callback.Life (opening : Callback) (id : ConnectionId) (closed : Bool) (calls : List Callback) :
    Prop :=
  ∃ told, (∀ call ∈ told, tells id call) ∧
    calls = opening :: told ++ if closed then [.close id .closed] else []

namespace Callback.Life

variable {opening : Callback} {id : ConnectionId} {closed : Bool} {calls : List Callback}

/-- A connection that was just opened. -/
lemma start : Life opening id false [opening] := ⟨[], by simp, rfl⟩

/-- The service of a connection that is not over may be told of data. -/
lemma tell (life : Life opening id false calls) {call : Callback} (htells : tells id call) :
    Life opening id false (calls ++ [call]) := by
  obtain ⟨told, htold, rfl⟩ := life
  refine ⟨told ++ [call], fun call' hcall' => ?_, by simp⟩
  rcases List.mem_append.mp hcall' with hcall' | hcall'
  · exact htold call' hcall'
  · rwa [List.mem_singleton.mp hcall']

/-- A connection that is not over may be ended. -/
lemma stop (life : Life opening id false calls) :
    Life opening id true (calls ++ [.close id .closed]) := by
  obtain ⟨told, htold, rfl⟩ := life
  exact ⟨told, htold, by simp⟩

end Callback.Life

namespace Note

/-- The connection that a note is about. -/
def owner? : Note → Option ConnectionId
  | callback call => call.connection?
  | posted id _ | arrived id _ | removed id _ | queued id _ | left id _ | lost id _ => some id
  | measured _ | tracked _ | released => none

/-- The part of a history that is about a connection. -/
def own (id : ConnectionId) (history : List Note) : List Note :=
  history.filter fun n => n.owner? = some id

variable (id : ConnectionId)

@[simp] lemma own_nil : own id [] = [] := rfl

@[simp] lemma own_append (h k : List Note) : own id (h ++ k) = own id h ++ own id k := by
  simp [own]

/-- A history of which no note is about a connection tells nothing of it. -/
lemma own_eq_nil {h : List Note} (hn : ∀ n ∈ h, n.owner? ≠ some id) : own id h = [] := by
  simpa [own, List.filter_eq_nil_iff] using hn

/-- Nothing passes a hand in a history that is about no connection. -/
lemma data_of_silent (hand : Hand) {h : List Note} (hn : ∀ n ∈ h, n.owner? = none) :
    data hand id h = [] := by
  refine data_eq_nil hand id fun n hmem => ?_
  have howner := hn n hmem
  cases n <;> simp_all [datum?, owner?]

/-- What passes a hand is read off the notes about its connection. -/
lemma data_own (hand : Hand) (h : List Note) : data hand id (own id h) = data hand id h := by
  rw [data, own, List.filterMap_filter, data]
  refine List.filterMap_congr fun n _ => ?_
  split
  · rfl
  · rename_i howner
    cases n <;> simp_all [datum?, owner?]

/-- The same holds for it in one piece. -/
lemma stream_own (hand : Hand) (h : List Note) : stream hand id (own id h) = stream hand id h := by
  rw [stream, data_own, stream]

/-- The calls about a connection among those of a history. -/
lemma callbacks_own (h : List Note) :
    callbacks (own id h) = (callbacks h).filter fun call => call.connection? = some id := by
  rw [callbacks, own, List.filterMap_filter, callbacks, List.filter_filterMap]
  refine List.filterMap_congr fun n _ => ?_
  cases n with
  | callback call =>
    by_cases howner : call.connection? = some id <;> simp [owner?, howner, Option.filter]
  | _ => simp

/-- The same holds for its calls. -/
lemma mem_callbacks_own {call : Callback} (hcall : call.connection? = some id) (h : List Note) :
    call ∈ callbacks (own id h) ↔ call ∈ callbacks h := by
  simp [mem_callbacks, own, owner?, hcall]

end Note

end Switchboard
