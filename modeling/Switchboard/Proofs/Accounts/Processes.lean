import Switchboard.Proofs.Accounts.Datagrams
import Switchboard.Proofs.Accounts.Streams

/-!
# A process and its managers

A process has a stream manager and a datagram manager.  What they have running, over all their
starts, are tasks: gates, acceptors, and the drivers of outbound connections.  Tasks take steps in
any order, come in when a manager starts or is asked for a connection, and are dropped by their
loops where they wait.  A `Process` is its tasks, and a run of it leaves a history of both managers.

Each task keeps its accounts (`Task.Kept.step`).  A step of a process is one of tasks of one manager
(`Process.Keeps`), so all tasks together keep the accounts of both managers, over every run
(`Process.kept_run`).
-/

namespace Switchboard

/-! ### Tasks -/

/-- What a manager has running. -/
inductive Task where
  /-- The listeners of a stream manager, with the connections they let in. -/
  | gate (g : Tcp.Gate)
  /-- An outbound stream connection. -/
  | stream (d : TcpDriver)
  /-- An acceptor of a datagram manager. -/
  | acceptor (a : Acceptor)
  /-- An outbound datagram connection. -/
  | datagram (d : UdpDriver)

namespace Task

/-- What can happen to a task. -/
inductive Event where
  /-- To a gate. -/
  | gate (e : Tcp.Gate.Event)
  /-- To an outbound stream connection. -/
  | stream (e : TcpDriver.Event)
  /-- To an acceptor. -/
  | acceptor (e : Acceptor.Event)
  /-- To an outbound datagram connection. -/
  | datagram (e : UdpDriver.Event)

/-- What an event does; events of other tasks do nothing. -/
def step : Task → Event → Noted Task
  | gate g, .gate e => (gate (g.step e).1, (g.step e).2)
  | stream d, .stream e => (stream (d.step e).1, (d.step e).2)
  | acceptor a, .acceptor e => (acceptor (a.step e).1, (a.step e).2)
  | datagram d, .datagram e => (datagram (d.step e).1, (d.step e).2)
  | t, _ => (t, [])

/-- The manager that has the task running. -/
def side : Task → Side
  | gate _ | stream _ => .stream
  | acceptor _ | datagram _ => .datagram

/-- What a task counts for. -/
def census : Task → Account → Int
  | gate g => g.census
  | stream d => d.census
  | acceptor a => a.census
  | datagram d => d.census

/-- What has to hold of a task that keeps its accounts. -/
def Kept : Task → Prop
  | gate g => g.Kept
  | stream d => d.Coherent
  | acceptor a => a.Sound ∧ a.Orderly
  | datagram d => d.Coherent

/-- A task goes on as it should and keeps its accounts. -/
lemma Kept.step {t : Task} (h : t.Kept) (e : Event) :
    (t.step e).1.Kept ∧ (t.step e).1.side = t.side ∧
      Booked t.census (t.step e).1.census (t.step e).2 := by
  have hstay : t.Kept ∧ t.side = t.side ∧ Booked t.census t.census [] :=
    ⟨h, rfl, .ofNeutral (fun _ => rfl) rfl⟩
  cases t with
  | gate g =>
    cases e with
    | gate e => exact ⟨Tcp.Gate.Kept.step h e, rfl, Tcp.Gate.Kept.booked_step h e⟩
    | _ => exact hstay
  | stream d =>
    cases e with
    | stream e =>
      exact ⟨TcpDriver.coherent_step h e, rfl,
        TcpDriver.booked_step (TcpDriver.Coherent.started h) e⟩
    | _ => exact hstay
  | acceptor a =>
    obtain ⟨hsound, horderly⟩ := h
    cases e with
    | acceptor e =>
      exact ⟨⟨Acceptor.sound_step hsound e, horderly.step hsound e⟩, rfl,
        Acceptor.booked_step hsound horderly e⟩
    | _ => exact hstay
  | datagram d =>
    cases e with
    | datagram e =>
      exact ⟨UdpDriver.Coherent.step h e, rfl,
        UdpDriver.booked_step (UdpDriver.Coherent.started h) e⟩
    | _ => exact hstay

/-- No task counts for less than nothing. -/
lemma census_live_nonneg (t : Task) : 0 ≤ t.census .live := by
  have hstream (d : TcpDriver) : 0 ≤ d.census .live := by
    simp only [TcpDriver.census]
    split <;> decide
  cases t with
  | gate g =>
    refine Account.total_nonneg fun a => ?_
    obtain ⟨port, loop, _ | _ | d⟩ := a
    · exact Int.le_refl 0
    · exact Int.le_refl 0
    · exact hstream d
  | stream d => exact hstream d
  | acceptor a =>
    have hpeers := Int.natCast_nonneg a.peers.length
    simp only [census, Acceptor.census]
    split <;> omega
  | datagram d =>
    simp only [census, UdpDriver.census]
    split <;> decide

end Task

/-! ### Runs -/

/-- A process that runs a stream manager and a datagram manager. -/
structure Process where
  /-- What the managers have running, in the order in which it came in. -/
  tasks : List Task := []

namespace Process

/-- What can happen in a process. -/
inductive Event where
  /-- A stream manager starts, and its listeners are to share so many permits. -/
  | listen (engine : Tcp.Engine) (limit : Nat)
  /-- A datagram manager starts an acceptor. -/
  | bind (host : Endpoint) (maxDatagram : Nat) (nextId : ConnectionId)
  /-- The stream manager is asked for an outbound connection, whether it runs or not. -/
  | connectStream (m : Tcp.Manager) (journey : Tcp.Journey) (id : ConnectionId)
      (request : Connect.Request)
  /-- The datagram manager is asked for one. -/
  | connectDatagram (m : Udp.Manager) (journey : Udp.Journey) (id : ConnectionId)
      (request : Connect.Request)
  /-- Something happens to a task. -/
  | task (i : Nat) (e : Task.Event)

/-- Takes tasks in. -/
def enter (x : Process) (tasks : List Task) : Process := ⟨x.tasks ++ tasks⟩

/-- The notes of a manager as entries. -/
def entries (side : Side) (notes : List Note) : List Entry := notes.map fun n => (side, n)

/-- What an event does, and what is noted of it. -/
def step (x : Process) : Event → Process × List Entry
  | .listen engine limit => (x.enter [.gate (.start engine limit)], [])
  | .bind host maxDatagram nextId => (x.enter [.acceptor (.bind host maxDatagram nextId)], [])
  | .connectStream m journey id request =>
    let outcome := (m.createConnection journey id request).1
    (x.enter (outcome.passage.driver.toList.map .stream), entries .stream outcome.notes)
  | .connectDatagram m journey id request =>
    let outcome := (m.createConnection journey id request).1
    (x.enter (outcome.passage.driver.toList.map .datagram), entries .datagram outcome.notes)
  | .task i e =>
    match x.tasks[i]? with
    | none => (x, [])
    | some t => (⟨x.tasks.set i (t.step e).1⟩, entries t.side (t.step e).2)

/-- What a sequence of events does. -/
def run (x : Process) : List Event → Process × List Entry
  | [] => (x, [])
  | e :: es =>
    let (next, notes) := x.step e
    let (last, more) := next.run es
    (last, notes ++ more)

/-- The process and its history after one more event. -/
lemma run_concat (x : Process) (es : List Event) (e : Event) :
    x.run (es ++ [e]) =
      (((x.run es).1.step e).1, (x.run es).2 ++ ((x.run es).1.step e).2) := by
  induction es generalizing x with
  | nil => simp [run]
  | cons e' es ih =>
    have hrest := ih (x.step e').1
    rw [List.cons_append, run, run]
    simp only [hrest, List.append_assoc]

/-! ### Steps keep the accounts -/

/-- What the tasks of a manager count for. -/
def census (x : Process) (side : Side) : Account → Int :=
  Account.total (fun t => if t.side = side then t.census else fun _ => 0) x.tasks

/-- What holds of a process and its history. -/
structure Kept (x : Process) (history : List Entry) : Prop where
  /-- Its tasks are as they should be. -/
  tasks : ∀ t ∈ x.tasks, t.Kept
  /-- What the tasks of a manager count for is what its notes amount to. -/
  balanced : ∀ side k, x.census side k = Note.balance k (Entry.notesOf side history)
  /-- At no moment did a manager count less than nothing. -/
  never : ∀ side i, 0 ≤ Note.balance .live (Entry.notesOf side (history.take i))

/-- No manager counts less than nothing. -/
lemma census_live_nonneg (x : Process) (side : Side) : 0 ≤ x.census side .live := by
  refine Account.total_nonneg fun t => ?_
  split
  · exact t.census_live_nonneg
  · exact Int.le_refl 0

/-- What one step does to the accounts of a process: it is one of tasks of one manager, which are
kept, and leaves those of the other one alone. -/
structure Keeps (x : Process) (r : Process × List Entry) (side : Side) (notes : List Note) :
    Prop where
  /-- The notes are of the one manager. -/
  entries : r.2 = entries side notes
  /-- Its accounts are kept. -/
  booked : Booked (x.census side) (r.1.census side) notes
  /-- The other manager counts for the same. -/
  apart : ∀ other, other ≠ side → ∀ k, r.1.census other k = x.census other k
  /-- The tasks are as they should be. -/
  tasks : ∀ t ∈ r.1.tasks, t.Kept

/-- Tasks come in, counted as they are noted. -/
lemma keeps_enter {x : Process} (h : ∀ t ∈ x.tasks, t.Kept) {tasks : List Task} {side : Side}
    {notes : List Note} (hside : ∀ t ∈ tasks, t.side = side) (hkept : ∀ t ∈ tasks, t.Kept)
    (booked : Booked (fun _ => 0) (Account.total Task.census tasks) notes) :
    x.Keeps (x.enter tasks, entries side notes) side notes := by
  have hcount (other : Side) (k : Account) :
      (x.enter tasks).census other k = x.census other k +
        if other = side then Account.total Task.census tasks k else 0 := by
    rw [census, census, enter, Account.total_append]
    congr 1
    clear booked hkept
    induction tasks with
    | nil => simp
    | cons t rest ih =>
      have hrest := ih fun t ht => hside t (List.mem_cons_of_mem _ ht)
      rw [Account.total_cons, Account.total_cons, hrest, hside t List.mem_cons_self]
      by_cases hother : other = side
      · simp [hother]
      · simp [hother, Ne.symm hother]
  refine ⟨rfl, ⟨fun k => ?_, booked.first⟩, fun other hother k => ?_, fun t ht => ?_⟩
  · rw [hcount, if_pos rfl, booked.balanced k, Int.zero_add]
  · rw [hcount, if_neg hother, Int.add_zero]
  · rcases List.mem_append.mp ht with ht | ht
    · exact h t ht
    · exact hkept t ht

/-- A connection that a manager may have made comes in. -/
lemma keeps_made {x : Process} (h : ∀ t ∈ x.tasks, t.Kept) {σ : Type} {census : σ → Account → Int}
    {P : σ → Prop} {made : Option σ} {notes : List Note} (henters : Enters census P made notes)
    {task : σ → Task} {side : Side} (hside : ∀ s, (task s).side = side)
    (hcensus : ∀ s, (task s).census = census s) (hkept : ∀ s, P s → (task s).Kept) :
    x.Keeps (x.enter (made.toList.map task), entries side notes) side notes := by
  refine keeps_enter h (fun t ht => ?_) (fun t ht => ?_) ?_
  · obtain ⟨s, -, rfl⟩ := List.mem_map.mp ht
    exact hside s
  · obtain ⟨s, hs, rfl⟩ := List.mem_map.mp ht
    exact hkept s (henters.proper s (Option.mem_toList.mp hs))
  · refine henters.booked.congr_after fun k => ?_
    cases made with
    | none => rfl
    | some s => simp [Account.optional, hcensus]

/-- One task takes a step. -/
lemma keeps_task {x : Process} (h : ∀ t ∈ x.tasks, t.Kept) {i : Nat} {t : Task}
    (ht : x.tasks[i]? = some t) (e : Task.Event) :
    x.Keeps (⟨x.tasks.set i (t.step e).1⟩, entries t.side (t.step e).2) t.side (t.step e).2 := by
  obtain ⟨hkept, hside, hbooked⟩ := (h t (List.mem_of_getElem? ht)).step e
  have hcount (side : Side) (k : Account) :
      census ⟨x.tasks.set i (t.step e).1⟩ side k = x.census side k +
        if t.side = side then Note.balance k (t.step e).2 else 0 := by
    rw [census, census, Account.total_set ht, hside]
    split
    · have hbalanced := hbooked.balanced k
      omega
    · rfl
  refine ⟨rfl, ⟨fun k => ?_, hbooked.first⟩, fun other hother k => ?_, fun t' ht' => ?_⟩
  · rw [hcount, if_pos rfl]
  · rw [hcount, if_neg (Ne.symm hother), Int.add_zero]
  · rcases List.mem_or_eq_of_mem_set ht' with ht' | rfl
    · exact h t' ht'
    · exact hkept

/-- Every step of a process is one of tasks of one manager. -/
lemma exists_keeps {x : Process} (h : ∀ t ∈ x.tasks, t.Kept) (e : Event) :
    ∃ side notes, x.Keeps (x.step e) side notes := by
  cases e with
  | listen engine limit =>
    have hkept : (Task.gate (.start engine limit)).Kept := Tcp.Gate.kept_start engine limit
    have hkeeps : x.Keeps (x.enter [.gate (.start engine limit)], entries .stream []) .stream [] :=
      keeps_enter h (by simp [Task.side]) (by simpa using hkept) (.ofNeutral (fun _ => rfl) rfl)
    exact ⟨.stream, [], hkeeps⟩
  | bind host maxDatagram nextId =>
    have hkept : (Task.acceptor (.bind host maxDatagram nextId)).Kept :=
      ⟨Acceptor.sound_bind host maxDatagram nextId, Acceptor.orderly_bind host maxDatagram nextId⟩
    have hnobody (k : Account) : (Task.acceptor (.bind host maxDatagram nextId)).census k = 0 := by
      cases k <;> simp [Task.census, Acceptor.census, Acceptor.bind, AcceptorPhase.isClosing]
    have hkeeps : x.Keeps
        (x.enter [.acceptor (.bind host maxDatagram nextId)], entries .datagram []) .datagram [] :=
      keeps_enter h (by simp [Task.side]) (by simpa using hkept)
        (.ofNeutral (fun k => by simp [hnobody]) rfl)
    exact ⟨.datagram, [], hkeeps⟩
  | connectStream m journey id request =>
    exact ⟨.stream, _, keeps_made h (m.enters_createConnection journey id request)
      (fun _ => rfl) (fun _ => rfl) fun _ hproper => hproper⟩
  | connectDatagram m journey id request =>
    exact ⟨.datagram, _, keeps_made h (m.enters_createConnection journey id request)
      (fun _ => rfl) (fun _ => rfl) fun _ hproper => hproper⟩
  | task i e =>
    cases ht : x.tasks[i]? with
    | none =>
      have hstep : x.step (.task i e) = (x, entries .stream []) := by
        simp only [step, ht]
        rfl
      have hnone : Booked (x.census .stream) (x.census .stream) [] := .ofNeutral (fun _ => rfl) rfl
      rw [hstep]
      exact ⟨.stream, [], rfl, hnone, fun _ _ _ => rfl, h⟩
    | some t =>
      have hstep : x.step (.task i e) =
          (⟨x.tasks.set i (t.step e).1⟩, entries t.side (t.step e).2) := by
        simp only [step, ht]
      rw [hstep]
      exact ⟨_, _, keeps_task h ht e⟩

/-- A process keeps its accounts whatever happens. -/
theorem Kept.step {x : Process} {history : List Entry} (h : x.Kept history) (e : Event) :
    (x.step e).1.Kept (history ++ (x.step e).2) := by
  obtain ⟨side, notes, hkeeps⟩ := exists_keeps h.tasks e
  generalize x.step e = r at hkeeps
  have hnotes (other : Side) (i : Nat) : Entry.notesOf other (r.2.take i) =
      if side = other then notes.take i else [] := by
    rw [hkeeps.entries, entries, ← List.map_take]
    exact Entry.notesOf_map other side (notes.take i)
  refine ⟨hkeeps.tasks, fun other k => ?_, fun other i => ?_⟩
  · have hall := hnotes other r.2.length
    rw [List.take_length] at hall
    have hlength : r.2.length = notes.length := by rw [hkeeps.entries, entries, List.length_map]
    rw [Entry.notesOf_append, Note.balance_append, ← h.balanced, hall, hlength, List.take_length]
    by_cases hother : other = side
    · rw [hother, if_pos rfl]
      exact hkeeps.booked.balanced k
    · rw [if_neg (Ne.symm hother), Note.balance_nil, Int.add_zero]
      exact hkeeps.apart other hother k
  · rcases Nat.le_total i history.length with hi | hi
    · rw [List.take_append_of_le_length hi]
      exact h.never other i
    · have hbefore := x.census_live_nonneg other
      have hafter := r.1.census_live_nonneg other
      rw [List.take_append, List.take_of_length_le hi, Entry.notesOf_append, Note.balance_append,
        ← h.balanced, hnotes]
      by_cases hother : other = side
      · subst hother
        rw [if_pos rfl]
        rcases hkeeps.booked.balance_take (i - history.length) with hsame | hnew
        · rwa [hsame]
        · rwa [hnew]
      · rwa [if_neg (Ne.symm hother), Note.balance_nil, Int.add_zero]

/-- Nothing runs and nothing was noted. -/
lemma kept_start : Kept {} [] where
  tasks t ht := by cases ht
  balanced side k := rfl
  never side i := by simp [Entry.notesOf]

/-- A process keeps its accounts over every run. -/
theorem kept_run (es : List Event) : (run {} es).1.Kept (run {} es).2 := by
  induction es using List.reverseRecOn with
  | nil => exact kept_start
  | append_singleton es e ih =>
    rw [run_concat]
    exact ih.step e

end Process

end Switchboard
