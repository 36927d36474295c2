import Switchboard.Proofs.Connect.Requests
import Switchboard.Proofs.Manager.Turns
import Switchboard.Proxy.Exchange

/-!
# Clients of a manager that is starting

A start sends each listener to its loop as soon as its port is open, and makes the engine known when
it is through with all ports.  The listeners do not wait for that: what they share was given to
them, and they let clients in at once.  `Debut` is a start on its way with the clients that come in
meanwhile; the service may ask for a connection when it is called for one of them.

Such a request is refused up to the moment the engine is known, and is never refused afterwards
(`Debut.refused_until_known`).  There are clients to ask for: whenever a start with ports is about
to make its engine known, one of its listeners serves (`Debut.Spawned`).  `Debut.turned_away` is a
run in which the start succeeds and the only client has been refused its connection.
-/

namespace Switchboard

namespace Tcp

/-! ### A start and its clients -/

/-- A start on its way, with the clients that come in. -/
structure Debut (ω : Type) where
  /-- The manager. -/
  manager : Manager
  /-- The state of the system. -/
  world : ω
  /-- Where the start is. -/
  stage : Startup := .entering
  /-- How many clients were let in that the service has not been called for. -/
  arrived : Nat := 0
  /-- How the requests were answered that the service made when it was called for a client. -/
  answers : List (Except NetworkError Unit) := []

namespace Debut

variable {ω : Type}

/-- What can happen. -/
inductive Event where
  /-- The start goes a step on. -/
  | advance
  /-- A listener lets a client in and deals out a loop to it. -/
  | arrive (s : Serving)
  /-- The service is called for a client and asks for a connection. -/
  | request (journey : Journey) (id : ConnectionId) (request : Connect.Request)

/-- What an event does; a listener is there once the start has sent it to its loop. -/
def step (system : System ω) (config : TcpConfig) (x : Debut ω) : Event → Debut ω
  | .advance =>
    let now := x.stage.step system config x.manager x.world
    { x with stage := now.stage, manager := now.manager, world := now.world }
  | .arrive s =>
    if s ∈ x.manager.listeners then
      let pool := (x.manager.pool.next ⟨s.eventLoop.generation⟩).2
      { x with manager := { x.manager with pool }, arrived := x.arrived + 1 }
    else x
  | .request journey id request =>
    if x.arrived = 0 then x
    else
      let (outcome, manager) := x.manager.createConnection journey id request
      { x with manager, arrived := x.arrived - 1, answers := x.answers ++ [outcome.answer] }

/-- What a sequence of events does. -/
def run (system : System ω) (config : TcpConfig) (x : Debut ω) (es : List Event) : Debut ω :=
  es.foldl (step system config) x

/-- The engine is known only if the start has succeeded. -/
def Known (m : Manager) (stage : Startup) : Prop :=
  m.isRunning = true → stage = .answered (.ok ())

/-- A listener serves whose loop runs. -/
def Serves (m : Manager) : Prop := ∃ s ∈ m.serving, m.pool.isStopped s.eventLoop = false

/-- The listener of each listed port serves; a start with ports that is through with them has listed
one. -/
def Spawned (config : TcpConfig) (m : Manager) : Startup → Prop
  | .entering | .starting _ | .loading _ => m.ports = []
  | .binding _ _ _ | .checking _ => m.ports ≠ [] → Serves m
  | .listing _ _ opened _ | .spawning _ _ opened _ => m.pool.isStopped opened.eventLoop = false
  | .publishing _ => config.ports ≠ [] → Serves m
  | .undoing _ _ | .answered _ | .brokenDown => True

variable {m : Manager} {stage : Startup}

/-! ### What holds throughout -/

/-- A start makes an engine known only when it succeeds. -/
lemma known_step (system : System ω) (config : TcpConfig) (h : Known m stage) (w : ω) :
    Known (stage.step system config m w).manager (stage.step system config m w).stage := by
  intro hknown
  have hpublishes : stage.publishes = true →
      (stage.step system config m w).stage = .answered (.ok ()) := by
    cases stage with
    | publishing engine => exact fun _ => rfl
    | _ => exact fun hno => absurd hno Bool.false_ne_true
  rcases (Startup.turn_step system config stage m w).running hknown with hnow | hbefore
  · exact hpublishes hnow
  · rw [h hbefore]
    rfl

lemma spawned_proceed {config : TcpConfig} (h : m.ports ≠ [] → Serves m) (host : IpAddress)
    (engine : Engine) (ports : List Port) :
    Spawned config m (Startup.proceed config host engine ports) := by
  cases ports with
  | nil =>
    simp only [Startup.proceed]
    split
    · rename_i hnone
      exact fun hsome => absurd (List.isEmpty_iff.mp hnone) hsome
    · exact h
  | cons port rest => exact h

/-- Moving a rotation on leaves the listeners serving. -/
lemma Serves.deal (h : Serves m) (s : LoopSelector) :
    Serves { m with pool := (m.pool.next s).2 } := by
  obtain ⟨l, hl, hrunning⟩ := h
  exact ⟨l, hl, (LoopPool.isStopped_next _ _ _).trans hrunning⟩

/-- A start has a listener serve for each port it lists. -/
lemma spawned_step (system : System ω) (config : TcpConfig) (hprepared : Startup.Prepared m stage)
    (h : Spawned config m stage) (w : ω) :
    Spawned config (stage.step system config m w).manager (stage.step system config m w).stage := by
  cases stage with
  | entering =>
    simp only [Startup.step]
    split
    · trivial
    · split
      · trivial
      · split
        · trivial
        · exact h
  | starting host =>
    simp only [Startup.step]
    split
    · trivial
    · exact h
  | loading host =>
    have hports : m.ports = [] := h
    simp only [Startup.step]
    split
    · trivial
    · split
      · trivial
      · split
        · trivial
        · exact spawned_proceed (fun hsome => absurd hports hsome) host _ _
  | binding host engine ports =>
    have hserves : m.ports ≠ [] → Serves m := h
    cases ports with
    | nil => exact spawned_proceed hserves host engine []
    | cons port rest =>
      -- the loops of a start run until it fails, so there is one for the listener, and it runs
      obtain ⟨l, hnext, hrunning, -⟩ := LoopPool.Runs.next hprepared
      rcases hlisten : system.listen w ⟨host, port⟩ with ⟨source | opened, w'⟩
      · rw [Startup.step_binding_of_closed hnext hlisten]
        cases config.portPolicy with
        | all => trivial
        | any =>
          have hdealt : m.ports ≠ [] → Serves { m with pool := (m.pool.next engine.loops).2 } :=
            fun hsome => (hserves hsome).deal engine.loops
          exact spawned_proceed hdealt host engine rest
      · rw [Startup.step_binding_of_open hnext hlisten]
        exact hrunning
  | listing host engine opened rest => exact h
  | spawning host engine opened rest =>
    have hserves : Serves { m with serving := m.serving ++ [opened] } :=
      ⟨opened, List.mem_append_right _ (List.mem_singleton_self _), h⟩
    rw [Startup.step_spawning]
    exact spawned_proceed (fun _ => hserves) host engine _
  | checking engine =>
    have hserves : m.ports ≠ [] → Serves m := h
    simp only [Startup.step]
    split
    · trivial
    · rename_i hsome
      exact fun _ => hserves fun hnone => hsome (List.isEmpty_iff.mpr hnone)
  | publishing engine => trivial
  | undoing cause stage => cases stage <;> trivial
  | answered answer => trivial
  | brokenDown => trivial

/-- What holds of a start and its clients at any moment. -/
structure Sound (config : TcpConfig) (x : Debut ω) : Prop where
  /-- The engine is known only if the start has succeeded. -/
  known : Known x.manager x.stage
  /-- The loops run until the start fails. -/
  prepared : Startup.Prepared x.manager x.stage
  /-- The listener of each listed port serves. -/
  spawned : Spawned config x.manager x.stage

/-- A start that has succeeded leaves the manager ready. -/
lemma Sound.ready {config : TcpConfig} {x : Debut ω} (h : x.Sound config)
    (hstage : x.stage = .answered (.ok ())) : x.manager.Ready := by
  have hprepared := h.prepared
  rwa [hstage] at hprepared

/-- As long as the start has not succeeded the manager refuses every request. -/
lemma Sound.refused {config : TcpConfig} {x : Debut ω} (h : x.Sound config)
    (hstage : x.stage ≠ .answered (.ok ())) (journey : Journey) (id : ConnectionId)
    (request : Connect.Request) :
    (x.manager.createConnection journey id request).1.answer = .error .notInitialized := by
  have hnone : x.manager.engine = none :=
    Option.not_isSome_iff_eq_none.mp fun hsome => hstage (h.known hsome)
  rw [Manager.createConnection_of_stopped hnone]

/-- Dealing out a loop to a client disturbs nothing. -/
lemma Sound.deal {config : TcpConfig} {x : Debut ω} (h : x.Sound config) (s : LoopSelector)
    {x' : Debut ω} (hstage : x'.stage = x.stage)
    (hmanager : x'.manager = { x.manager with pool := (x.manager.pool.next s).2 }) :
    x'.Sound config := by
  obtain ⟨hknown, hprepared, hspawned⟩ := h
  refine ⟨?_, ?_, ?_⟩
  · rw [hstage, hmanager]
    exact hknown
  · rw [hstage, hmanager]
    cases hx : x.stage <;> rw [hx] at hprepared
    case loading host =>
      obtain ⟨loops, hselector, hruns⟩ := hprepared
      exact ⟨loops, (LoopPool.selector?_next _ _).trans hselector, hruns.deal s⟩
    case answered answer =>
      rcases answer with e | ⟨⟩
      · trivial
      · obtain ⟨engine, hengine, hruns⟩ := hprepared
        exact ⟨engine, hengine, hruns.deal s⟩
    all_goals first | trivial | exact LoopPool.Runs.deal hprepared s
  · rw [hstage, hmanager]
    cases hx : x.stage <;> rw [hx] at hspawned
    case binding => exact fun hsome => (hspawned hsome).deal s
    case checking => exact fun hsome => (hspawned hsome).deal s
    case publishing => exact fun hsome => (hspawned hsome).deal s
    case listing => exact (LoopPool.isStopped_next _ _ _).trans hspawned
    case spawning => exact (LoopPool.isStopped_next _ _ _).trans hspawned
    all_goals exact hspawned

/-- Whatever happens, it holds on. -/
lemma Sound.step {config : TcpConfig} {x : Debut ω} (h : x.Sound config) (system : System ω)
    (e : Event) : (x.step system config e).Sound config := by
  cases e with
  | advance =>
    exact ⟨known_step system config h.known x.world,
      Startup.prepared_step system config h.prepared x.world,
      spawned_step system config h.prepared h.spawned x.world⟩
  | arrive s =>
    unfold Debut.step
    dsimp only
    split
    · exact h.deal _ rfl rfl
    · exact h
  | request journey id request =>
    unfold Debut.step
    dsimp only
    split
    · exact h
    · rcases x.manager.manager_createConnection journey id request with hsame | ⟨s, hdealt⟩
      · rw [hsame]
        exact ⟨h.known, h.prepared, h.spawned⟩
      · exact h.deal s rfl hdealt

/-- It holds along every run of a start of a stopped manager. -/
lemma sound_run (system : System ω) (config : TcpConfig) {m : Manager} (hengine : m.engine = none)
    (hports : m.ports = []) (w : ω) (es : List Event) :
    (run system config { manager := m, world := w } es).Sound config := by
  induction es using List.reverseRecOn with
  | nil => exact ⟨by simp [run, Known, Manager.isRunning, hengine], trivial, hports⟩
  | append_singleton es e ih =>
    rw [run, List.foldl_append]
    exact ih.step system e

/-- A start that has succeeded stays so. -/
lemma stage_run {x : Debut ω} (hstage : x.stage = .answered (.ok ())) (system : System ω)
    (config : TcpConfig) (es : List Event) :
    (x.run system config es).stage = .answered (.ok ()) := by
  induction es generalizing x with
  | nil => exact hstage
  | cons e es ih =>
    refine ih ?_
    cases e with
    | advance => simp [step, hstage, Startup.step]
    | arrive s =>
      unfold step
      dsimp only
      split <;> exact hstage
    | request journey id request =>
      unfold step
      dsimp only
      split <;> exact hstage

/-! ### The answers to requests -/

/-- The service that is called for a client is given the answer of the manager. -/
lemma answers_request (x : Debut ω) (harrived : 0 < x.arrived) (system : System ω)
    (config : TcpConfig) (journey : Journey) (id : ConnectionId) (request : Connect.Request) :
    (x.step system config (.request journey id request)).answers =
      x.answers ++ [(x.manager.createConnection journey id request).1.answer] := by
  simp [step, harrived.ne']

/-- A stopped manager is started, and clients come in and have the service ask for connections, in
any order and as long as nobody stops the manager.  A request is refused as if the manager did not
run exactly as long as the start has not succeeded, and a start that has succeeded stays so.  A
start with ports that is about to make its engine known has a listener that lets clients in, for
whom the service asks in vain. -/
theorem refused_until_known (system : System ω) (config : TcpConfig) (m : Manager) (w : ω)
    (stopped : m.engine = none) (unlisted : m.ports = []) (es : List Event) :
    let x := run system config { manager := m, world := w } es
    (∀ journey id request, 0 < x.arrived →
        ∃ answer, (x.step system config (.request journey id request)).answers =
            x.answers ++ [answer] ∧
          (answer = .error .notInitialized ↔ x.stage ≠ .answered (.ok ()))) ∧
      (x.stage = .answered (.ok ()) →
        ∀ fs, (x.run system config fs).stage = .answered (.ok ())) ∧
      ∀ engine, x.stage = .publishing engine → config.ports ≠ [] →
        ∃ s ∈ x.manager.listeners, ∀ journey id request,
          ((x.step system config (.arrive s)).step system config
            (.request journey id request)).answers = x.answers ++ [.error .notInitialized] := by
  intro x
  have hsound : x.Sound config := sound_run system config stopped unlisted w es
  refine ⟨fun journey id request harrived => ?_, fun hstage fs => stage_run hstage system config fs,
    fun engine hstage hports => ?_⟩
  · refine ⟨(x.manager.createConnection journey id request).1.answer, ?_, ?_⟩
    · exact answers_request x harrived system config journey id request
    · constructor
      · intro hanswer hstage
        exact (hsound.ready hstage).initialized journey id request hanswer
      · exact fun hstage => hsound.refused hstage journey id request
  · obtain ⟨s, hs, hrunning⟩ : Serves x.manager := by
      have hspawned := hsound.spawned
      rw [hstage] at hspawned
      exact hspawned hports
    have hlistener : s ∈ x.manager.listeners := by
      simpa [Manager.listeners, hrunning] using hs
    have hcame : (x.step system config (.arrive s)).arrived = x.arrived + 1 := by
      simp [step, hlistener]
    have hstays : (x.step system config (.arrive s)).stage ≠ .answered (.ok ()) := by
      simp [step, hlistener, hstage]
    refine ⟨s, hlistener, fun journey id request => ?_⟩
    have hanswer := (hsound.step system (.arrive s)).refused hstays journey id request
    have hanswers : (x.step system config (.arrive s)).answers = x.answers := by
      simp [step, hlistener]
    rw [answers_request _ (by simp [hcame]), hanswer, hanswers]

/-- The first client of a manager with one port comes in as soon as the listener serves. -/
def arrival : List Event := List.replicate 6 .advance ++ [.arrive ⟨80, ⟨0, 0⟩⟩]

/-- How the service asks for its target. -/
def asking : Event := .request .detour ⟨1⟩ { host := "here", service := "7001" }

/-- The start of that manager with so many steps after its first client came in. -/
def opening (steps : Nat) : Debut Unit :=
  run .bare { ports := [80], threadCount := 1 } { manager := {}, world := () }
    (arrival ++ List.replicate steps .advance)

/-- If the service asks at once it is refused; if it asks when the start has succeeded it is not. -/
theorem refused_until_known_first_client :
    (∃ answer, ((opening 0).step .bare { ports := [80], threadCount := 1 } asking).answers =
        (opening 0).answers ++ [answer] ∧ answer = .error .notInitialized) ∧
      ∃ answer, ((opening 2).step .bare { ports := [80], threadCount := 1 } asking).answers =
        (opening 2).answers ++ [answer] ∧ answer ≠ .error .notInitialized := by
  have hsound (steps : Nat) : (opening steps).Sound { ports := [80], threadCount := 1 } :=
    sound_run .bare _ rfl rfl () _
  have hunknown : (opening 0).manager.engine.isSome = false := by decide +kernel
  have hknown : (opening 2).manager.isRunning = true := by decide +kernel
  obtain ⟨hbefore, -, -⟩ := refused_until_known .bare { ports := [80], threadCount := 1 } {} ()
    rfl rfl (arrival ++ List.replicate 0 .advance)
  obtain ⟨hafter, -, -⟩ := refused_until_known .bare { ports := [80], threadCount := 1 } {} ()
    rfl rfl (arrival ++ List.replicate 2 .advance)
  obtain ⟨answer, hanswers, hiff⟩ := hbefore .detour ⟨1⟩ { host := "here", service := "7001" }
    (by decide +kernel)
  obtain ⟨answer', hanswers', hiff'⟩ := hafter .detour ⟨1⟩ { host := "here", service := "7001" }
    (by decide +kernel)
  refine ⟨⟨answer, hanswers, hiff.mpr fun hdone => ?_⟩, answer', hanswers', fun hrefused => ?_⟩
  · obtain ⟨engine, hengine, -⟩ := (hsound 0).ready hdone
    rw [hengine] at hunknown
    cases hunknown
  · exact hiff'.mp hrefused ((hsound 2).known hknown)

/-- The service asks at once, and the start goes on and succeeds.  The service was refused its only
request; a forwarder that gets this answer turns the client away. -/
theorem turned_away :
    let x := run .bare { ports := [80], threadCount := 1 } { manager := {}, world := () }
      (arrival ++ asking :: List.replicate 2 .advance)
    x.stage = .answered (.ok ()) ∧ x.manager.isRunning = true ∧
      x.answers = [.error .notInitialized] ∧
      ∀ (y : Proxy.Exchange) (number : Nat) (request : Connect.Request), ∀ answer ∈ x.answers,
        (y.advance answer.isOk (.connect number request)).1 = .done false := by
  have hrunning : (run .bare { ports := [80], threadCount := 1 } { manager := {}, world := () }
      (arrival ++ asking :: List.replicate 2 .advance)).manager.isRunning = true := by
    decide +kernel
  have hanswers : (run .bare { ports := [80], threadCount := 1 } { manager := {}, world := () }
      (arrival ++ asking :: List.replicate 2 .advance)).answers = [.error .notInitialized] := by
    decide +kernel
  have hsound := sound_run .bare { ports := [80], threadCount := 1 } (m := {}) rfl rfl ()
    (arrival ++ asking :: List.replicate 2 .advance)
  refine ⟨hsound.known hrunning, hrunning, hanswers, fun y number request answer hanswer => ?_⟩
  rw [hanswers, List.mem_singleton] at hanswer
  subst hanswer
  rfl

end Debut

end Tcp

end Switchboard
