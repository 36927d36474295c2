import Switchboard.Proofs.Manager.Loops
import Switchboard.Tcp.Manager
import Switchboard.Udp.Manager

/-!
# How a manager stands

A manager that is used by one thread at a time is stopped or runs, unless a start of it has broken
down.  `Standing` is what its uses make of it if nothing counts but what comes of the starts of a
stopped manager, and `Outlook` is what is seen of it from outside.  What comes of a start depends on
the start alone: on its settings, and on what the system answers it; `PortPolicy.verdict` is the
part of it that both kinds of managers share.

A pool is tidy (`LoopPool.Tidy`) if no loop runs but those in use.  Pools that are started and
stopped as a whole are, so what was sent to a loop of a pool that was stopped is gone for good.
-/

namespace Switchboard

/-! ### Standings -/

/-- How a manager stands between two calls. -/
inductive Standing where
  /-- It is stopped. -/
  | stopped
  /-- It runs with so many loops and these ports. -/
  | running (threads : Nat) (ports : List Port)
  /-- A start has left so many loops behind. -/
  | stranded (threads : Nat)
  deriving DecidableEq

/-- What is seen of a manager from outside. -/
structure Outlook where
  /-- Whether it runs. -/
  running : Bool
  /-- How many loops it has. -/
  threads : Nat
  /-- The ports it lists. -/
  ports : List Port
  /-- The ports that are served. -/
  served : List Port
  deriving DecidableEq

namespace Standing

/-- What is seen of a manager that stands so. -/
def outlook : Standing → Outlook
  | stopped => ⟨false, 0, [], []⟩
  | running threads ports => ⟨true, threads, ports, ports⟩
  | stranded threads => ⟨false, threads, [], []⟩

/-- Whether there are loops. -/
def live : Standing → Bool
  | stopped => false
  | running _ _ | stranded _ => true

/-- What becomes of it when the manager is started, given what becomes of a stopped one: only a
stopped manager heeds that. -/
def started (standing fresh : Standing) : Standing :=
  match standing with
  | stopped => fresh
  | _ => standing

end Standing

/-! ### Ports -/

namespace PortPolicy

variable {ω : Type}

/-- The ports that a start gets when it asks for some in turn, or what keeps it from having them:
all must open, or the first that opens is taken. -/
def opened (policy : PortPolicy) (listen : ω → Endpoint → Except SystemError Port × ω)
    (host : IpAddress) : List Port → ω → Except NetworkError (List Port)
  | [], _ => .ok []
  | port :: rest, w =>
    match policy, listen w ⟨host, port⟩ with
    | all, (.ok got, w) => (policy.opened listen host rest w).map (got :: ·)
    | all, (.error e, _) => .error (.bind ⟨host, port⟩ e)
    | any, (.ok got, _) => .ok [got]
    | any, (.error _, w) => policy.opened listen host rest w

/-- Ports are enough unless there are none where some were wanted. -/
def enough (wanted ports : List Port) : Except NetworkError (List Port) :=
  if ports.isEmpty && !wanted.isEmpty then .error .noListener else .ok ports

/-- What comes of a start that has got some ports and has still to ask for others. -/
def verdict (policy : PortPolicy) (listen : ω → Endpoint → Except SystemError Port × ω)
    (host : IpAddress) (wanted got rest : List Port) (w : ω) : Except NetworkError (List Port) :=
  (policy.opened listen host rest w).bind fun ports => enough wanted (got ++ ports)

variable {policy : PortPolicy} {listen : ω → Endpoint → Except SystemError Port × ω}
  {host : IpAddress} {wanted got rest : List Port} {w w' : ω} {port : Port}

@[simp] lemma verdict_nil : policy.verdict listen host wanted got [] w = enough wanted got := by
  simp [verdict, PortPolicy.opened, Except.bind]

/-- A port that opens is one more, and the last one if one is enough. -/
lemma verdict_of_open {opened : Port} (hopen : listen w ⟨host, port⟩ = (.ok opened, w')) :
    policy.verdict listen host wanted got (port :: rest) w =
      policy.verdict listen host wanted (got ++ [opened])
        (if policy = .any then [] else rest) w' := by
  cases policy with
  | any => simp [verdict, PortPolicy.opened, hopen, Except.bind]
  | all =>
    cases hrest : PortPolicy.all.opened listen host rest w' <;>
      simp [verdict, PortPolicy.opened, hopen, hrest, Except.map, Except.bind]

/-- A port that does not open is passed over if one is enough, and fails the start if not. -/
lemma verdict_of_closed {e : SystemError} (hclosed : listen w ⟨host, port⟩ = (.error e, w')) :
    policy.verdict listen host wanted got (port :: rest) w =
      if policy = .all then .error (.bind ⟨host, port⟩ e)
      else policy.verdict listen host wanted got rest w' := by
  cases policy with
  | any => simp [verdict, PortPolicy.opened, hclosed]
  | all => simp [verdict, PortPolicy.opened, hclosed, Except.bind]

end PortPolicy

/-! ### Settings -/

/-- What a start makes of its settings before it does anything: the address that its ports are to be
on, or what is wrong with them. -/
def admission (violations : List Violation) (bindHost : String) : Except NetworkError IpAddress :=
  if !violations.isEmpty then .error (.config (Violation.describe violations))
  else
    match IpAddress.ofString? bindHost with
    | none => .error (.config ("invalid bind host '" ++ bindHost ++ "'"))
    | some host => .ok host

lemma violations_eq_nil_of_admission {violations : List Violation} {bindHost : String}
    {host : IpAddress} (h : admission violations bindHost = .ok host) : violations = [] := by
  unfold admission at h
  split at h
  · cases h
  · rename_i hvalid
    simpa using hvalid

/-- Settings that are accepted want a loop. -/
lemma Config.ne_zero_of_violationsOfLoops {part bindHost : String} {count : Nat}
    (h : violationsOfLoops part count bindHost = []) : count ≠ 0 := by
  rintro rfl
  simp [violationsOfLoops, Violation.reportIf] at h

/-! ### Tidy pools -/

namespace LoopPool

variable {p p' : LoopPool}

/-- What keeps the system from starting so many loops. -/
def fault? (count : Nat) (start : Nat → Except SystemError Unit) : Option SystemError :=
  (List.range count).findSome? fun i => match start i with
    | .ok () => none
    | .error e => some e

/-- A pool without loops in use is started unless the system cannot start one. -/
lemma init_of_free {count : Nat} (hcount : count ≠ 0) (hfree : p.current = none)
    (start : Nat → Except SystemError Unit) :
    p.init count start = match fault? count start with
      | some e => (.error (.io e), p)
      | none => (.ok (), { generations := p.generations ++ [⟨List.replicate count false, 0⟩],
                           current := some p.generations.length }) := by
  simp only [init, hcount, hfree, Option.isSome_none, Bool.false_eq_true, if_false]
  rfl

/-- A pool with loops in use is not started again. -/
lemma init_of_live {count : Nat} (hcount : count ≠ 0) (hlive : p.current.isSome = true)
    (start : Nat → Except SystemError Unit) :
    p.init count start = (.error .alreadyInitialized, p) := by
  simp [init, hcount, hlive]

/-- A pool that is started has no loops in use before, and a new generation of them afterwards. -/
lemma eq_of_init_ok {count : Nat} {start : Nat → Except SystemError Unit}
    (h : p.init count start = (.ok (), p')) :
    p.current = none ∧ p' = { generations := p.generations ++ [⟨List.replicate count false, 0⟩],
                              current := some p.generations.length } := by
  have hfree : p.current = none := by simpa [selector?] using (selector?_of_init_ok h).1
  unfold init at h
  split at h
  · cases h
  · split at h
    · cases h
    · split at h
      · cases h
      · exact ⟨hfree, (Prod.mk.inj h).2.symm⟩

/-- Nothing but the loops in use runs. -/
def Tidy (p : LoopPool) : Prop := ∀ l, p.isStopped l = false → p.current = some l.generation

lemma tidy_empty : ({} : LoopPool).Tidy := fun l hl => by simp [isStopped] at hl

/-- A loop of another generation than the one in use is stopped. -/
lemma Tidy.isStopped_of_ne (h : p.Tidy) {l : EventLoop} (hother : p.current ≠ some l.generation) :
    p.isStopped l = true :=
  Bool.not_eq_false _ ▸ fun hrunning => hother (h l hrunning)

@[simp] lemma current_next (p : LoopPool) (s : LoopSelector) :
    (p.next s).2.current = p.current := by
  unfold next
  split
  · rfl
  · split <;> rfl

@[simp] lemma length_generations_next (p : LoopPool) (s : LoopSelector) :
    (p.next s).2.generations.length = p.generations.length := by
  unfold next
  split
  · rfl
  · split <;> simp

/-- Dealing out a loop leaves their number what it is. -/
@[simp] lemma size_next (p : LoopPool) (s : LoopSelector) : (p.next s).2.size = p.size := by
  have hlength (s' : LoopSelector) : (p.next s).2.lengthOf s' = p.lengthOf s' := by
    unfold next
    split
    · rfl
    · rename_i g hg
      have hgeneration : p.generations[s.generation]? = some g := hg
      have hbound := (List.getElem?_eq_some_iff.mp hgeneration).1
      split
      · rfl
      · by_cases hs : s.generation = s'.generation
        · have hsize : g.stopped.length = p.generations[s.generation].stopped.length := by
            rw [← (List.getElem?_eq_some_iff.mp hgeneration).2]
          simpa [lengthOf, generation?, ← hs, hbound, LoopGeneration.size] using hsize
        · simp [lengthOf, generation?, List.getElem?_set_ne hs]
  rw [size, selector?_next, funext hlength, size]

lemma Tidy.next (h : p.Tidy) (s : LoopSelector) : (p.next s).2.Tidy := fun l hl => by
  rw [current_next]
  exact h l ((isStopped_next p s l).symm.trans hl)

/-- A loop that runs belongs to a generation of the pool. -/
lemma generation_lt_of_running {l : EventLoop} (h : p.isStopped l = false) :
    l.generation < p.generations.length := by
  by_contra hnone
  simp [isStopped, Nat.not_lt.mp hnone] at h

/-- A pool that was started has the loops that were asked for. -/
lemma size_of_init_ok {count : Nat} {start : Nat → Except SystemError Unit}
    (h : p.init count start = (.ok (), p')) : p'.size = count := by
  obtain ⟨-, rfl⟩ := eq_of_init_ok h
  simp [size, selector?, lengthOf, generation?, LoopGeneration.size]

lemma Tidy.init {count : Nat} {start : Nat → Except SystemError Unit} (h : p.Tidy)
    (started : p.init count start = (.ok (), p')) : p'.Tidy := by
  obtain ⟨hfree, rfl⟩ := eq_of_init_ok started
  intro l hl
  by_cases hold : l.generation < p.generations.length
  · -- the loops of the generations before were stopped, and still are
    have hsame : p.isStopped l = false := by
      simpa [isStopped, List.getElem?_append_left hold] using hl
    rw [h l hsame] at hfree
    cases hfree
  · by_cases hnew : l.generation = p.generations.length
    · exact congrArg some hnew.symm
    · have hbehind : p.generations.length + 1 ≤ l.generation := by omega
      have hnone : (p.generations ++ [⟨List.replicate count false, 0⟩])[l.generation]? = none :=
        List.getElem?_eq_none (by simpa using hbehind)
      simp only [isStopped, hnone, Bool.true_eq_false] at hl

/-- The generations before have been stopped when a pool is started. -/
lemma Tidy.isStopped_of_init {count : Nat} {start : Nat → Except SystemError Unit} (h : p.Tidy)
    (started : p.init count start = (.ok (), p')) {l : EventLoop}
    (hold : l.generation < p.generations.length) : p'.isStopped l = true := by
  refine (h.init started).isStopped_of_ne fun hcurrent => ?_
  obtain ⟨-, rfl⟩ := eq_of_init_ok started
  exact Nat.ne_of_lt hold (Option.some.inj hcurrent).symm

@[simp] lemma current_exit (p : LoopPool) : p.exit.current = none := by
  unfold exit
  split
  · assumption
  · rfl

@[simp] lemma size_exit (p : LoopPool) : p.exit.size = 0 := by simp [size]

@[simp] lemma length_generations_exit (p : LoopPool) :
    p.exit.generations.length = p.generations.length := by
  unfold exit
  split <;> simp

/-- A stop stops whatever runs. -/
lemma Tidy.isStopped_exit (h : p.Tidy) (l : EventLoop) : p.exit.isStopped l = true := by
  unfold exit
  split
  · rename_i hnone
    exact h.isStopped_of_ne (by simp [hnone])
  · rename_i k hk
    by_cases hl : k = l.generation
    · subst hl
      cases hg : p.generations[l.generation]? with
      | none => simp [isStopped, hg]
      | some g =>
        simp only [isStopped, List.getElem?_modify_eq, hg, Option.map_eq_map, Option.map_some,
          List.getElem?_map]
        cases g.stopped[l.index]? <;> rfl
    · have hstopped : p.isStopped l = true := h.isStopped_of_ne (by simp [hk, hl])
      simpa [isStopped, List.getElem?_modify, hl] using hstopped

lemma Tidy.exit (h : p.Tidy) : p.exit.Tidy := fun l hl => by
  rw [h.isStopped_exit] at hl
  cases hl

/-- Stopping a pool again does nothing. -/
@[simp] lemma exit_exit (p : LoopPool) : p.exit.exit = p.exit := by
  cases hcurrent : p.current <;> simp [exit, hcurrent]

end LoopPool

end Switchboard
