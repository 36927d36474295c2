import Switchboard.Proofs.Connect.Requests
import Switchboard.Proofs.Tcp.Equipping
import Switchboard.Proofs.Tcp.Offering

/-!
# Reads and writes under accepted settings

A start looks at its settings before it does anything else, and makes its engine of nothing else.
So an engine that is around, be it in the hand of a start, whose listeners serve with it already, or
known to the manager, reflects settings that were accepted (`Startup.vetted_step`,
`Call.explains_run`).  One of the rules is that reads are not of size zero.

Hence a connection that such an engine runs never asks its socket for nothing, neither in a read nor
in a write (`offers_no_empty_buffer`).
-/

namespace Switchboard.Tcp

/-- An engine reflects settings that are accepted. -/
structure Engine.Reflects (engine : Engine) (config : TcpConfig) : Prop where
  /-- The settings are accepted. -/
  valid : config.violations = []
  /-- Reads are as long as they say. -/
  chunkSize : engine.chunkSize = config.chunkSize
  /-- Attempts to connect take as long as they say. -/
  connectTimeout : engine.connectTimeout = config.connectTimeout
  /-- The closing time is what they say. -/
  closeLinger : engine.closeLinger = config.closeLinger

/-- Accepted settings have no reads of size zero. -/
lemma one_le_chunkSize {config : TcpConfig} (hvalid : config.violations = []) :
    1 ≤ config.chunkSize := by
  rw [Nat.one_le_iff_ne_zero]
  intro hzero
  simp [TcpConfig.violations, Violation.reportIf, hzero] at hvalid

/-! ### Starts -/

namespace Startup

/-- A start that got past its settings has accepted ones, which its engine reflects once it has
one. -/
def Vetted (config : TcpConfig) : Startup → Prop
  | starting _ | loading _ => config.violations = []
  | binding _ engine _ | listing _ engine _ _ | spawning _ engine _ _ => engine.Reflects config
  | checking engine | publishing engine => engine.Reflects config
  | entering | undoing _ _ | answered _ | brokenDown => True

variable {ω : Type} {config : TcpConfig} {stage : Startup} {engine : Engine}

/-- The engine of such a start reflects its settings. -/
lemma Vetted.reflects (h : stage.Vetted config) (hhand : stage.engine? = some engine) :
    engine.Reflects config := by
  cases stage <;> cases hhand <;> exact h

lemma vetted_proceed (h : engine.Reflects config) (host : IpAddress) (ports : List Port) :
    (proceed config host engine ports).Vetted config := by
  cases ports with
  | nil =>
    simp only [proceed]
    split <;> exact h
  | cons port rest => exact h

/-- A step of a start looks at its settings, or relies on their having been looked at. -/
lemma vetted_step (h : stage.Vetted config) (system : System ω) (m : Manager) (w : ω) :
    (stage.step system config m w).stage.Vetted config := by
  cases stage with
  | entering =>
    simp only [step]
    split
    · trivial
    · split
      · trivial
      · rename_i hvalid
        have haccepted : config.violations = [] := by simpa using hvalid
        split
        · trivial
        · exact haccepted
  | starting host =>
    simp only [step]
    split
    · trivial
    · exact h
  | loading host =>
    simp only [step]
    split
    · trivial
    · split
      · trivial
      · split
        · trivial
        · exact vetted_proceed ⟨h, rfl, rfl, rfl⟩ host config.ports
  | binding host engine ports =>
    cases ports with
    | nil => exact vetted_proceed h host []
    | cons port rest =>
      simp only [step]
      split
      · trivial
      · split
        · exact h
        · split
          · trivial
          · exact vetted_proceed h host rest
  | listing host engine opened rest => exact h
  | spawning host engine opened rest =>
    rw [step_spawning]
    exact vetted_proceed h host _
  | checking engine =>
    simp only [step]
    split
    · trivial
    · exact h
  | publishing engine => trivial
  | undoing cause stage => cases stage <;> trivial
  | answered answer => trivial
  | brokenDown => trivial

end Startup

/-! ### Starts and stops side by side -/

namespace Call

variable {ω : Type} {x : Interleaving (Manager × ω) Call} {engine : Engine}

/-- An engine is around: the manager has it, or a start has it in hand. -/
def Around (x : Interleaving (Manager × ω) Call) (engine : Engine) : Prop :=
  x.shared.1.engine = some engine ∨
    ∃ config stage, .starting config stage ∈ x.calls ∧ stage.engine? = some engine

/-- An engine reflects the settings of a start among those that were made. -/
def Explains (es : List (Interleaving.Event Call)) (engine : Engine) : Prop :=
  ∃ config, .start (start config) ∈ es ∧ engine.Reflects config

/-- A start was made, and relies on its settings only after it has looked at them. -/
def Vetted (es : List (Interleaving.Event Call)) : Call → Prop
  | starting config stage => .start (start config) ∈ es ∧ stage.Vetted config
  | stopping _ => True

/-- The engine of a manager is explained. -/
def Known (es : List (Interleaving.Event Call)) (shared : Manager × ω) : Prop :=
  ∀ engine, shared.1.engine = some engine → Explains es engine

variable {es : List (Interleaving.Event Call)}

/-- A start that begins has no settings to rely on yet. -/
lemma vetted_of_begun {call : Call} (hcall : .start call ∈ es)
    (begun : call = stop ∨ ∃ config, call = start config) : call.Vetted es := by
  rcases begun with rfl | ⟨config, rfl⟩
  · trivial
  · exact ⟨hcall, trivial⟩

/-- A step of a call relies on settings that were looked at, and makes no other engine known. -/
lemma vetted_step (system : System ω) (call : Call) (shared : Manager × ω)
    (hcall : call.Vetted es) (hshared : Known es shared) :
    (call.step system shared).1.Vetted es ∧ Known es (call.step system shared).2.1 := by
  cases call with
  | starting config stage =>
    obtain ⟨hmade, hvetted⟩ := hcall
    have hstep := Startup.handsOn_step system config stage shared.1 shared.2
    refine ⟨⟨hmade, Startup.vetted_step hvetted system shared.1 shared.2⟩, fun engine hknown => ?_⟩
    rcases hstep.known_cases hknown with hold | hhand
    · exact hshared engine hold
    · exact ⟨config, hmade, hvetted.reflects hhand⟩
  | stopping stage =>
    refine ⟨trivial, fun engine hknown => hshared engine ?_⟩
    cases stage with
    | engine => cases hknown
    | _ => exact hknown

/-- In whatever order starts and stops go on, an engine that is around is explained. -/
lemma explains_run (system : System ω) {m : Manager} (w : ω) (hnone : m.engine = none)
    (begun : ∀ call, .start call ∈ es → call = stop ∨ ∃ config, call = start config)
    (haround : Around (interleave system ⟨(m, w), []⟩ es).1 engine) : Explains es engine := by
  have hfresh : Known es (m, w) := fun engine hno => by cases hnone.symm.trans hno
  obtain ⟨hcalls, hshared⟩ := Interleaving.keeps_run (vetted_step system) (x := ⟨(m, w), []⟩)
    (fun _ hno => by cases hno) hfresh es fun call hcall => vetted_of_begun hcall (begun call hcall)
  rcases haround with hknown | ⟨config, stage, hmem, hhand⟩
  · exact hshared engine hknown
  · obtain ⟨hmade, hvetted⟩ := hcalls _ hmem
    exact ⟨config, hmade, hvetted.reflects hhand⟩

end Call

/-! ### Connections -/

/-- A connection that an engine runs has a driver that is new and has nothing to send. -/
lemma Engine.runConnection_driver {engine : Engine} {id : ConnectionId} {identity : Identity}
    {encrypted : Bool} {ends : Except SystemError (Endpoint × Endpoint)} {opening : Opening}
    {d : TcpDriver}
    (h : (engine.runConnection id identity encrypted ends opening).1 = some d) :
    d.Filled ∧ d.chunkSize = engine.chunkSize ∧ d.reason = none := by
  cases ends with
  | error source => cases h
  | ok ends =>
    cases h
    exact ⟨⟨nofun, nofun, nofun⟩, rfl, rfl⟩

/-- **No empty buffer is written, and none is read into.**  In whatever order starts and stops of a
manager go on, an engine that is around was made of settings that were accepted; and whatever
happens to a connection that it runs, as long as what is to be sent comes from handles, there are
always bytes for a write and space of the configured size for a read.  So one that moves nothing
means that the socket refused bytes, or that the peer ended its stream. -/
theorem offers_no_empty_buffer {ω : Type} (system : System ω) (m : Manager) (w : ω)
    (hnone : m.engine = none) (calls : List (Interleaving.Event Call))
    (begun : ∀ call, .start call ∈ calls → call = Call.stop ∨ ∃ config, call = Call.start config)
    {engine : Engine} (haround : Call.Around (Call.interleave system ⟨(m, w), []⟩ calls).1 engine) :
    ∃ config, .start (Call.start config) ∈ calls ∧ config.violations = [] ∧
      ∀ {id identity encrypted ends opening d},
        (engine.runConnection id identity encrypted ends opening).1 = some d →
        ∀ es, (∀ r, .request r ∈ es → r.IsIssued) → d.OffersSome config.chunkSize es := by
  obtain ⟨config, hmade, hreflects⟩ := Call.explains_run system w hnone begun haround
  refine ⟨config, hmade, hreflects.valid, ?_⟩
  intro id identity encrypted ends opening d hdriver es hissued
  obtain ⟨hfilled, hsize, hnew⟩ := Engine.runConnection_driver hdriver
  have hsame : d.chunkSize = config.chunkSize := hsize.trans hreflects.chunkSize
  rw [← hsame]
  exact TcpDriver.offersSome hfilled (hsame ▸ one_le_chunkSize hreflects.valid) hnew hissued

/-- A manager is started with reads of three bytes. -/
def startingSmall : List (Interleaving.Event Call) :=
  .start (.start { ports := [80], threadCount := 1, chunkSize := 3 }) ::
    List.replicate 8 (.advance 0)

/-- Besides a chunk, nothing is asked to be sent in several ways; the socket takes over a part of
the chunk, and then no more. -/
def clogging : List TcpDriver.Event :=
  [.returned true, .request (.ofChunk []), .request (.ofPart none 0),
    .request (.ofPart (some [1, 2, 3]) 2), .command, .writeDone (.ok 1), .writeDone (.ok 0)]

/-- A socket that refuses bytes from the sixth event on, and whose peer does not end the stream. -/
def clogged : TcpDriver.Socket where
  ended _ := False
  refuses before := 6 ≤ before.length

/-- Such a socket can answer like that. -/
lemma answers_clogged (d : TcpDriver) : clogged.Answers d clogging := by
  have hat : ∀ {before e}, before ++ [e] <+: clogging → clogging[before.length]? = some e := by
    rintro before e ⟨after, hclogging⟩
    simp [← hclogging]
  constructor
  case read =>
    intro before space hpart
    have hmem := hpart.subset (List.mem_append_right before (List.mem_singleton_self _))
    simp [clogging] at hmem
  case write =>
    intro before buffer hpart _
    refine .inr ?_
    have hnow := hat hpart
    show 6 ≤ before.length
    generalize before.length = n at hnow
    rcases n with _ | _ | _ | _ | _ | _ | n
    all_goals first | cases hnow | omega

/-- The driver of such a connection leaves because nothing was taken over, and the socket did refuse
a byte then; a read would have had three bytes of space. -/
theorem offers_no_empty_buffer_clogged :
    ∃ engine d, Call.Around (Call.interleave .bare ⟨({}, ()), []⟩ startingSmall).1 engine ∧
      (engine.runConnection ⟨1⟩ ⟨7⟩ false
        (.ok (⟨.v4 0x7f000001, 5001⟩, ⟨.v4 0x7f000001, 7001⟩)) .connected).1 = some d ∧
      (d.run (clogging.take 6)).1.offer? = some [2] ∧
      (∃ space, (d.run (clogging.take 6)).1.space? = some space ∧ space.length = 3) ∧
      (d.run clogging).1.reason = some (.failed TcpDriver.writeZero) ∧
      ∃ before, before ++ [.writeDone (.ok 0)] <+: clogging ∧ clogged.refuses before := by
  obtain ⟨engine, hengine⟩ : ∃ engine,
      (Call.interleave .bare ⟨({}, ()), []⟩ startingSmall).1.shared.1.engine = some engine :=
    Option.isSome_iff_exists.mp (by decide +kernel)
  have hbegun : ∀ call, .start call ∈ startingSmall →
      call = Call.stop ∨ ∃ config, call = Call.start config := by
    intro call hcall
    simp only [startingSmall, List.mem_cons, List.mem_replicate, Interleaving.Event.start.injEq,
      reduceCtorEq, and_false, or_false] at hcall
    exact .inr ⟨_, hcall⟩
  obtain ⟨config, hmade, -, hoffers⟩ := offers_no_empty_buffer .bare {} () rfl startingSmall hbegun
    (.inl hengine)
  obtain rfl : config = { ports := [80], threadCount := 1, chunkSize := 3 } := by
    simpa [startingSmall, Call.start] using hmade
  have hissued : ∀ r, .request r ∈ clogging → r.IsIssued := by
    intro r hr
    simp only [clogging, List.mem_cons, TcpDriver.Event.request.injEq, reduceCtorEq,
      List.not_mem_nil, false_or, or_false] at hr
    rcases hr with rfl | rfl | rfl
    · exact .ofChunk _
    · exact .ofPart _ _
    · exact .ofPart _ _
  obtain ⟨d, hdriver⟩ : ∃ d, (engine.runConnection ⟨1⟩ ⟨7⟩ false
      (.ok (⟨.v4 0x7f000001, 5001⟩, ⟨.v4 0x7f000001, 7001⟩)) .connected).1 = some d := ⟨_, rfl⟩
  have hbefore := hoffers hdriver (clogging.take 6) fun r hr => hissued r (List.mem_of_mem_take hr)
  have hafter := hoffers hdriver clogging hissued
  have hreason : (d.run clogging).1.reason = some (.failed TcpDriver.writeZero) := by
    cases hdriver
    rfl
  obtain ⟨space, hspace⟩ : ∃ space, (d.run (clogging.take 6)).1.space? = some space := by
    cases hdriver
    exact ⟨_, rfl⟩
  refine ⟨engine, d, .inl hengine, hdriver, by cases hdriver; rfl,
    ⟨space, hspace, (hbefore.spaces hspace).1⟩, hreason, ?_⟩
  refine (hafter.failed (answers_clogged d) hreason).resolve_right ?_
  rintro ⟨e, he, hfails⟩
  simp only [clogging, List.mem_cons, List.not_mem_nil, or_false] at he
  rcases he with rfl | rfl | rfl | rfl | rfl | rfl | rfl <;> cases hfails

end Switchboard.Tcp
