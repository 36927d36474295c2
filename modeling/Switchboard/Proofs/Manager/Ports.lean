import Switchboard.Proofs.Manager.Standing

/-!
# Asking for ports

A start asks the system for one port after the other, and its policy says at which answer it stops:
at the first failure if all ports are wanted, at the first success if any will do
(`PortPolicy.made`). `PortPolicy.binding` is what comes of that, told without a manager, and
`Binding.Obeys` is what the two policies promise about it.

The answers of the system are a sequence of results that are given out one by one (`Trial.script`),
so the system's state tells which ports were asked for.
-/

namespace Switchboard

/-! ### Trials -/

/-- A port that was asked for, and the answer. -/
structure Trial where
  /-- Where the port was to be opened. -/
  endpoint : Endpoint
  /-- What came of it. -/
  result : Except SystemError Port

namespace Trial

/-- The port that was opened. -/
def got? (t : Trial) : Option Port :=
  match t.result with
  | .ok port => some port
  | .error _ => none

/-- Why no port was opened. -/
def failure? (t : Trial) : Option NetworkError :=
  match t.result with
  | .ok _ => none
  | .error e => some (.bind t.endpoint e)

/-- The ports that were opened, in order. -/
def gots (trials : List Trial) : List Port := trials.filterMap got?

/-- The failures, in order. -/
def failures (trials : List Trial) : List NetworkError := trials.filterMap failure?

@[simp] lemma gots_nil : gots [] = [] := rfl

@[simp] lemma gots_cons_ok (endpoint : Endpoint) (port : Port) (rest : List Trial) :
    gots (⟨endpoint, .ok port⟩ :: rest) = port :: gots rest := rfl

@[simp] lemma gots_cons_error (endpoint : Endpoint) (e : SystemError) (rest : List Trial) :
    gots (⟨endpoint, .error e⟩ :: rest) = gots rest := rfl

@[simp] lemma failures_nil : failures [] = [] := rfl

@[simp] lemma failures_cons_ok (endpoint : Endpoint) (port : Port) (rest : List Trial) :
    failures (⟨endpoint, .ok port⟩ :: rest) = failures rest := rfl

@[simp] lemma failures_cons_error (endpoint : Endpoint) (e : SystemError) (rest : List Trial) :
    failures (⟨endpoint, .error e⟩ :: rest) = .bind endpoint e :: failures rest := rfl

lemma gots_append (early late : List Trial) : gots (early ++ late) = gots early ++ gots late :=
  List.filterMap_append

lemma failures_append (early late : List Trial) :
    failures (early ++ late) = failures early ++ failures late :=
  List.filterMap_append

lemma gots_eq_nil_iff {trials : List Trial} : gots trials = [] ↔ ∀ t ∈ trials, t.got? = none :=
  List.filterMap_eq_nil_iff

lemma failures_eq_nil_iff {trials : List Trial} :
    failures trials = [] ↔ ∀ t ∈ trials, t.failure? = none :=
  List.filterMap_eq_nil_iff

/-- Every trial opens a port or fails. -/
lemma length_failures_add (trials : List Trial) :
    (failures trials).length + (gots trials).length = trials.length := by
  induction trials with
  | nil => rfl
  | cons t rest ih =>
    obtain ⟨endpoint, _ | _⟩ := t <;> simp <;> omega

/-- If no trial fails the ports that were opened are the answers. -/
lemma map_ok_gots {trials : List Trial} (h : failures trials = []) :
    (gots trials).map .ok = trials.map result := by
  induction trials with
  | nil => rfl
  | cons t rest ih =>
    obtain ⟨endpoint, _ | _⟩ := t
    · simp at h
    · simpa using ih h

/-- The trials of a start that asks for all its ports, given the answers in order. -/
def ofPorts (host : IpAddress) (ports : List Port) (results : Nat → Except SystemError Port) :
    List Trial :=
  ports.mapIdx fun i port => ⟨⟨host, port⟩, results i⟩

/-- A system that gives out one answer after the other, and keeps the trials. -/
def script (results : Nat → Except SystemError Port) (made : List Trial) (endpoint : Endpoint) :
    Except SystemError Port × List Trial :=
  (results made.length, made ++ [⟨endpoint, results made.length⟩])

/-- Either a port was opened or there is a failure. -/
lemma failure?_eq_none_iff (t : Trial) : t.failure? = none ↔ t.got?.isSome = true := by
  obtain ⟨endpoint, _ | _⟩ := t <;> simp [got?, failure?]

lemma ofPorts_cons (host : IpAddress) (port : Port) (rest : List Port)
    (results : Nat → Except SystemError Port) : ofPorts host (port :: rest) results =
      ⟨⟨host, port⟩, results 0⟩ :: ofPorts host rest fun i => results (i + 1) := by
  simp [ofPorts, List.mapIdx_cons]

@[simp] lemma length_ofPorts (host : IpAddress) (ports : List Port)
    (results : Nat → Except SystemError Port) :
    (ofPorts host ports results).length = ports.length := by
  simp [ofPorts]

lemma forall_mem_ofPorts (host : IpAddress) (ports : List Port)
    (results : Nat → Except SystemError Port) (P : Except SystemError Port → Prop) :
    (∀ t ∈ ofPorts host ports results, P t.result) ↔ ∀ i < ports.length, P (results i) := by
  simp only [ofPorts, List.mem_mapIdx]
  constructor
  · exact fun h i hi => h _ ⟨i, hi, rfl⟩
  · rintro h t ⟨i, hi, rfl⟩
    exact h i hi

/-- No trial fails exactly if every answer is a port. -/
lemma failures_ofPorts_eq_nil_iff (host : IpAddress) (ports : List Port)
    (results : Nat → Except SystemError Port) :
    failures (ofPorts host ports results) = [] ↔
      ∀ i < ports.length, ∃ port, results i = .ok port := by
  rw [failures_eq_nil_iff, ← forall_mem_ofPorts host ports results fun r => ∃ port, r = .ok port]
  refine forall₂_congr fun t _ => ?_
  obtain ⟨endpoint, _ | _⟩ := t <;> simp [failure?]

/-- No trial opens a port exactly if every answer is a failure. -/
lemma gots_ofPorts_eq_nil_iff (host : IpAddress) (ports : List Port)
    (results : Nat → Except SystemError Port) :
    gots (ofPorts host ports results) = [] ↔ ∀ i < ports.length, ∃ e, results i = .error e := by
  rw [gots_eq_nil_iff, ← forall_mem_ofPorts host ports results fun r => ∃ e, r = .error e]
  refine forall₂_congr fun t _ => ?_
  obtain ⟨endpoint, _ | _⟩ := t <;> simp [got?]

/-- The trials of a start tell the answers. -/
lemma map_result_ofPorts (host : IpAddress) (ports : List Port)
    (results : Nat → Except SystemError Port) :
    (ofPorts host ports results).map result = (List.range ports.length).map results := by
  refine List.ext_getElem (by simp [ofPorts]) fun i _ _ => ?_
  simp [ofPorts]

end Trial

/-! ### Policies -/

namespace PortPolicy

variable {ω : Type} {policy : PortPolicy} {host : IpAddress}

/-- Whether a start asks for no more ports after a trial. -/
def endsAt : PortPolicy → Trial → Bool
  | all, t => t.failure?.isSome
  | any, t => t.got?.isSome

lemma failures_eq_nil_of_endsAt {trials : List Trial} (h : ∀ t ∈ trials, all.endsAt t = false) :
    Trial.failures trials = [] :=
  Trial.failures_eq_nil_iff.mpr fun t ht =>
    Option.not_isSome_iff_eq_none.mp (Bool.eq_false_iff.mp (h t ht))

lemma gots_eq_nil_of_endsAt {trials : List Trial} (h : ∀ t ∈ trials, any.endsAt t = false) :
    Trial.gots trials = [] :=
  Trial.gots_eq_nil_iff.mpr fun t ht =>
    Option.not_isSome_iff_eq_none.mp (Bool.eq_false_iff.mp (h t ht))

/-- The trials that are made, of those that could be made. -/
def made (policy : PortPolicy) : List Trial → List Trial
  | [] => []
  | t :: rest => t :: if policy.endsAt t then [] else policy.made rest

/-- The trials that are made are all, or those up to the first that is the last one. -/
lemma made_cases (policy : PortPolicy) (trials : List Trial) :
    (policy.made trials = trials ∧ ∀ t ∈ trials, policy.endsAt t = false) ∨
      ∃ early t late, trials = early ++ t :: late ∧ policy.made trials = early ++ [t] ∧
        (∀ t' ∈ early, policy.endsAt t' = false) ∧ policy.endsAt t = true := by
  induction trials with
  | nil => exact .inl ⟨rfl, by simp⟩
  | cons first rest ih =>
    rw [made]
    cases hends : policy.endsAt first with
    | true => exact .inr ⟨[], first, rest, rfl, rfl, by simp, hends⟩
    | false =>
      obtain ⟨hall, hgoes⟩ | ⟨early, t, late, rfl, hmade, hearly, hlast⟩ := ih
      · refine .inl ⟨by simp [hall], fun t ht => ?_⟩
        rcases List.mem_cons.mp ht with rfl | ht
        · exact hends
        · exact hgoes t ht
      · refine .inr ⟨first :: early, t, late, rfl, by simp [hmade], fun t' ht' => ?_, hlast⟩
        rcases List.mem_cons.mp ht' with rfl | ht'
        · exact hends
        · exact hearly t' ht'

lemma made_prefix (policy : PortPolicy) (trials : List Trial) : policy.made trials <+: trials := by
  obtain ⟨hall, -⟩ | ⟨early, t, late, rfl, hmade, -⟩ := policy.made_cases trials
  · exact ⟨[], by rw [hall, List.append_nil]⟩
  · rw [hmade]
    exact ⟨late, by simp⟩

/-- The state of the system after a start has asked for ports, and the failures on the way. -/
def asking (policy : PortPolicy) (listen : ω → Endpoint → Except SystemError Port × ω)
    (host : IpAddress) : List Port → ω → ω × List NetworkError
  | [], w => (w, [])
  | port :: rest, w =>
    match policy, listen w ⟨host, port⟩ with
    | all, (.ok _, w) => policy.asking listen host rest w
    | all, (.error e, w) => (w, [.bind ⟨host, port⟩ e])
    | any, (.ok _, w) => (w, [])
    | any, (.error e, w) =>
      let later := policy.asking listen host rest w
      (later.1, .bind ⟨host, port⟩ e :: later.2)

/-- After a port that opens a start asks for the rest, unless one is enough. -/
lemma asking_of_open {listen : ω → Endpoint → Except SystemError Port × ω} {port opened : Port}
    {rest : List Port} {w w' : ω} (hopen : listen w ⟨host, port⟩ = (.ok opened, w')) :
    policy.asking listen host (port :: rest) w =
      policy.asking listen host (if policy = .any then [] else rest) w' := by
  cases policy <;> simp [asking, hopen]

/-- After a port that does not open a start asks for the rest, unless all are wanted. -/
lemma asking_of_closed {listen : ω → Endpoint → Except SystemError Port × ω} {port : Port}
    {rest : List Port} {w w' : ω} {e : SystemError}
    (hclosed : listen w ⟨host, port⟩ = (.error e, w')) :
    policy.asking listen host (port :: rest) w =
      let later := policy.asking listen host (if policy = .all then [] else rest) w'
      (later.1, .bind ⟨host, port⟩ e :: later.2) := by
  cases policy <;> simp [asking, hclosed]

/-- The answers that are left after one was given out. -/
lemma ofPorts_script_concat (host : IpAddress) (rest : List Port)
    (results : Nat → Except SystemError Port) (before : List Trial) (t : Trial) :
    Trial.ofPorts host rest (fun i => results ((before ++ [t]).length + i)) =
      Trial.ofPorts host rest fun i => results (before.length + (i + 1)) := by
  congr 1
  funext i
  rw [List.length_append, List.length_singleton, Nat.add_assoc, Nat.add_comm 1 i]

/-- Answers that are given out one by one are those to the trials that are made. -/
lemma asking_script (policy : PortPolicy) (host : IpAddress) (ports : List Port)
    (results : Nat → Except SystemError Port) (before : List Trial) :
    let trials := Trial.ofPorts host ports fun i => results (before.length + i)
    policy.asking (Trial.script results) host ports before =
      (before ++ policy.made trials, Trial.failures (policy.made trials)) := by
  induction ports generalizing before with
  | nil => simp [asking, Trial.ofPorts, made, Trial.failures]
  | cons port rest ih =>
    have hrest := ih (before ++ [⟨⟨host, port⟩, results before.length⟩])
    simp only [ofPorts_script_concat, List.append_assoc, List.singleton_append] at hrest
    simp only [Trial.ofPorts_cons, Nat.add_zero, made, asking, Trial.script]
    cases hresult : results before.length with
    | ok got =>
      rw [hresult] at hrest
      cases policy with
      | all => simpa [endsAt, Trial.failure?] using hrest
      | any => simp [endsAt, Trial.got?]
    | error e =>
      rw [hresult] at hrest
      cases policy with
      | all => simp [endsAt, Trial.failure?]
      | any => simp [endsAt, Trial.got?, hrest]

/-- What comes of trials: all must have opened a port, or any of those that were opened is taken. -/
def answer (policy : PortPolicy) (made : List Trial) : Except NetworkError (List Port) :=
  match policy, Trial.failures made with
  | all, e :: _ => .error e
  | _, _ => .ok (Trial.gots made)

lemma opened_script (policy : PortPolicy) (host : IpAddress) (ports : List Port)
    (results : Nat → Except SystemError Port) (before : List Trial) :
    policy.opened (Trial.script results) host ports before =
      policy.answer
        (policy.made (Trial.ofPorts host ports fun i => results (before.length + i))) := by
  induction ports generalizing before with
  | nil => cases policy <;> rfl
  | cons port rest ih =>
    have hrest := ih (before ++ [⟨⟨host, port⟩, results before.length⟩])
    simp only [ofPorts_script_concat] at hrest
    simp only [Trial.ofPorts_cons, Nat.add_zero, made, PortPolicy.opened, Trial.script]
    cases hresult : results before.length with
    | ok got =>
      rw [hresult] at hrest
      cases policy with
      | all =>
        simp only [hrest, endsAt, answer, Trial.failure?, Option.isSome_none, Bool.false_eq_true,
          if_false, Trial.failures_cons_ok, Trial.gots_cons_ok]
        cases Trial.failures (all.made
          (Trial.ofPorts host rest fun i => results (before.length + (i + 1)))) <;> rfl
      | any => simp [endsAt, answer, Trial.got?]
    | error e =>
      rw [hresult] at hrest
      cases policy with
      | all => simp [endsAt, answer, Trial.failure?]
      | any => simp [endsAt, answer, Trial.got?, hrest]

/-- What comes of a start that asks for all its ports. -/
lemma verdict_script (policy : PortPolicy) (host : IpAddress) (wanted : List Port)
    (results : Nat → Except SystemError Port) :
    policy.verdict (Trial.script results) host wanted [] wanted [] =
      (policy.answer (policy.made (Trial.ofPorts host wanted results))).bind (enough wanted) := by
  rw [verdict, opened_script]
  simp

end PortPolicy

/-! ### What the policies promise -/

/-- What comes of asking for ports. -/
structure Binding where
  /-- The answer of the start. -/
  answer : Except NetworkError Unit
  /-- The ports that are listed afterwards. -/
  ports : List Port
  /-- The trials that were made. -/
  made : List Trial
  /-- The failures that the service is told of. -/
  reported : List NetworkError

/-- What comes of asking for ports under a policy. -/
def PortPolicy.binding (policy : PortPolicy) (host : IpAddress) (wanted : List Port)
    (results : Nat → Except SystemError Port) : Binding :=
  let made := policy.made (Trial.ofPorts host wanted results)
  let verdict := (policy.answer made).bind (enough wanted)
  { answer := verdict.map fun _ => ()
    ports := verdict.toOption.getD []
    made
    reported := Trial.failures made }

/-- What a start does with its ports, given those that are wanted and the answers to the trials. -/
structure Binding.Obeys (b : Binding) (policy : PortPolicy) (host : IpAddress) (wanted : List Port)
    (results : Nat → Except SystemError Port) : Prop where
  /-- Ports are tried in order. -/
  inOrder : b.made <+: Trial.ofPorts host wanted results
  /-- Each failure on the way is reported once, and nothing else. -/
  reported : b.reported = Trial.failures b.made
  /-- If all ports are wanted, the start succeeds exactly if all of them open. -/
  all_iff : policy = .all →
    (b.answer = .ok () ↔ ∀ i < wanted.length, ∃ port, results i = .ok port)
  /-- Then all of them were tried, and are listed in order. -/
  all_ok : policy = .all → b.answer = .ok () → b.made = Trial.ofPorts host wanted results ∧
    b.ports.map .ok = (List.range wanted.length).map results ∧ b.reported = []
  /-- Otherwise the first that fails is the last that is tried, and is what the start answers. -/
  all_error : policy = .all → ∀ e, b.answer = .error e → b.ports = [] ∧ b.reported = [e] ∧
    ∃ early t, b.made = early ++ [t] ∧ Trial.failures early = [] ∧ t.failure? = some e
  /-- If any port will do, the start fails exactly if there were some to be tried and none opens. -/
  any_iff : policy = .any → (b.answer = .error .noListener ↔
    wanted ≠ [] ∧ ∀ i < wanted.length, ∃ e, results i = .error e)
  /-- It does not fail for any other reason, and before that all were tried. -/
  any_error : policy = .any → ∀ e, b.answer = .error e → e = .noListener ∧ b.ports = [] ∧
    b.made = Trial.ofPorts host wanted results ∧ Trial.gots b.made = []
  /-- Otherwise the first that opens is the last that is tried, and the only one that is listed. -/
  any_ok : policy = .any → wanted ≠ [] → b.answer = .ok () →
    ∃ early t port, b.made = early ++ [t] ∧ Trial.gots early = [] ∧ t.got? = some port ∧
      b.ports = [port] ∧ b.reported.length = early.length
  /-- Without ports there is nothing to be done. -/
  none : wanted = [] → b.answer = .ok () ∧ b.ports = [] ∧ b.made = []

namespace PortPolicy

variable (host : IpAddress) (wanted : List Port) (results : Nat → Except SystemError Port)

/-- What comes of asking for all ports: all of them, or the first failure. -/
lemma binding_all :
    let trials := Trial.ofPorts host wanted results
    (Trial.failures trials = [] ∧
        all.binding host wanted results = ⟨.ok (), Trial.gots trials, trials, []⟩) ∨
      ∃ early t late e, trials = early ++ t :: late ∧ Trial.failures early = [] ∧
        t.failure? = some e ∧
        all.binding host wanted results = ⟨.error e, [], early ++ [t], [e]⟩ := by
  intro trials
  obtain ⟨hall, hgoes⟩ | ⟨early, t, late, htrials, hmade, hearly, hends⟩ := all.made_cases trials
  · have hnone := failures_eq_nil_of_endsAt hgoes
    have hlength : (Trial.gots trials).length = wanted.length := by
      simpa [hnone, trials] using Trial.length_failures_add trials
    -- as many ports were opened as were wanted
    have henough : enough wanted (Trial.gots trials) = .ok (Trial.gots trials) := by
      rw [enough, if_neg]
      simp only [Bool.and_eq_true, List.isEmpty_iff, Bool.not_eq_true', List.isEmpty_eq_false_iff]
      rintro ⟨hgots, hwanted⟩
      exact hwanted (List.length_eq_zero_iff.mp (by rw [← hlength, hgots]; rfl))
    refine .inl ⟨hnone, ?_⟩
    simp [binding, answer, hall, hnone, henough, trials, Except.bind, Except.map, Except.toOption]
  · have hnone := failures_eq_nil_of_endsAt hearly
    obtain ⟨e, he⟩ := Option.isSome_iff_exists.mp hends
    have hfailures : Trial.failures (early ++ [t]) = [e] := by
      rw [Trial.failures_append, hnone]
      simp [Trial.failures, he]
    refine .inr ⟨early, t, late, e, htrials, hnone, he, ?_⟩
    simp [binding, answer, hmade, hfailures, trials, Except.bind, Except.map, Except.toOption]

/-- What comes of asking for any port: nothing to be done, no port, or the first that opens. -/
lemma binding_any :
    let trials := Trial.ofPorts host wanted results
    (wanted = [] ∧ any.binding host wanted results = ⟨.ok (), [], [], []⟩) ∨
    (wanted ≠ [] ∧ Trial.gots trials = [] ∧
        any.binding host wanted results = ⟨.error .noListener, [], trials, Trial.failures trials⟩) ∨
      ∃ early t late port, trials = early ++ t :: late ∧ Trial.gots early = [] ∧
        t.got? = some port ∧
        any.binding host wanted results = ⟨.ok (), [port], early ++ [t], Trial.failures early⟩ := by
  intro trials
  obtain ⟨hall, hgoes⟩ | ⟨early, t, late, htrials, hmade, hearly, hends⟩ := any.made_cases trials
  · have hnone := gots_eq_nil_of_endsAt hgoes
    by_cases hwanted : wanted = []
    · subst hwanted
      exact .inl ⟨rfl, rfl⟩
    · refine .inr (.inl ⟨hwanted, hnone, ?_⟩)
      simp [binding, answer, hall, hnone, trials, enough, hwanted, Except.bind, Except.map,
        Except.toOption]
  · have hnone := gots_eq_nil_of_endsAt hearly
    obtain ⟨port, hport⟩ := Option.isSome_iff_exists.mp hends
    have hfailure : t.failure? = none := (Trial.failure?_eq_none_iff t).mpr hends
    have hgots : Trial.gots (early ++ [t]) = [port] := by
      rw [Trial.gots_append, hnone]
      simp [Trial.gots, hport]
    have hfailures : Trial.failures (early ++ [t]) = Trial.failures early := by
      rw [Trial.failures_append]
      simp [Trial.failures, hfailure]
    refine .inr (.inr ⟨early, t, late, port, htrials, hnone, hport, ?_⟩)
    simp [binding, answer, hmade, hgots, hfailures, trials, enough, Except.bind, Except.map,
      Except.toOption]

/-- Both policies keep what they promise. -/
lemma obeys_binding (policy : PortPolicy) :
    (policy.binding host wanted results).Obeys policy host wanted results := by
  have hall := binding_all host wanted results
  have hany := binding_any host wanted results
  constructor
  case inOrder => exact policy.made_prefix _
  case reported => rfl
  case all_iff =>
    rintro rfl
    obtain ⟨hnone, hbinding⟩ | ⟨early, t, late, e, htrials, -, hfailure, hbinding⟩ := hall
    · rw [hbinding]
      exact ⟨fun _ => (Trial.failures_ofPorts_eq_nil_iff host wanted results).mp hnone,
        fun _ => rfl⟩
    · rw [hbinding]
      refine ⟨fun hok => (by cases hok), fun hopen => ?_⟩
      have hnone := Trial.failures_eq_nil_iff.mp
        ((Trial.failures_ofPorts_eq_nil_iff host wanted results).mpr hopen) t (by simp [htrials])
      rw [hfailure] at hnone
      cases hnone
  case all_ok =>
    rintro rfl hok
    obtain ⟨hnone, hbinding⟩ | ⟨early, t, late, e, -, -, -, hbinding⟩ := hall
    · rw [hbinding]
      exact ⟨rfl, (Trial.map_ok_gots hnone).trans (Trial.map_result_ofPorts host wanted results),
        rfl⟩
    · rw [hbinding] at hok
      cases hok
  case all_error =>
    rintro rfl e herror
    obtain ⟨-, hbinding⟩ | ⟨early, t, late, e', -, hnone, hfailure, hbinding⟩ := hall
    · rw [hbinding] at herror
      cases herror
    · rw [hbinding] at herror ⊢
      cases herror
      exact ⟨rfl, rfl, early, t, rfl, hnone, hfailure⟩
  case any_iff =>
    rintro rfl
    rw [← Trial.gots_ofPorts_eq_nil_iff host wanted results]
    obtain ⟨hwanted, hbinding⟩ | ⟨hwanted, hnone, hbinding⟩ |
      ⟨early, t, late, port, htrials, -, hport, hbinding⟩ := hany
    · rw [hbinding]
      exact ⟨fun hno => (by cases hno), fun hsome => absurd hwanted hsome.1⟩
    · rw [hbinding]
      exact ⟨fun _ => ⟨hwanted, hnone⟩, fun _ => rfl⟩
    · rw [hbinding]
      refine ⟨fun hno => (by cases hno), fun hnone => ?_⟩
      have hgot := Trial.gots_eq_nil_iff.mp hnone.2 t (by simp [htrials])
      rw [hport] at hgot
      cases hgot
  case any_error =>
    rintro rfl e herror
    obtain ⟨-, hbinding⟩ | ⟨-, hnone, hbinding⟩ | ⟨early, t, late, port, -, -, -, hbinding⟩ := hany
    · rw [hbinding] at herror
      cases herror
    · rw [hbinding] at herror ⊢
      cases herror
      exact ⟨rfl, rfl, rfl, hnone⟩
    · rw [hbinding] at herror
      cases herror
  case any_ok =>
    rintro rfl hwanted hok
    rcases hany with
      ⟨hempty, -⟩ | ⟨-, -, hbinding⟩ | ⟨early, t, late, port, -, hnone, hport, hbinding⟩
    · exact absurd hempty hwanted
    · rw [hbinding] at hok
      cases hok
    · rw [hbinding]
      have hlength := Trial.length_failures_add early
      rw [hnone, List.length_nil, Nat.add_zero] at hlength
      exact ⟨early, t, port, rfl, hnone, hport, rfl, hlength⟩
  case none =>
    rintro rfl
    cases policy <;> exact ⟨rfl, rfl, rfl⟩

end PortPolicy

end Switchboard
