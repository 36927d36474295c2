import Switchboard.Config.Validation
import Switchboard.Proofs.Proxy.Return
import Switchboard.Proofs.Proxy.Watch
import Switchboard.Tcp.Outbound

/-!
# Clients that nobody sees to

An attempt to reach a target ends without one in two ways (`Exchange.outcome`): the service is told
that there is no connection, or it is told of an error in the handshake and of no pair at all.  In
the second case nothing but the deadline sees to the client, and without a connect timeout there is
no deadline.  Then the client is an orphan, and it stays one whatever becomes of all others
(`Exchange.orphaned_run`).  `Exchange.client_looked_after` has both sides of that, and
`Exchange.orphaned_client` is an orphan in a configuration that nothing is wrong with.
-/

namespace Switchboard

namespace Proxy

namespace Forwarder

/-- A configuration without a connect timeout makes a forwarder without a deadline. -/
lemma deadline_ofConfig? {c : Config} {f : Forwarder} (h : ofConfig? c = some f) :
    f.deadline = none ↔ c.tcp.connectTimeoutSecs = 0 := by
  unfold ofConfig? TcpConfig.connectTimeout seconds? at h
  by_cases hsecs : c.tcp.connectTimeoutSecs > 0
  · simp only [if_pos hsecs] at h
    split at h
    · obtain rfl := Option.some.inj h
      simp only [reduceCtorEq, false_iff]
      omega
    · cases h
  · simp only [if_neg hsecs] at h
    obtain rfl := Option.some.inj h
    simp only [true_iff]
    omega

end Forwarder

namespace Exchange

variable {x : Exchange}

/-! ### Without a deadline -/

/-- Nobody is about to close a connection. -/
def Unbidden (x : Exchange) (id : ConnectionId) : Prop :=
  (∀ other answer, x.errands.get? other ≠ some (.close id answer)) ∧
    ∀ answer, .close id answer ∉ x.loose

/-- A client without a target that nobody sees to: it waits for the network, it will not be told to
close, and no deadline is awaited. -/
structure Orphaned (x : Exchange) (n : Nat) (client : ConnectionId) (d : TcpDriver) : Prop where
  /-- No target will come. -/
  missed : x.Missed n
  /-- It is the source of the pair. -/
  source : x.forwarder.table.source? n = some client
  /-- Its driver is as it is. -/
  driver : x.drivers.get? client = some d
  /-- No call of its own is under way. -/
  waiting : d.phase = .waiting
  /-- No request to close is before it. -/
  unasked : .close ∉ d.mailbox.posted
  /-- Nobody is about to close it. -/
  unbidden : x.Unbidden client
  /-- There is no deadline. -/
  untimed : x.forwarder.deadline = none
  /-- No deadline is awaited. -/
  unwatched : x.watched = []

/-- A driver that waits with no request to close before it does not come to its end. -/
lemma not_isDoomed {client : ConnectionId} {d : TcpDriver} (hd : x.drivers.get? client = some d)
    (hwaiting : d.phase = .waiting) (hunasked : .close ∉ d.mailbox.posted) :
    ¬ x.IsDoomed client := by
  rintro ⟨d', hd', hidle | hposted⟩
  · obtain rfl := Option.some.inj (hd.symm.trans hd')
    simp [hwaiting, TcpPhase.isActive] at hidle
  · obtain rfl := Option.some.inj (hd.symm.trans hd')
    exact hunasked hposted

/-- Nothing sees to the end of an orphaned client. -/
lemma Orphaned.not_secured {n : Nat} {client : ConnectionId} {d : TcpDriver}
    (horphan : x.Orphaned n client d) : ¬ x.Secured n client := by
  rintro (hdoomed | ⟨answer, hloose⟩ | ⟨hdeadline, -⟩)
  · exact not_isDoomed horphan.driver horphan.waiting horphan.unasked hdoomed
  · exact horphan.unbidden.2 answer hloose
  · simp [horphan.untimed] at hdeadline

/-- Another side of the pair of an orphaned client could close it, but there is none. -/
lemma Orphaned.fst_closed (h : x.Sound) {n : Nat} {client : ConnectionId} {d : TcpDriver}
    (horphan : x.Orphaned n client d) {id : ConnectionId} (hid : id ≠ client) (answer : Bool) :
    (x.forwarder.closed id).1 ≠ .close client answer := by
  obtain ⟨p, hp, hs⟩ := PairTable.source?_eq_some_iff.mp horphan.source
  intro hclose
  have hleft : (x.forwarder.table.leave id).1 = some client := by
    unfold Forwarder.closed at hclose
    split at hclose
    · rename_i other table hleave
      obtain ⟨rfl, -⟩ := Errand.close.inj hclose
      rw [hleave]
    · cases hclose
  rcases PairTable.leave_cases h.table id with ⟨-, hleave⟩ | ⟨m, q, hm, hq, hleave⟩
  · simp [hleave] at hleft
  · rw [hleave] at hleft
    have hside : (q.without id).source = some client ∨ (q.without id).target = some client := by
      unfold Pair.either at hleft
      cases hsource : (q.without id).source <;> simp_all
    rcases hside with hside | hside
    · -- the other side of the client's pair would be its target
      have hsource := (PairTable.source_without hside).1
      have hlisted := h.table.source hq hsource
      obtain rfl : m = n := Option.some.inj (hlisted.symm.trans (h.table.source hp hs))
      obtain ⟨q', hq', hself | htarget⟩ := h.table.listed hm
      · obtain rfl := Option.some.inj (hq.symm.trans hq')
        exact hid (Option.some.inj (hself.symm.trans hsource))
      · exact horphan.missed.nobody id (h.target hq' htarget)
    · have htarget := (PairTable.target_without (h.table.apart hq) hside).1
      exact h.not_isTarget hp hs (h.target hq htarget)

/-- An orphaned client is left as it is by all that does not come from its own connection. -/
lemma Orphaned.step (h : x.Sound) {n : Nat} {client : ConnectionId} {d : TcpDriver}
    (horphan : x.Orphaned n client d) {e : Event} (he : ∀ f, e ≠ .drive client f) :
    (x.step e).1.Orphaned n client d := by
  have hmissed := horphan.missed.step h e
  have huntimed : (x.step e).1.forwarder.deadline = none := by
    rw [(deadline_step h e).1, horphan.untimed]
  have hsource := source_step h e horphan.source
  obtain ⟨p, hp, hs⟩ := PairTable.source?_eq_some_iff.mp horphan.source
  -- its driver makes no step, and it has no call that could
  have hfree : x.errands.get? client = none := by
    by_contra hsome
    obtain ⟨errand, hfound⟩ := Option.ne_none_iff_exists'.mp hsome
    obtain ⟨d', hd', hsuits⟩ := h.busy hfound
    obtain rfl := Option.some.inj (horphan.driver.symm.trans hd')
    simpa [horphan.waiting, TcpPhase.isCalling] using hsuits.isCalling
  have hother {id : ConnectionId} {d' : TcpDriver} (hd' : x.drivers.get? id = some d')
      (hphase : d'.phase ≠ .waiting) : id ≠ client := by
    rintro rfl
    obtain rfl := Option.some.inj (horphan.driver.symm.trans hd')
    exact hphase horphan.waiting
  have hput {id : ConnectionId} (d' : TcpDriver) (hid : id ≠ client) :
      (x.drivers.put id d').get? client = some d := by
    rw [Table.get?_put, if_neg (Ne.symm hid), horphan.driver]
  -- no errand turns into one to close it
  have hbid {id : ConnectionId} {errand : Errand} (hclose : ∀ answer, errand ≠ .close client answer)
      (id' : ConnectionId) (answer : Bool) :
      (x.errands.put id errand).get? id' ≠ some (.close client answer) := by
    rw [Table.get?_put]
    split
    · simpa using hclose answer
    · exact horphan.unbidden.1 id' answer
  have herase (id id' : ConnectionId) (answer : Bool) :
      (x.errands.erase id).get? id' ≠ some (.close client answer) := by
    rw [Table.get?_erase]
    split
    · simp
    · exact horphan.unbidden.1 id' answer
  have hsame : (x.step e).1.drivers.get? client = some d ∧ (x.step e).1.Unbidden client ∧
      (x.step e).1.watched = [] := by
    clear hmissed huntimed hsource
    have hmove := x.move_step h.loose e
    generalize x.step e = r at hmove
    cases hmove with
    | stay => exact ⟨horphan.driver, horphan.unbidden, horphan.unwatched⟩
    | accept id port host peer new =>
      refine ⟨hput _ fun hid => ?_, horphan.unbidden, horphan.unwatched⟩
      simp [hid, horphan.driver] at new
    | up number id host peer asked new =>
      refine ⟨hput _ fun hid => ?_, horphan.unbidden, horphan.unwatched⟩
      simp [hid, horphan.driver] at new
    | miss _ number loose notes asked brief closes =>
      refine ⟨horphan.driver, ⟨horphan.unbidden.1, fun answer hmem => ?_⟩, horphan.unwatched⟩
      rcases List.mem_append.mp hmem with hmem | hmem
      · exact horphan.unbidden.2 answer hmem
      · -- who is given up is the client of another pair
        obtain ⟨q, hq, hs'⟩ := PairTable.source?_eq_some_iff.mp (closes client answer hmem)
        obtain rfl : number = n :=
          Option.some.inj ((h.table.source hq hs').symm.trans (h.table.source hp hs))
        exact horphan.missed.unasked asked
    | expire number awaited => simp [horphan.unwatched] at awaited
    | turn _ _ turn =>
      cases turn with
      | enter id d' port driver free phase opening =>
        exact ⟨horphan.driver, ⟨hbid (by simp), horphan.unbidden.2⟩, horphan.unwatched⟩
      | join id d' q driver free phase opening pair =>
        exact ⟨horphan.driver, ⟨hbid (by simp), horphan.unbidden.2⟩, horphan.unwatched⟩
      | relay id d' driver free phase =>
        refine ⟨hput _ (hother driver (by simp [phase])), ⟨hbid fun answer hcall => ?_,
          horphan.unbidden.2⟩, horphan.unwatched⟩
        rcases x.forwarder.fst_received_cases id d'.received.data with
          ⟨_, hr⟩ | ⟨_, _, _, -, -, -, hr⟩ <;> simp [hr] at hcall
      | leave id d' driver free phase =>
        refine ⟨horphan.driver, ⟨hbid fun answer => ?_, horphan.unbidden.2⟩, horphan.unwatched⟩
        exact horphan.fst_closed h (hother driver (by simp [phase])) answer
    | conclude id d' answer driver free phase =>
      exact ⟨horphan.driver, ⟨hbid (by simp), horphan.unbidden.2⟩, horphan.unwatched⟩
    | answer id asked d' answer driver errand =>
      refine ⟨hput _ fun hid => ?_, ⟨herase id, horphan.unbidden.2⟩, horphan.unwatched⟩
      simp [hid, hfree] at errand
    | forget id asked answer driver errand =>
      exact ⟨horphan.driver, ⟨herase id, horphan.unbidden.2⟩, horphan.unwatched⟩
    | ask id number request errand =>
      exact ⟨horphan.driver, ⟨hbid (by simp), horphan.unbidden.2⟩, horphan.unwatched⟩
    | resolve id asked errand answer watched found idle kept armed idly =>
      exact ⟨horphan.driver, ⟨hbid (by simp), horphan.unbidden.2⟩,
        (idly horphan.untimed).trans horphan.unwatched⟩
    | posting _ _ posting =>
      cases posting with
      | post id asked other chunk rest d' errand driver granted =>
        refine ⟨hput _ fun hid => ?_, ⟨hbid (by simp), horphan.unbidden.2⟩, horphan.unwatched⟩
        obtain ⟨-, htarget⟩ := target_of_posting h hp hs (hid ▸ errand)
        exact horphan.missed.nobody id (h.target hp htarget)
      | lose id asked other chunk rest errand refused =>
        exact ⟨horphan.driver, ⟨hbid (by simp), horphan.unbidden.2⟩, horphan.unwatched⟩
    | hangUp id asked other answer d' errand driver =>
      refine ⟨hput _ fun hid => ?_, ⟨hbid (by simp), horphan.unbidden.2⟩, horphan.unwatched⟩
      exact horphan.unbidden.1 id answer (hid ▸ errand)
    | looseEnd i loose brief kept closes =>
      exact ⟨horphan.driver, ⟨horphan.unbidden.1, fun answer hmem =>
        horphan.unbidden.2 answer (closes client answer hmem)⟩, horphan.unwatched⟩
    | looseHangUp i other answer d' errand driver =>
      refine ⟨hput _ fun hid => ?_, ⟨horphan.unbidden.1, fun answer' hmem => ?_⟩,
        horphan.unwatched⟩
      · exact horphan.unbidden.2 answer (hid ▸ List.mem_of_getElem? errand)
      · rcases List.mem_or_eq_of_mem_set hmem with hmem | hmem
        · exact horphan.unbidden.2 answer' hmem
        · cases hmem
    | drive id d' f driver free =>
      exact ⟨hput _ fun hid => he f (hid ▸ rfl), horphan.unbidden, horphan.unwatched⟩
  obtain ⟨hdriver, hunbidden, hunwatched⟩ := hsame
  have hclient := hsource.resolve_right (not_isDoomed hdriver horphan.waiting horphan.unasked)
  exact ⟨hmissed, hclient, hdriver, horphan.waiting, horphan.unasked, hunbidden, huntimed,
    hunwatched⟩

/-- An orphaned client stays one for ever, unless its own connection ends its wait. -/
theorem orphaned_run (h : x.Sound) {n : Nat} {client : ConnectionId} {d : TcpDriver}
    (horphan : x.Orphaned n client d) (es : List Event) (hes : ∀ f, .drive client f ∉ es) :
    (x.run es).1.Orphaned n client d := by
  induction es using List.reverseRecOn with
  | nil => exact horphan
  | append_singleton es e ih =>
    rw [run_concat]
    refine (ih fun f hf => hes f (List.mem_append_left _ hf)).step (sound_run h es) fun f he => ?_
    exact hes f (by simp [he])

/-- Without a deadline none is awaited. -/
lemma unwatched_run (h : x.Sound) (hnew : x.watched = []) (huntimed : x.forwarder.deadline = none)
    (es : List Event) : (x.run es).1.watched = [] := by
  induction es using List.reverseRecOn with
  | nil => exact hnew
  | append_singleton es e ih =>
    have hsound := sound_run h es
    have hnone := (deadline_run h es).trans huntimed
    have hmove := (x.run es).1.move_step hsound.loose e
    rw [run_concat]
    generalize (x.run es).1.step e = r at hmove
    cases hmove with
    | expire number awaited => simp [ih] at awaited
    | resolve id asked errand answer watched found idle kept armed idly =>
      exact (idly hnone).trans ih
    | turn _ _ turn => cases turn <;> exact ih
    | posting _ _ posting => cases posting <;> exact ih
    | _ => exact ih

/-! ### The end of an attempt -/

/-- The failed handshake that a note tells of. -/
def handshakeError? : Note → Option (Nat × String)
  | .callback (.error "connection" "handshake" code message) => some (code, message)
  | _ => none

/-- What the end of the attempt to reach the target of a pair is to an exchange: the target is
there, or it is not, of which the service is told with or without the number of the pair. -/
def outcome (n : Nat) (attempt : Noted Tcp.Passage) : Event :=
  match attempt.1.driver with
  | some d => .targetUp n d.id d.connection.host d.connection.peer
  | none =>
    match attempt.2.findSome? handshakeError? with
    | some (code, message) => .targetSpoiled n code message
    | none => .targetDown n

/-- How an attempt ends without a connection: the service is told that there is none, or that the
handshake failed. -/
inductive Vain (identity : Identity) : List Note → Prop where
  /-- The service is told that there is no connection. -/
  | told (notes : List Note) (silent : notes.findSome? handshakeError? = none)
      (called : .connect none identity ∈ Note.callbacks notes) : Vain identity notes
  /-- The service is told of an error in the handshake. -/
  | spoiled (code : Nat) (message : String) :
      Vain identity (Tcp.handshakeFailed code message)

/-- What a host that cannot be resolved, candidates that are used up and a socket that is lost have
in common. -/
lemma vain_of_socket (identity : Identity) :
    (∀ e, Vain identity (Tcp.resolveFailed identity e)) ∧
      Vain identity (Tcp.connectFailed identity) ∧
      Vain identity [.callback (.connect none identity)] := by
  refine ⟨fun e => .told _ ?_ ?_, .told _ ?_ ?_, .told _ ?_ ?_⟩ <;>
    simp [Tcp.resolveFailed, Tcp.connectFailed, handshakeError?, Note.callbacks]

/-- A connected socket that no driver takes over ends in vain. -/
lemma vain_of_establish (engine : Tcp.Engine) (journey : Tcp.Journey) (id : ConnectionId)
    (request : Connect.Request) (hnone : (engine.establish journey id request).1 = none) :
    Vain request.identity (engine.establish journey id request).2 := by
  have hgo (encrypted : Bool)
      (hnone :
        (engine.runConnection id request.identity encrypted journey.ends .connected).1 = none) :
      Vain request.identity
        (engine.runConnection id request.identity encrypted journey.ends .connected).2 := by
    unfold Tcp.Engine.runConnection at hnone ⊢
    cases hends : journey.ends with
    | error e => exact (vain_of_socket request.identity).2.2
    | ok ends => simp [hends] at hnone
  unfold Tcp.Engine.establish at hnone ⊢
  cases hconnector : engine.connector with
  | none =>
    rw [hconnector] at hnone
    exact hgo false hnone
  | some material =>
    simp only [hconnector] at hnone ⊢
    cases hname : Tls.ServerName.ofHost request.host with
    | error e => exact .spoiled e.code e.message
    | ok name =>
      simp only [hname] at hnone ⊢
      cases hhandshake : journey.handshake with
      | error e => exact .spoiled e.code e.message
      | ok =>
        rw [hhandshake] at hnone
        exact hgo true hnone

/-- An attempt that leads to no connection ends in vain. -/
lemma vain_of_missed (engine : Tcp.Engine) (journey : Tcp.Journey) (id : ConnectionId)
    (request : Connect.Request) (bind : Option Endpoint)
    (hmissed : (engine.connect journey id request bind).1.driver = none) :
    Vain request.identity (engine.connect journey id request bind).2 := by
  obtain ⟨hresolve, hconnect, -⟩ := vain_of_socket request.identity
  unfold Tcp.Engine.connect at hmissed ⊢
  cases hresolver : journey.resolver request.host request.service with
  | error e => exact hresolve e
  | ok candidates =>
    simp only [hresolver] at hmissed ⊢
    split at hmissed
    · exact vain_of_establish engine journey id request hmissed
    · exact hconnect

/-- What an attempt without a connection is to an exchange: the target could not be reached if the
service is told that there is none, and could not be encrypted if it is not. -/
lemma outcome_of_missed {engine : Tcp.Engine} {journey : Tcp.Journey} {id : ConnectionId}
    {request : Connect.Request} {bind : Option Endpoint}
    (hmissed : (engine.connect journey id request bind).1.driver = none) (n : Nat) :
    outcome n (engine.connect journey id request bind) = .targetDown n ∧
        .connect none request.identity ∈
          Note.callbacks (engine.connect journey id request bind).2 ∨
      (∃ code message,
        outcome n (engine.connect journey id request bind) = .targetSpoiled n code message) ∧
      .connect none request.identity ∉
        Note.callbacks (engine.connect journey id request bind).2 := by
  have hvain := vain_of_missed engine journey id request bind hmissed
  unfold outcome
  rw [hmissed]
  generalize (engine.connect journey id request bind).2 = notes at hvain
  cases hvain with
  | told notes silent called => exact .inl ⟨by rw [silent], called⟩
  | spoiled code message =>
    refine .inr ⟨⟨code, message, rfl⟩, ?_⟩
    simp [Tcp.handshakeFailed, Note.callbacks]

/-- Once nobody waits for a target any more it will never come. -/
lemma missed_answered (h : x.Sound) {n : Nat} (hn : n ∈ x.requested) (loose : List Errand) :
    ({ x.answered n with loose } : Exchange).Missed n where
  given := (h.requested.2 n hn).1
  unasked hmem := (h.requested.1.mem_erase_iff.mp hmem).1 rfl
  unwanted _ _ hconnect := (h.connecting hconnect).2.1 hn
  nobody := (h.requested.2 n hn).2

/-- A target that could not be reached has its client closed. -/
lemma step_targetDown {n : Nat} (hn : n ∈ x.requested) {client : ConnectionId}
    (hsource : x.forwarder.table.source? n = some client) :
    (x.step (.targetDown n)).1 =
      { x.answered n with loose := x.loose ++ [.close client false] } := by
  simp [step, hn, Forwarder.connected, hsource, answered]

/-- A target that could not be encrypted is forgotten. -/
lemma step_targetSpoiled {n : Nat} (hn : n ∈ x.requested) (code : Nat) (message : String) :
    (x.step (.targetSpoiled n code message)).1 = x.answered n := by
  simp [step, hn]

/-- A client whose target is not made is looked after.  If the service is told that there is no
connection, or if there is a connect timeout, its end is seen to from the moment the attempt is
over. If neither is the case, a client that waits at that moment and has not been asked to close is
left as it is, whatever follows, until its own connection ends the wait. -/
theorem client_looked_after {c : Config} {f : Forwarder} (made : Forwarder.ofConfig? c = some f)
    (attached : Bool) (chunkSize : Nat) (linger : Option Nat) (engine : Tcp.Engine)
    (journey : Tcp.Journey) (target : ConnectionId) (bind : Option Endpoint)
    {earlier es : List Event} (before : earlier <+: es) {n : Nat} {client : ConnectionId}
    (entered : ((ofForwarder { f with attached } chunkSize linger).run
      earlier).1.forwarder.table.source? n = some client)
    (asked : n ∈ ((ofForwarder { f with attached } chunkSize linger).run es).1.requested)
    (missed : (engine.connect journey target (f.targetRequest n) bind).1.driver = none) :
    let start := ofForwarder { f with attached } chunkSize linger
    let attempt := engine.connect journey target (f.targetRequest n) bind
    let told := .connect none ⟨n⟩ ∈ Note.callbacks attempt.2
    (c.tcp.connectTimeoutSecs ≠ 0 ∨ told →
      ∀ fs, (start.run (es ++ outcome n attempt :: fs)).1.Secured n client) ∧
    (c.tcp.connectTimeoutSecs = 0 ∧ ¬ told →
      ∀ d, (start.run es).1.drivers.get? client = some d → d.phase = .waiting →
        .close ∉ d.mailbox.posted → (start.run es).1.Unbidden client →
        ∀ fs, (∀ e, .drive client e ∉ fs) →
          let x := (start.run (es ++ outcome n attempt :: fs)).1
          x.drivers.get? client = some d ∧ ¬ x.Secured n client) := by
  intro start attempt told
  have hstart : start.Sound := sound_ofForwarder { f with attached } chunkSize linger
  have hsound := sound_run hstart es
  have hdeadline : f.deadline = none ↔ c.tcp.connectTimeoutSecs = 0 :=
    Forwarder.deadline_ofConfig? made
  have hnow : (start.run es).1.forwarder.table.source? n = some client ∨
      (start.run es).1.IsDoomed client := by
    obtain ⟨later, rfl⟩ := before
    rw [run_append]
    exact source_run (sound_run hstart earlier) entered later
  have hrun (e : Event) (fs : List Event) :
      (start.run (es ++ e :: fs)).1 = (((start.run es).1.step e).1.run fs).1 := by
    rw [run_append]
    rfl
  have hdown (he : outcome n attempt = .targetDown n) (fs : List Event) :
      (start.run (es ++ outcome n attempt :: fs)).1.Secured n client := by
    rw [hrun, he]
    rcases hnow with hsource | hdoomed
    · have hstep := sound_step hsound (.targetDown n)
      rw [step_targetDown asked hsource] at hstep ⊢
      exact secured_run hstep (.inr (.inl ⟨false, by simp⟩)) (missed_answered hsound asked _)
        (.inl hsource) fs
    · exact .inl ((hdoomed.step hsound _).run (sound_step hsound _) fs)
  rcases outcome_of_missed missed n with ⟨he, hcalled⟩ | ⟨⟨code, message, he⟩, hsilent⟩
  · exact ⟨fun _ => hdown he, fun ⟨_, huntold⟩ => absurd hcalled huntold⟩
  have hstep := sound_step hsound (.targetSpoiled n code message)
  rw [step_targetSpoiled asked] at hstep
  have hmissed : ((start.run es).1.answered n).Missed n :=
    missed_answered hsound asked (start.run es).1.loose
  have hspoiled (fs : List Event) : (start.run (es ++ outcome n attempt :: fs)).1 =
      (((start.run es).1.answered n).run fs).1 := by
    rw [hrun, show outcome n attempt = .targetSpoiled n code message from he,
      step_targetSpoiled asked]
  refine ⟨fun hwhy fs => ?_, fun ⟨hnever, _⟩ d hd hwaiting hposted hunbidden fs hfs => ?_⟩
  · have hsome : start.forwarder.deadline.isSome = true :=
      Option.isSome_iff_ne_none.mpr fun hnone => hwhy.resolve_right hsilent (hdeadline.mp hnone)
    rw [hspoiled]
    refine secured_run hstep ?_ hmissed hnow fs
    rcases hnow with hsource | hdoomed
    · exact secured_of_requested hstart rfl hsome es asked hsource
    · exact .inl hdoomed
  · have hnone := hdeadline.mpr hnever
    have horphan : ((start.run es).1.answered n).Orphaned n client d :=
      ⟨hmissed, hnow.resolve_right (not_isDoomed hd hwaiting hposted), hd, hwaiting, hposted,
        hunbidden, (deadline_run hstart _).trans hnone, unwatched_run hstart rfl hnone _⟩
    have hlater : (start.run (es ++ outcome n attempt :: fs)).1.Orphaned n client d := by
      rw [hspoiled]
      exact orphaned_run hstep horphan fs hfs
    exact ⟨hlater.driver, hlater.not_secured⟩

/-- A client is accepted, its target is asked for, and it is waited for what it sends. -/
def arrival : List Event :=
  let here : Endpoint := ⟨.loopback, 80⟩
  [.accept ⟨1⟩ 80 here here, .consult ⟨1⟩, .errand ⟨1⟩ true, .errand ⟨1⟩ true, .errand ⟨1⟩ true]

/-- A target is reached, and its certificate leads to no anchor. -/
def distrust : Tcp.Journey :=
  { resolver := fun _ _ => .ok [⟨.loopback, 8080⟩]
    attempt := fun _ _ _ => .ok ()
    ends := .ok (⟨.loopback, 50000⟩, ⟨.loopback, 8080⟩)
    handshake := .error (.described .invalidData "invalid peer certificate: UnknownIssuer") }

/-- What a manager that encrypts its outbound connections shares. -/
def wary : Tcp.Engine := { loops := ⟨0⟩, connector := some { anchors := [[48]], own := none } }

/-- With the default connect timeout the client of a target that is not trusted is seen to; without
a connect timeout it is left as it is. -/
theorem client_looked_after_distrust :
    (∃ f, Forwarder.ofConfig? {} = some f ∧ ∀ fs,
      let attempt := wary.connect distrust ⟨2⟩ (f.targetRequest 1) none
      ((ofForwarder { f with attached := true } 512 none).run
        (arrival ++ outcome 1 attempt :: fs)).1.Secured 1 ⟨1⟩) ∧
    ∃ f d, Forwarder.ofConfig? { tcp := { connectTimeoutSecs := 0 } } = some f ∧
      d.phase = .waiting ∧ ∀ fs, (∀ e, .drive ⟨1⟩ e ∉ fs) →
        let attempt := wary.connect distrust ⟨2⟩ (f.targetRequest 1) none
        ((ofForwarder { f with attached := true } 512 none).run
          (arrival ++ outcome 1 attempt :: fs)).1.drivers.get? ⟨1⟩ = some d := by
  refine ⟨⟨_, rfl, ?_⟩, ?_⟩
  · let f : Forwarder :=
      { targetHost := "127.0.0.1", targetPort := 8080, maxHeld := 1048576, deadline := some 30 }
    have entered : ((ofForwarder { f with attached := true } 512 none).run
        arrival).1.forwarder.table.source? 1 = some ⟨1⟩ := by
      decide +kernel
    exact (client_looked_after (c := {}) rfl true 512 none wary distrust ⟨2⟩ none
      (List.prefix_refl arrival) entered (by decide +kernel) (by decide +kernel)).1
      (.inl (by decide))
  · let f : Forwarder :=
      { targetHost := "127.0.0.1", targetPort := 8080, maxHeld := 1048576, deadline := none }
    have entered : ((ofForwarder { f with attached := true } 512 none).run
        arrival).1.forwarder.table.source? 1 = some ⟨1⟩ := by
      decide +kernel
    have hclient : (((ofForwarder { f with attached := true } 512 none).run arrival).1.drivers.get?
        ⟨1⟩).map (fun d => (d.phase, d.mailbox.posted)) = some (.waiting, []) := by
      decide +kernel
    have herrands :
        ((ofForwarder { f with attached := true } 512 none).run arrival).1.errands = [] := by
      decide +kernel
    have hloose :
        ((ofForwarder { f with attached := true } 512 none).run arrival).1.loose = [] := by
      decide +kernel
    obtain ⟨d, hd, hparts⟩ := Option.map_eq_some_iff.mp hclient
    obtain ⟨hwaiting, hposted⟩ := Prod.mk.inj hparts
    refine ⟨f, d, rfl, hwaiting, fun fs hfs => ?_⟩
    exact ((client_looked_after (c := { tcp := { connectTimeoutSecs := 0 } }) (f := f) rfl true 512
      none wary distrust ⟨2⟩ none (List.prefix_refl arrival) entered (by decide +kernel)
      (by decide +kernel)).2 ⟨rfl, by decide +kernel⟩ d hd hwaiting (by simp [hposted])
      ⟨by simp [herrands], by simp [hloose]⟩ fs hfs).1

/-- The client of a target that is not trusted is an orphan in a configuration that nothing is wrong
with: the attempt is over, and the client is neither closed nor asked to close, and no deadline is
awaited. -/
theorem orphaned_client :
    let c : Config :=
      { tcp := { connectTimeoutSecs := 0, clientCertificate := some (.trustOnly "ca.pem" true) } }
    ∃ f, c.violations = [] ∧ Forwarder.ofConfig? c = some f ∧
      let attempt := wary.connect distrust ⟨2⟩ (f.targetRequest 1) none
      let x := ((ofForwarder { f with attached := true } 512 none).run
        (arrival ++ [outcome 1 attempt])).1
      attempt.1.driver = none ∧ x.requested = [] ∧ x.forwarder.table.source? 1 = some ⟨1⟩ ∧
        ¬ x.Secured 1 ⟨1⟩ := by
  intro c
  refine ⟨_, by decide +kernel, rfl, ?_⟩
  intro attempt x
  have hclient : (x.drivers.get? ⟨1⟩).map (fun d => (d.phase, d.mailbox.posted)) =
      some (.waiting, []) := by
    decide +kernel
  have hloose : x.loose = [] := by decide +kernel
  have huntimed : x.forwarder.deadline = none := by decide +kernel
  obtain ⟨d, hd, hparts⟩ := Option.map_eq_some_iff.mp hclient
  obtain ⟨hwaiting, hposted⟩ := Prod.mk.inj hparts
  refine ⟨by decide +kernel, by decide +kernel, by decide +kernel, ?_⟩
  rintro (hdoomed | ⟨answer, hmem⟩ | ⟨hdeadline, -⟩)
  · exact not_isDoomed hd hwaiting (by simp [hposted]) hdoomed
  · simp [hloose] at hmem
  · simp [huntimed] at hdeadline

end Exchange

end Proxy

end Switchboard
