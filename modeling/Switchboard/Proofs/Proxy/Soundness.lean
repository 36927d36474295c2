import Switchboard.Proofs.Proxy.Drivers
import Switchboard.Proofs.Proxy.Moves

/-!
# What the parts of an exchange agree on

An exchange keeps a table of pairs, a driver for each connection, the errands of the calls under way
and the pairs whose target was asked for.  `Exchange.Sound` says how they go together.  The sides of
a pair are what they should be: its source was accepted, its target was made for it, and no other
connection was.  An errand suits the call that its connection makes, and while there is none no call
has been at the table.  `Exchange.sound_step` shows that every step keeps this up.

What is not up to the service does not touch a call under way; that is where the laws of the drivers
come in (`TcpDriver.calling_step`).
-/

namespace Switchboard

namespace Proxy

/-- Whether a call that a connection makes can leave an errand. -/
def Errand.Suits (id : ConnectionId) (d : TcpDriver) : Errand → Prop
  | .connect _ _ | .watch _ => d.phase = .opening ∧ d.opening ≠ .connected
  | .send other chunks =>
    other = id ∧ d.phase = .opening ∧ d.opening = .connected ∨
      other ≠ id ∧ d.phase = .receiving ∧ chunks.length ≤ 1
  | .close _ _ | .done _ => d.phase.isCalling = true

/-- An errand suits a connection that waits for the service. -/
lemma Errand.Suits.isCalling {id : ConnectionId} {d : TcpDriver} {errand : Errand}
    (h : errand.Suits id d) : d.phase.isCalling = true := by
  cases errand with
  | connect => simp [h.1, TcpPhase.isCalling]
  | watch => simp [h.1, TcpPhase.isCalling]
  | send => rcases h with ⟨-, h, -⟩ | ⟨-, h, -⟩ <;> simp [h, TcpPhase.isCalling]
  | close => exact h
  | done => exact h

/-- Only the phase of a driver and its origin decide what suits it. -/
lemma Errand.Suits.congr {id : ConnectionId} {d d' : TcpDriver} {errand : Errand}
    (h : errand.Suits id d) (hphase : d'.phase = d.phase) (hopening : d'.opening = d.opening) :
    errand.Suits id d' := by
  cases errand <;> simpa [Errand.Suits, hphase, hopening] using h

namespace Exchange

variable {x x' : Exchange}

/-- A connection that was made as the target of a pair. -/
def IsTarget (x : Exchange) (id : ConnectionId) (n : Nat) : Prop :=
  ∃ d, x.drivers.get? id = some d ∧ d.opening = .connected ∧ d.connection.identity = ⟨n⟩

/-- A connection whose announcement was at the table. -/
def Sits (x : Exchange) (id : ConnectionId) : Prop :=
  ∃ d, x.drivers.get? id = some d ∧ (d.phase = .opening → x.errands.get? id ≠ none)

/-- The parts of an exchange agree with each other. -/
structure Sound (x : Exchange) : Prop where
  /-- Errands of no connection close at most one. -/
  loose : ∀ errand ∈ x.loose, errand.isBrief = true
  /-- The two halves of the table tell the same. -/
  table : x.forwarder.table.Consistent
  /-- The numbers of pairs were given out. -/
  numbered : ∀ {n p}, x.forwarder.table.pairs.get? n = some p → n < x.forwarder.nextPair
  /-- Drivers were started and go by the names of their connections. -/
  driver : ∀ {id d}, x.drivers.get? id = some d → d.id = id ∧ d.Coherent
  /-- The source of a pair was accepted. -/
  source : ∀ {n p id}, x.forwarder.table.pairs.get? n = some p → p.source = some id →
    ∃ d port, x.drivers.get? id = some d ∧ d.opening = .accepted port
  /-- The target of a pair was made for it. -/
  target : ∀ {n p id}, x.forwarder.table.pairs.get? n = some p → p.target = some id →
    x.IsTarget id n
  /-- A connection is listed only once its announcement was at the table. -/
  listed : ∀ {id n}, x.forwarder.table.byConnection.get? id = some n → x.Sits id
  /-- A service that is told of received bytes finds some. -/
  filled : ∀ {id d}, x.drivers.get? id = some d → d.phase = .receiving →
    x.errands.get? id = none → d.received.data ≠ []
  /-- An errand suits the call that its connection makes. -/
  busy : ∀ {id errand}, x.errands.get? id = some errand →
    ∃ d, x.drivers.get? id = some d ∧ errand.Suits id d
  /-- A target that is about to be asked for was not asked for yet. -/
  connecting : ∀ {id n request}, x.errands.get? id = some (.connect n request) →
    x.forwarder.table.byConnection.get? id = some n ∧ n ∉ x.requested ∧ ∀ t, ¬ x.IsTarget t n
  /-- Chunks are relayed within a pair, from its source to its target or the other way. -/
  relaying : ∀ {id other chunks}, x.errands.get? id = some (.send other chunks) → other ≠ id →
    ∃ n, x.forwarder.table.byConnection.get? id = some n ∧ x.Sits other ∧
      (∀ m, x.forwarder.table.byConnection.get? other = some m → m = n) ∧
      (x.IsTarget other n ∨ x.IsTarget id n)
  /-- No target is asked for twice, and none that was is there yet. -/
  requested : x.requested.Nodup ∧
    ∀ n ∈ x.requested, n < x.forwarder.nextPair ∧ ∀ t, ¬ x.IsTarget t n
  /-- A pair is given one target. -/
  single : ∀ {n t t'}, x.IsTarget t n → x.IsTarget t' n → t = t'
  /-- Targets are made for pairs whose numbers were given out. -/
  given : ∀ {n t}, x.IsTarget t n → n < x.forwarder.nextPair

/-! ### Steps within the drivers -/

/-- Every driver went on without an announcement of its own. -/
def Evolves (x x' : Exchange) : Prop :=
  ∀ id, x.drivers.get? id = none ∧ x'.drivers.get? id = none ∨
    ∃ d d', x.drivers.get? id = some d ∧ x'.drivers.get? id = some d' ∧
      TcpDriver.SameSettings d d' ∧ (d.Coherent → d'.Coherent) ∧
      (d'.phase = .opening → d.phase = .opening)

namespace Evolves

lemma refl (hdrivers : x'.drivers = x.drivers) : Evolves x x' := by
  intro id
  rw [hdrivers]
  cases hd : x.drivers.get? id with
  | none => exact .inl ⟨rfl, rfl⟩
  | some d => exact .inr ⟨d, d, rfl, rfl, .refl d, fun h => h, fun h => h⟩

/-- One driver made a step. -/
lemma ofStep (h : x.Sound) {id : ConnectionId} {d : TcpDriver} (e : TcpDriver.Event)
    (hd : x.drivers.get? id = some d)
    (hdrivers : x'.drivers = x.drivers.put id (d.step e).1) : Evolves x x' := by
  intro id'
  rw [hdrivers, Table.get?_put]
  split
  · rename_i he
    have hco := (h.driver hd).2
    exact .inr ⟨d, _, he ▸ hd, rfl, d.sameSettings_step e,
      fun hco => TcpDriver.coherent_step hco e, TcpDriver.opening_step hco.started⟩
  · cases hd' : x.drivers.get? id' with
    | none => exact .inl ⟨rfl, rfl⟩
    | some d => exact .inr ⟨d, d, rfl, rfl, .refl d, fun h => h, fun h => h⟩

variable (hev : Evolves x x')

include hev

lemma forth {id : ConnectionId} {d : TcpDriver} (hd : x.drivers.get? id = some d) :
    ∃ d', x'.drivers.get? id = some d' ∧ TcpDriver.SameSettings d d' ∧
      (d.Coherent → d'.Coherent) ∧ (d'.phase = .opening → d.phase = .opening) := by
  rcases hev id with ⟨hnone, -⟩ | ⟨d₀, d', hd₀, hd', hrest⟩
  · simp [hd] at hnone
  · obtain rfl := Option.some.inj (hd.symm.trans hd₀)
    exact ⟨d', hd', hrest⟩

lemma back {id : ConnectionId} {d' : TcpDriver} (hd' : x'.drivers.get? id = some d') :
    ∃ d, x.drivers.get? id = some d ∧ TcpDriver.SameSettings d d' ∧
      (d.Coherent → d'.Coherent) ∧ (d'.phase = .opening → d.phase = .opening) := by
  rcases hev id with ⟨-, hnone⟩ | ⟨d, d₀, hd, hd₀, hrest⟩
  · simp [hd'] at hnone
  · obtain rfl := Option.some.inj (hd'.symm.trans hd₀)
    exact ⟨d, hd, hrest⟩

/-- The targets stay what they are. -/
lemma isTarget_iff {id : ConnectionId} {n : Nat} : x'.IsTarget id n ↔ x.IsTarget id n := by
  constructor
  · rintro ⟨d', hd', hopening, hidentity⟩
    obtain ⟨d, hd, hsame, -⟩ := hev.back hd'
    exact ⟨d, hd, hsame.opening ▸ hopening, hsame.identity ▸ hidentity⟩
  · rintro ⟨d, hd, hopening, hidentity⟩
    obtain ⟨d', hd', hsame, -⟩ := hev.forth hd
    exact ⟨d', hd', hsame.opening.trans hopening, hsame.identity.trans hidentity⟩

end Evolves

/-- What an errand may become at a connection: another part of the same relay, or something that
neither asks for a target nor relays. -/
def Succeeds (x : Exchange) (id : ConnectionId) (errand : Errand) : Prop :=
  (∃ d, x.drivers.get? id = some d ∧ errand.Suits id d) ∧
    (∀ n request, errand ≠ .connect n request) ∧
    ∀ other chunks, errand = .send other chunks → other ≠ id →
      ∃ chunks, x.errands.get? id = some (.send other chunks)

/-- An answer succeeds any errand. -/
lemma succeeds_done {id : ConnectionId} {d : TcpDriver} (hd : x.drivers.get? id = some d)
    (hcalling : d.phase.isCalling = true) (answer : Bool) : x.Succeeds id (.done answer) :=
  ⟨⟨d, hd, hcalling⟩, by simp, by simp⟩

/-- The call of a connection is over. -/
def Answered (x : Exchange) (id : ConnectionId) : Prop :=
  x.errands.get? id = none ∧
    ∀ d, x.drivers.get? id = some d → d.phase ≠ .opening ∧ d.phase ≠ .receiving

/-- Whether a call that was under way at a driver still is. -/
def Steady (d d' : TcpDriver) : Prop :=
  (d.phase.isCalling = true → d'.phase = d.phase ∧ d'.received = d.received) ∧
    (d'.phase = .receiving → d.phase = .receiving ∨ d'.received.data ≠ [])

/-- Steps that leave the table alone, and each call unless they answer it, keep the parts of an
exchange together. -/
lemma Sound.ofEvolves (h : x.Sound) (hev : Evolves x x') (hforwarder : x'.forwarder = x.forwarder)
    (hloose : ∀ errand ∈ x'.loose, errand.isBrief = true)
    (hrequested : x'.requested.Nodup ∧ ∀ n ∈ x'.requested,
      n ∈ x.requested ∨ n < x.forwarder.nextPair ∧ ∀ t, ¬ x.IsTarget t n)
    (hsteady : ∀ {id d d'}, x.drivers.get? id = some d → x'.drivers.get? id = some d' →
      x'.Answered id ∨ Steady d d')
    (herrands : ∀ id, x'.errands.get? id = x.errands.get? id ∨ x'.Answered id ∨
      ∃ errand, x'.errands.get? id = some errand ∧ x.Succeeds id errand)
    (hconnect : ∀ {id n request}, x'.errands.get? id = some (.connect n request) →
      n ∉ x'.requested) : x'.Sound := by
  have hkept {id : ConnectionId} (hnone : x'.errands.get? id = none) :
      x'.Answered id ∨ x.errands.get? id = none := by
    rcases herrands id with hsame | hanswered | ⟨errand, hsome, -⟩
    · exact .inr (hsame ▸ hnone)
    · exact .inl hanswered
    · simp [hnone] at hsome
  have hsits {id : ConnectionId} (hid : x.Sits id) : x'.Sits id := by
    obtain ⟨d, hd, hopening⟩ := hid
    obtain ⟨d', hd', -, -, hphase⟩ := hev.forth hd
    refine ⟨d', hd', fun hopen hnone => ?_⟩
    rcases hkept hnone with ⟨-, hanswered⟩ | hbefore
    · exact (hanswered d' hd').1 hopen
    · exact hopening (hphase hopen) hbefore
  have hsuits {id : ConnectionId} {d : TcpDriver} {errand : Errand}
      (hfound : x'.errands.get? id = some errand) (hd : x.drivers.get? id = some d)
      (hs : errand.Suits id d) : ∃ d', x'.drivers.get? id = some d' ∧ errand.Suits id d' := by
    obtain ⟨d', hd', hsame, -⟩ := hev.forth hd
    rcases hsteady hd hd' with ⟨hnone, -⟩ | hsteady
    · simp [hfound] at hnone
    · exact ⟨d', hd', hs.congr (hsteady.1 hs.isCalling).1 hsame.opening⟩
  constructor
  case loose =>
    exact hloose
  case table =>
    rw [hforwarder]
    exact h.table
  case numbered =>
    rw [hforwarder]
    exact h.numbered
  case driver =>
    intro id d' hd'
    obtain ⟨d, hd, hsame, hco, -⟩ := hev.back hd'
    exact ⟨hsame.id.trans (h.driver hd).1, hco (h.driver hd).2⟩
  case source =>
    rw [hforwarder]
    intro n p id hp hs
    obtain ⟨d, port, hd, hopening⟩ := h.source hp hs
    obtain ⟨d', hd', hsame, -⟩ := hev.forth hd
    exact ⟨d', port, hd', hsame.opening.trans hopening⟩
  case target =>
    rw [hforwarder]
    intro n p id hp ht
    exact hev.isTarget_iff.mpr (h.target hp ht)
  case listed =>
    rw [hforwarder]
    intro id n hid
    exact hsits (h.listed hid)
  case filled =>
    intro id d' hd' hreceiving hnone
    obtain ⟨d, hd, -⟩ := hev.back hd'
    rcases hkept hnone with ⟨-, hanswered⟩ | hfree
    · exact absurd hreceiving (hanswered d' hd').2
    rcases hsteady hd hd' with ⟨-, hanswered⟩ | hsteady
    · exact absurd hreceiving (hanswered d' hd').2
    rcases hsteady.2 hreceiving with hbefore | hsome
    · rw [(hsteady.1 (by simp [hbefore, TcpPhase.isCalling])).2]
      exact h.filled hd hbefore hfree
    · exact hsome
  case busy =>
    intro id errand hfound
    rcases herrands id with hsame | ⟨hnone, -⟩ | ⟨errand', hsome, ⟨d, hd, hs⟩, -⟩
    · obtain ⟨d, hd, hs⟩ := h.busy (hsame ▸ hfound)
      exact hsuits hfound hd hs
    · simp [hfound] at hnone
    · obtain rfl := Option.some.inj (hsome.symm.trans hfound)
      exact hsuits hfound hd hs
  case connecting =>
    intro id n request hfound
    rcases herrands id with hsame | ⟨hnone, -⟩ | ⟨errand', hsome, -, hno, -⟩
    · obtain ⟨hid, -, hnobody⟩ := h.connecting (hsame ▸ hfound)
      rw [hforwarder]
      exact ⟨hid, hconnect hfound, fun t ht => hnobody t (hev.isTarget_iff.mp ht)⟩
    · simp [hfound] at hnone
    · exact absurd (Option.some.inj (hsome.symm.trans hfound)) (hno n request)
  case relaying =>
    intro id other chunks hfound hne
    obtain ⟨chunks, hbefore⟩ : ∃ chunks, x.errands.get? id = some (.send other chunks) := by
      rcases herrands id with hsame | ⟨hnone, -⟩ | ⟨errand', hsome, -, -, hsend⟩
      · exact ⟨chunks, hsame ▸ hfound⟩
      · simp [hfound] at hnone
      · exact hsend other chunks (Option.some.inj (hsome.symm.trans hfound)) hne
    obtain ⟨n, hid, hother, hm, hside⟩ := h.relaying hbefore hne
    rw [hforwarder]
    exact ⟨n, hid, hsits hother, hm, hside.imp hev.isTarget_iff.mpr hev.isTarget_iff.mpr⟩
  case requested =>
    refine ⟨hrequested.1, fun n hn => ?_⟩
    rw [hforwarder]
    rcases hrequested.2 n hn with hn | ⟨hlt, hnobody⟩
    · obtain ⟨hlt, hnobody⟩ := h.requested.2 n hn
      exact ⟨hlt, fun t ht => hnobody t (hev.isTarget_iff.mp ht)⟩
    · exact ⟨hlt, fun t ht => hnobody t (hev.isTarget_iff.mp ht)⟩
  case single =>
    intro n t t' ht ht'
    exact h.single (hev.isTarget_iff.mp ht) (hev.isTarget_iff.mp ht')
  case given =>
    intro n t ht
    rw [hforwarder]
    exact h.given (hev.isTarget_iff.mp ht)

/-! ### One step -/

lemma Steady.refl (d : TcpDriver) : Steady d d := ⟨fun _ => ⟨rfl, rfl⟩, .inl⟩

/-- What is not up to the service is steady. -/
lemma steady_step {d : TcpDriver} {e : TcpDriver.Event} (free : isOfService e = false) :
    Steady d (d.step e).1 :=
  ⟨TcpDriver.calling_step free, TcpDriver.receiving_step free⟩

/-- Asking to send is steady. -/
lemma steady_request (d : TcpDriver) (r : SendRequest) : Steady d (d.step (.request r)).1 := by
  cases r with
  | answered granted => exact .refl d
  | chunk data => exact ⟨fun _ => ⟨rfl, rfl⟩, .inl⟩

/-- Asking to close is steady. -/
lemma steady_requestClose (d : TcpDriver) : Steady d (d.step .requestClose).1 :=
  ⟨fun _ => ⟨rfl, rfl⟩, .inl⟩

/-- If nothing changes but one driver, steadily, then all drivers are steady. -/
lemma Steady.put {id : ConnectionId} {d₀ d₀' : TcpDriver} (hd₀ : x.drivers.get? id = some d₀)
    (hsteady : Steady d₀ d₀') (hdrivers : x'.drivers = x.drivers.put id d₀') :
    ∀ {i d d'}, x.drivers.get? i = some d → x'.drivers.get? i = some d' → Steady d d' := by
  intro i d d' hd hd'
  rw [hdrivers, Table.get?_put] at hd'
  split at hd'
  · rename_i he
    obtain rfl := Option.some.inj hd'
    obtain rfl := Option.some.inj (hd₀.symm.trans (he ▸ hd))
    exact hsteady
  · obtain rfl := Option.some.inj (hd.symm.trans hd')
    exact .refl d

/-- If no driver changes, all are steady. -/
lemma Steady.same (hdrivers : x'.drivers = x.drivers) :
    ∀ {i d d'}, x.drivers.get? i = some d → x'.drivers.get? i = some d' → Steady d d' := by
  intro i d d' hd hd'
  rw [hdrivers] at hd'
  obtain rfl := Option.some.inj (hd.symm.trans hd')
  exact .refl d

/-- Steps that ask for no target and at most replace an errand keep the parts of an exchange
together. -/
lemma Sound.ofErrand (h : x.Sound) (hev : Evolves x x') (hforwarder : x'.forwarder = x.forwarder)
    (hloose : ∀ errand ∈ x'.loose, errand.isBrief = true)
    (hrequested : x'.requested.Sublist x.requested)
    (hsteady : ∀ {id d d'}, x.drivers.get? id = some d → x'.drivers.get? id = some d' → Steady d d')
    (herrands : x'.errands = x.errands ∨
      ∃ id errand, x'.errands = x.errands.put id errand ∧ x.Succeeds id errand) : x'.Sound := by
  have hsame (id : ConnectionId) : x'.errands.get? id = x.errands.get? id ∨
      ∃ errand, x'.errands.get? id = some errand ∧ x.Succeeds id errand := by
    rcases herrands with hsame | ⟨id', errand, hput, hsucceeds⟩
    · exact .inl (by rw [hsame])
    · rw [hput, Table.get?_put]
      split
      · rename_i he
        exact .inr ⟨errand, rfl, he ▸ hsucceeds⟩
      · exact .inl rfl
  refine h.ofEvolves hev hforwarder hloose
    ⟨h.requested.1.sublist hrequested, fun n hn => .inl (hrequested.subset hn)⟩
    (fun hd hd' => .inr (hsteady hd hd')) (fun id => (hsame id).imp_right .inr) ?_
  intro id n request hfound hn
  rcases hsame id with hsame | ⟨errand, hsome, -, hno, -⟩
  · exact (h.connecting (hsame ▸ hfound)).2.1 (hrequested.subset hn)
  · exact hno n request (Option.some.inj (hsome.symm.trans hfound))

/-- A call that was not at the table yet changes what is listed for its connection alone, and leaves
an errand that suits it. -/
lemma Sound.ofCall (h : x.Sound) (hev : Evolves x x') {id : ConnectionId} {errand : Errand}
    {d : TcpDriver} (hfree : x.errands.get? id = none) (hd : x.drivers.get? id = some d)
    (hsuits : errand.Suits id d) (hloose : x'.loose = x.loose)
    (hrequested : x'.requested = x.requested) (herrands : x'.errands = x.errands.put id errand)
    (hphase : ∀ {i d d'}, x.drivers.get? i = some d → x'.drivers.get? i = some d' →
      d'.phase = d.phase ∧ (i ≠ id → d'.received = d.received))
    (hnext : x.forwarder.nextPair ≤ x'.forwarder.nextPair)
    (htable : x'.forwarder.table.Consistent)
    (hnumbered : ∀ {n p}, x'.forwarder.table.pairs.get? n = some p → n < x'.forwarder.nextPair)
    (hsource : ∀ {n p i}, x'.forwarder.table.pairs.get? n = some p → p.source = some i →
      ∃ d port, x.drivers.get? i = some d ∧ d.opening = .accepted port)
    (htarget : ∀ {n p i}, x'.forwarder.table.pairs.get? n = some p → p.target = some i →
      x.IsTarget i n)
    (hlisted : ∀ i, i ≠ id →
      x'.forwarder.table.byConnection.get? i = x.forwarder.table.byConnection.get? i)
    (hown : x.Sits id → ∀ n, x'.forwarder.table.byConnection.get? id = some n →
      x.forwarder.table.byConnection.get? id = some n)
    (hconnect : ∀ n request, errand = .connect n request →
      x'.forwarder.table.byConnection.get? id = some n ∧ n ∉ x.requested ∧ ∀ t, ¬ x.IsTarget t n)
    (hrelay : ∀ other chunks, errand = .send other chunks → other ≠ id →
      ∃ n, x'.forwarder.table.byConnection.get? id = some n ∧ x.Sits other ∧
        (∀ m, x'.forwarder.table.byConnection.get? other = some m → m = n) ∧
        (x.IsTarget other n ∨ x.IsTarget id n)) : x'.Sound := by
  have hget (i : ConnectionId) :
      x'.errands.get? i = if i = id then some errand else x.errands.get? i := by
    rw [herrands, Table.get?_put]
  have hsits {i : ConnectionId} (hi : x.Sits i ∨ i = id) : x'.Sits i := by
    by_cases he : i = id
    · subst he
      obtain ⟨d', hd', -⟩ := hev.forth hd
      exact ⟨d', hd', fun _ => by simp [hget]⟩
    · obtain ⟨d, hd, hopening⟩ := hi.resolve_right he
      obtain ⟨d', hd', -, -, hback⟩ := hev.forth hd
      exact ⟨d', hd', fun hopen => by simpa [hget, he] using hopening (hback hopen)⟩
  constructor
  case loose =>
    rw [hloose]
    exact h.loose
  case table =>
    exact htable
  case numbered =>
    exact hnumbered
  case driver =>
    intro i d' hd'
    obtain ⟨d, hd, hsame, hco, -⟩ := hev.back hd'
    exact ⟨hsame.id.trans (h.driver hd).1, hco (h.driver hd).2⟩
  case source =>
    intro n p i hp hs
    obtain ⟨d, port, hd, hopening⟩ := hsource hp hs
    obtain ⟨d', hd', hsame, -⟩ := hev.forth hd
    exact ⟨d', port, hd', hsame.opening.trans hopening⟩
  case target =>
    intro n p i hp ht
    exact hev.isTarget_iff.mpr (htarget hp ht)
  case listed =>
    intro i n hi
    by_cases he : i = id
    · exact hsits (.inr he)
    · rw [hlisted i he] at hi
      exact hsits (.inl (h.listed hi))
  case filled =>
    intro i d' hd' hreceiving hnone
    have he : i ≠ id := fun he => by simp [hget, he] at hnone
    obtain ⟨d, hd, -⟩ := hev.back hd'
    obtain ⟨hsame, hreceived⟩ := hphase hd hd'
    rw [hreceived he]
    exact h.filled hd (hsame ▸ hreceiving) (by simpa [hget, he] using hnone)
  case busy =>
    intro i errand' hfound
    rw [hget] at hfound
    split at hfound
    · rename_i he
      obtain rfl := Option.some.inj hfound
      obtain ⟨d', hd', hsame, -⟩ := hev.forth hd
      exact ⟨d', he ▸ hd', he ▸ hsuits.congr (hphase hd hd').1 hsame.opening⟩
    · obtain ⟨d, hd, hs⟩ := h.busy hfound
      obtain ⟨d', hd', hsame, -⟩ := hev.forth hd
      exact ⟨d', hd', hs.congr (hphase hd hd').1 hsame.opening⟩
  case connecting =>
    intro i n request hfound
    rw [hget] at hfound
    rw [hrequested]
    split at hfound
    · rename_i he
      obtain ⟨hid, hn, hnobody⟩ := hconnect n request (Option.some.inj hfound)
      exact ⟨he ▸ hid, hn, fun t ht => hnobody t (hev.isTarget_iff.mp ht)⟩
    · rename_i he
      obtain ⟨hid, hn, hnobody⟩ := h.connecting hfound
      exact ⟨(hlisted i he).trans hid, hn, fun t ht => hnobody t (hev.isTarget_iff.mp ht)⟩
  case relaying =>
    intro i other chunks hfound hne
    rw [hget] at hfound
    split at hfound
    · rename_i he
      subst he
      obtain ⟨n, hid, hother, hm, hside⟩ := hrelay other chunks (Option.some.inj hfound) hne
      exact ⟨n, hid, hsits (.inl hother), hm,
        hside.imp hev.isTarget_iff.mpr hev.isTarget_iff.mpr⟩
    · rename_i he
      obtain ⟨n, hid, hother, hm, hside⟩ := h.relaying hfound hne
      refine ⟨n, (hlisted i he).trans hid, hsits (.inl hother), fun m hm' => hm m ?_,
        hside.imp hev.isTarget_iff.mpr hev.isTarget_iff.mpr⟩
      by_cases ho : other = id
      · subst ho
        exact hown hother m hm'
      · rwa [hlisted other ho] at hm'
  case requested =>
    rw [hrequested]
    refine ⟨h.requested.1, fun n hn => ?_⟩
    obtain ⟨hlt, hnobody⟩ := h.requested.2 n hn
    exact ⟨hlt.trans_le hnext, fun t ht => hnobody t (hev.isTarget_iff.mp ht)⟩
  case single =>
    intro n t t' ht ht'
    exact h.single (hev.isTarget_iff.mp ht) (hev.isTarget_iff.mp ht')
  case given =>
    intro n t ht
    exact (h.given (hev.isTarget_iff.mp ht)).trans_le hnext

/-- A new connection waits to be announced to the service; if it was asked for as a target, it is
not any more. -/
lemma Sound.greet (h : x.Sound) {id : ConnectionId} {d : TcpDriver} {requested : List Nat}
    (hnew : x.drivers.get? id = none) (hname : d.id = id) (hco : d.Coherent)
    (hopening : d.phase = .opening) (hsub : requested.Sublist x.requested)
    (htarget : ∀ n, d.opening = .connected → d.connection.identity = ⟨n⟩ →
      n ∈ x.requested ∧ n ∉ requested) :
    ({ x with requested, drivers := x.drivers.put id d } : Exchange).Sound := by
  have hmono {i : ConnectionId} {d' : TcpDriver} (hd' : x.drivers.get? i = some d') :
      (x.drivers.put id d).get? i = some d' := by
    have hne : i ≠ id := fun he => by simp [← he, hd'] at hnew
    rw [Table.get?_put, if_neg hne, hd']
  have hsits {i : ConnectionId} (hi : x.Sits i) :
      ({ x with requested, drivers := x.drivers.put id d } : Exchange).Sits i := by
    obtain ⟨d', hd', hphase⟩ := hi
    exact ⟨d', hmono hd', hphase⟩
  have hup {i : ConnectionId} {n : Nat} (hi : x.IsTarget i n) :
      ({ x with requested, drivers := x.drivers.put id d } : Exchange).IsTarget i n := by
    obtain ⟨d', hd', hrest⟩ := hi
    exact ⟨d', hmono hd', hrest⟩
  have hold {i : ConnectionId} {n : Nat}
      (hi : ({ x with requested, drivers := x.drivers.put id d } : Exchange).IsTarget i n) :
      x.IsTarget i n ∨ i = id ∧ n ∈ x.requested ∧ n ∉ requested := by
    obtain ⟨d', hd', hconnected, hidentity⟩ := hi
    dsimp only at hd'
    rw [Table.get?_put] at hd'
    split at hd'
    · rename_i he
      obtain rfl := Option.some.inj hd'
      exact .inr ⟨he, htarget n hconnected hidentity⟩
    · exact .inl ⟨d', hd', hconnected, hidentity⟩
  constructor
  case loose =>
    exact h.loose
  case table =>
    exact h.table
  case numbered =>
    exact h.numbered
  case driver =>
    intro i d' hd'
    dsimp only at hd'
    rw [Table.get?_put] at hd'
    split at hd'
    · rename_i he
      obtain rfl := Option.some.inj hd'
      exact ⟨hname.trans he.symm, hco⟩
    · exact h.driver hd'
  case source =>
    intro n p i hp hs
    obtain ⟨d', port, hd', haccepted⟩ := h.source hp hs
    exact ⟨d', port, hmono hd', haccepted⟩
  case target =>
    intro n p i hp ht
    exact hup (h.target hp ht)
  case listed =>
    intro i n hi
    exact hsits (h.listed hi)
  case filled =>
    intro i d' hd' hreceiving hnone
    dsimp only at hd'
    rw [Table.get?_put] at hd'
    split at hd'
    · obtain rfl := Option.some.inj hd'
      simp [hopening] at hreceiving
    · exact h.filled hd' hreceiving hnone
  case busy =>
    intro i errand hfound
    obtain ⟨d', hd', hs⟩ := h.busy hfound
    exact ⟨d', hmono hd', hs⟩
  case connecting =>
    intro i n request hfound
    obtain ⟨hid, hn, hnobody⟩ := h.connecting hfound
    refine ⟨hid, fun hmem => hn (hsub.subset hmem), fun t ht => ?_⟩
    rcases hold ht with ht | ⟨-, hmem, -⟩
    · exact hnobody t ht
    · exact hn hmem
  case relaying =>
    intro i other chunks hfound hne
    obtain ⟨n, hid, hother, hm, hside⟩ := h.relaying hfound hne
    exact ⟨n, hid, hsits hother, hm, hside.imp hup hup⟩
  case requested =>
    refine ⟨h.requested.1.sublist hsub, fun n hn => ?_⟩
    obtain ⟨hlt, hnobody⟩ := h.requested.2 n (hsub.subset hn)
    refine ⟨hlt, fun t ht => ?_⟩
    rcases hold ht with ht | ⟨-, -, hgone⟩
    · exact hnobody t ht
    · exact hgone hn
  case single =>
    intro n t t' ht ht'
    rcases hold ht with hold₁ | ⟨he, hmem, -⟩ <;> rcases hold ht' with hold₂ | ⟨he', hmem', -⟩
    · exact h.single hold₁ hold₂
    · exact absurd hold₁ ((h.requested.2 n hmem').2 t)
    · exact absurd hold₂ ((h.requested.2 n hmem).2 t')
    · exact he.trans he'.symm
  case given =>
    intro n t ht
    rcases hold ht with ht | ⟨-, hmem, -⟩
    · exact h.given ht
    · exact (h.requested.2 n hmem).1

/-- A connection that is still to be announced is not listed. -/
lemma Sound.unlisted (h : x.Sound) {id : ConnectionId} {d : TcpDriver}
    (hd : x.drivers.get? id = some d) (hphase : d.phase = .opening)
    (hfree : x.errands.get? id = none) :
    ¬ x.Sits id ∧ x.forwarder.table.byConnection.get? id = none := by
  have hsits : ¬ x.Sits id := by
    rintro ⟨d', hd', hbusy⟩
    obtain rfl := Option.some.inj (hd.symm.trans hd')
    exact hbusy hphase hfree
  refine ⟨hsits, ?_⟩
  cases hid : x.forwarder.table.byConnection.get? id with
  | none => rfl
  | some n => exact absurd (h.listed hid) hsits

/-- An accepted client may be entered. -/
lemma Sound.enter (h : x.Sound) {id : ConnectionId} {d : TcpDriver} {port : Port}
    (hd : x.drivers.get? id = some d) (hfree : x.errands.get? id = none)
    (hphase : d.phase = .opening) (hopening : d.opening = .accepted port)
    (request : Connect.Request) :
    ({ x with
        forwarder := { x.forwarder with
          nextPair := x.forwarder.nextPair + 1
          table := x.forwarder.table.enter x.forwarder.nextPair id }
        errands := x.errands.put id (.connect x.forwarder.nextPair request) } :
      Exchange).Sound := by
  obtain ⟨hstands, hunlisted⟩ := h.unlisted hd hphase hfree
  have hnone : x.forwarder.table.pairs.get? x.forwarder.nextPair = none := by
    cases hp : x.forwarder.table.pairs.get? x.forwarder.nextPair with
    | none => rfl
    | some p => exact absurd (h.numbered hp) (Nat.lt_irrefl _)
  have hpairs {n : Nat} {p : Pair}
      (hp : (x.forwarder.table.enter x.forwarder.nextPair id).pairs.get? n = some p) :
      n = x.forwarder.nextPair ∧ p = { source := some id } ∨
        x.forwarder.table.pairs.get? n = some p := by
    simp only [PairTable.enter, Table.get?_put] at hp
    split at hp
    · exact .inl ⟨‹_›, (Option.some.inj hp).symm⟩
    · exact .inr hp
  have hsuits : (Errand.connect x.forwarder.nextPair request).Suits id d :=
    ⟨hphase, by simp [hopening]⟩
  refine h.ofCall (.refl rfl) hfree hd hsuits rfl rfl rfl ?phase (Nat.le_succ _)
    (h.table.enter hnone hunlisted) ?numbered ?source ?target ?listed ?own ?connecting ?relaying
  case phase =>
    intro i d d' hd hd'
    obtain rfl := Option.some.inj (hd.symm.trans hd')
    exact ⟨rfl, fun _ => rfl⟩
  case numbered =>
    intro n p hp
    rcases hpairs hp with ⟨rfl, -⟩ | hp
    · exact Nat.lt_succ_self _
    · exact (h.numbered hp).trans (Nat.lt_succ_self _)
  case source =>
    intro n p i hp hs
    rcases hpairs hp with ⟨-, rfl⟩ | hp
    · obtain rfl := Option.some.inj hs
      exact ⟨d, port, hd, hopening⟩
    · exact h.source hp hs
  case target =>
    intro n p i hp ht
    rcases hpairs hp with ⟨-, rfl⟩ | hp
    · cases ht
    · exact h.target hp ht
  case listed =>
    intro i hi
    simp [PairTable.enter, Table.get?_put, hi]
  case own =>
    intro hsits
    exact absurd hsits hstands
  case connecting =>
    intro n request' he
    obtain ⟨rfl, -⟩ := Errand.connect.inj he
    refine ⟨by simp [PairTable.enter, Table.get?_put], fun hmem => ?_, fun t ht => ?_⟩
    · exact absurd (h.requested.2 _ hmem).1 (Nat.lt_irrefl _)
    · exact absurd (h.given ht) (Nat.lt_irrefl _)
  case relaying =>
    intro other chunks he
    cases he

/-- A target that was not announced yet is the only one that its pair can have. -/
lemma Sound.target_eq_none (h : x.Sound) {id : ConnectionId} {d : TcpDriver} {p : Pair}
    (hd : x.drivers.get? id = some d) (hfree : x.errands.get? id = none)
    (hphase : d.phase = .opening) (hopening : d.opening = .connected)
    (hp : x.forwarder.table.pairs.get? d.connection.identity.token = some p) :
    p.target = none := by
  cases ht : p.target with
  | none => rfl
  | some t =>
    have hself : x.IsTarget id d.connection.identity.token := ⟨d, hd, hopening, rfl⟩
    obtain rfl := h.single (h.target hp ht) hself
    have hlisted := h.table.target hp ht
    simp [(h.unlisted hd hphase hfree).2] at hlisted

/-- A target may join its pair. -/
lemma Sound.join (h : x.Sound) {id : ConnectionId} {d : TcpDriver} {p : Pair}
    (hd : x.drivers.get? id = some d) (hfree : x.errands.get? id = none)
    (hphase : d.phase = .opening) (hopening : d.opening = .connected)
    (hp : x.forwarder.table.pairs.get? d.connection.identity.token = some p) :
    ({ x with
        forwarder := { x.forwarder with
          table := {
            pairs := x.forwarder.table.pairs.put d.connection.identity.token
              (PairTable.joined p id)
            byConnection := x.forwarder.table.byConnection.put id d.connection.identity.token } }
        errands := x.errands.put id (.send id p.held) } : Exchange).Sound := by
  obtain ⟨hstands, hunlisted⟩ := h.unlisted hd hphase hfree
  have hnone := h.target_eq_none hd hfree hphase hopening hp
  have hpairs {n : Nat} {q : Pair}
      (hq : (x.forwarder.table.pairs.put d.connection.identity.token
        (PairTable.joined p id)).get? n = some q) :
      n = d.connection.identity.token ∧ q = PairTable.joined p id ∨
        x.forwarder.table.pairs.get? n = some q := by
    rw [Table.get?_put] at hq
    split at hq
    · exact .inl ⟨‹_›, (Option.some.inj hq).symm⟩
    · exact .inr hq
  have hsuits : (Errand.send id p.held).Suits id d := .inl ⟨rfl, hphase, hopening⟩
  refine h.ofCall (.refl rfl) hfree hd hsuits rfl rfl rfl ?phase le_rfl
    (h.table.join hp hnone hunlisted) ?numbered ?source ?target ?listed ?own ?connecting ?relaying
  case phase =>
    intro i d d' hd hd'
    obtain rfl := Option.some.inj (hd.symm.trans hd')
    exact ⟨rfl, fun _ => rfl⟩
  case numbered =>
    intro n q hq
    rcases hpairs hq with ⟨rfl, -⟩ | hq
    · exact h.numbered hp
    · exact h.numbered hq
  case source =>
    intro n q i hq hs
    rcases hpairs hq with ⟨-, rfl⟩ | hq
    · exact h.source hp hs
    · exact h.source hq hs
  case target =>
    intro n q i hq ht
    rcases hpairs hq with ⟨rfl, rfl⟩ | hq
    · obtain rfl := Option.some.inj ht
      exact ⟨d, hd, hopening, rfl⟩
    · exact h.target hq ht
  case listed =>
    intro i hi
    simp [Table.get?_put, hi]
  case own =>
    intro hsits
    exact absurd hsits hstands
  case connecting =>
    intro n request he
    cases he
  case relaying =>
    intro other chunks he hne
    exact absurd (Errand.send.inj he).1.symm hne

/-- A received chunk may be looked up. -/
lemma Sound.relay (h : x.Sound) {id : ConnectionId} {d : TcpDriver}
    (hd : x.drivers.get? id = some d) (hfree : x.errands.get? id = none)
    (hphase : d.phase = .receiving) (chunk : Bytes) :
    ({ x with
        drivers := x.drivers.put id { d with received := d.received.consume d.received.size }
        forwarder := (x.forwarder.received id chunk).2
        errands := x.errands.put id (x.forwarder.received id chunk).1 } : Exchange).Sound := by
  have hcalling : d.phase.isCalling = true := by simp [hphase, TcpPhase.isCalling]
  have htaken : (d.step (.take d.received.size)).1 =
      { d with received := d.received.consume d.received.size } := by
    rw [TcpDriver.step, TcpDriver.take_of_le hphase le_rfl]
  -- the sides of the pairs and the list of connections are what they were
  have hforwarder := x.forwarder.snd_received id chunk
  have hlist := x.forwarder.table.byConnection_relay id chunk x.forwarder.maxHeld
  have hpairs {n : Nat} {q : Pair}
      (hq : (x.forwarder.table.relay id chunk x.forwarder.maxHeld).2.pairs.get? n = some q) :
      ∃ p, x.forwarder.table.pairs.get? n = some p ∧ q.source = p.source ∧
        q.target = p.target := by
    rcases PairTable.get?_pairs_relay hq with hq | ⟨p, hp, -, -, rfl⟩
    · exact ⟨q, hq, rfl, rfl⟩
    · exact ⟨p, hp, PairTable.sides_hold p chunk _⟩
  have herrand := x.forwarder.fst_received_cases id chunk
  have hsuits : (x.forwarder.received id chunk).1.Suits id d := by
    rcases herrand with ⟨answer, he⟩ | ⟨n, p, other, hid, hp, hother, he⟩
    · rw [he]
      exact hcalling
    · rw [he]
      exact .inr ⟨(h.table.across_cases hid hp hother).1, hphase, by simp⟩
  refine h.ofCall (.ofStep h (.take d.received.size) hd (by rw [htaken])) hfree hd hsuits rfl rfl
    rfl ?phase (by rw [hforwarder]) (by rw [hforwarder]; exact h.table.relay id chunk _)
    ?numbered ?source ?target ?listed ?own ?connecting ?relaying
  case phase =>
    intro i d₀ d₀' hd₀ hd₀'
    dsimp only at hd₀'
    rw [Table.get?_put] at hd₀'
    split at hd₀'
    · rename_i he
      obtain rfl := Option.some.inj hd₀'
      obtain rfl := Option.some.inj (hd.symm.trans (he ▸ hd₀))
      exact ⟨rfl, fun hne => absurd he hne⟩
    · obtain rfl := Option.some.inj (hd₀.symm.trans hd₀')
      exact ⟨rfl, fun _ => rfl⟩
  case numbered =>
    intro n q hq
    rw [hforwarder] at hq ⊢
    obtain ⟨p, hp, -, -⟩ := hpairs hq
    exact h.numbered hp
  case source =>
    intro n q i hq hs
    rw [hforwarder] at hq
    obtain ⟨p, hp, hsource, -⟩ := hpairs hq
    exact h.source hp (hsource ▸ hs)
  case target =>
    intro n q i hq ht
    rw [hforwarder] at hq
    obtain ⟨p, hp, -, htarget⟩ := hpairs hq
    exact h.target hp (htarget ▸ ht)
  case listed =>
    intro i hi
    rw [hforwarder, hlist]
  case own =>
    intro _ n hn
    rwa [hforwarder, hlist] at hn
  case connecting =>
    intro n request he
    rcases herrand with ⟨answer, hdone⟩ | ⟨_, _, _, -, -, -, hsend⟩ <;> simp_all
  case relaying =>
    intro other chunks he hne
    rcases herrand with ⟨answer, hdone⟩ | ⟨n, p, other', hid, hp, hother, hsend⟩
    · simp [hdone] at he
    · obtain ⟨rfl, -⟩ := Errand.send.inj (hsend.symm.trans he)
      obtain ⟨-, hlisted, hsides⟩ := h.table.across_cases hid hp hother
      rw [hforwarder, hlist]
      refine ⟨n, hid, h.listed hlisted, fun m hm => ?_, ?_⟩
      · exact Option.some.inj (hm.symm.trans hlisted)
      · exact hsides.imp (fun hs => h.target hp hs.2) (fun hs => h.target hp hs.2)

/-- A connection that is over may leave its pair. -/
lemma Sound.leave (h : x.Sound) {id : ConnectionId} {d : TcpDriver}
    (hd : x.drivers.get? id = some d) (hfree : x.errands.get? id = none)
    (hphase : d.phase = .closing) :
    ({ x with
        forwarder := (x.forwarder.closed id).2
        errands := x.errands.put id (x.forwarder.closed id).1 } : Exchange).Sound := by
  have hcalling : d.phase.isCalling = true := by simp [hphase, TcpPhase.isCalling]
  have hforwarder := x.forwarder.snd_closed id
  have herrand := x.forwarder.fst_closed_cases id
  have hsuits : (x.forwarder.closed id).1.Suits id d := by
    rcases herrand with ⟨other, he⟩ | he <;> rw [he] <;> exact hcalling
  have hpairs {n : Nat} {q : Pair} (hq : (x.forwarder.table.leave id).2.pairs.get? n = some q) :
      ∃ p, x.forwarder.table.pairs.get? n = some p ∧
        (∀ i, q.source = some i → p.source = some i) ∧
        (∀ i, q.target = some i → p.target = some i) := by
    rcases PairTable.get?_pairs_leave h.table hq with ⟨-, hq⟩ | ⟨p, -, hp, rfl, -⟩
    · exact ⟨q, hq, fun _ hs => hs, fun _ ht => ht⟩
    · exact ⟨p, hp, fun i hs => (PairTable.source_without hs).1,
        fun i ht => (PairTable.target_without (h.table.apart hp) ht).1⟩
  have hlist := PairTable.get?_byConnection_leave h.table id
  refine h.ofCall (.refl rfl) hfree hd hsuits rfl rfl rfl ?phase (by rw [hforwarder])
    (by rw [hforwarder]; exact h.table.leave id)
    ?numbered ?source ?target ?listed ?own ?connecting ?relaying
  case phase =>
    intro i d₀ d₀' hd₀ hd₀'
    obtain rfl := Option.some.inj (hd₀.symm.trans hd₀')
    exact ⟨rfl, fun _ => rfl⟩
  case numbered =>
    intro n q hq
    rw [hforwarder] at hq ⊢
    obtain ⟨p, hp, -, -⟩ := hpairs hq
    exact h.numbered hp
  case source =>
    intro n q i hq hs
    rw [hforwarder] at hq
    obtain ⟨p, hp, hsource, -⟩ := hpairs hq
    exact h.source hp (hsource i hs)
  case target =>
    intro n q i hq ht
    rw [hforwarder] at hq
    obtain ⟨p, hp, -, htarget⟩ := hpairs hq
    exact h.target hp (htarget i ht)
  case listed =>
    intro i hi
    rw [hforwarder, hlist, if_neg hi]
  case own =>
    intro _ n hn
    rw [hforwarder, hlist, if_pos rfl] at hn
    cases hn
  case connecting =>
    intro n request he
    rcases herrand with ⟨other, hclose⟩ | hdone <;> simp_all
  case relaying =>
    intro other chunks he
    rcases herrand with ⟨other, hclose⟩ | hdone <;> simp_all

/-- A listed connection that was not made as a target is the source of its pair. -/
lemma Sound.source_of_listed (h : x.Sound) {id : ConnectionId} {d : TcpDriver} {n : Nat}
    (hd : x.drivers.get? id = some d) (hopening : d.opening ≠ .connected)
    (hid : x.forwarder.table.byConnection.get? id = some n) :
    ∃ p, x.forwarder.table.pairs.get? n = some p ∧ p.source = some id := by
  obtain ⟨p, hp, hs | ht⟩ := h.table.listed hid
  · exact ⟨p, hp, hs⟩
  · obtain ⟨d', hd', hconnected, -⟩ := h.target hp ht
    obtain rfl := Option.some.inj (hd.symm.trans hd')
    exact absurd hconnected hopening

/-- The call of one connection may be answered. -/
lemma Sound.answer (h : x.Sound) {id : ConnectionId} {d : TcpDriver} (answer : Bool)
    (hd : x.drivers.get? id = some d) (hcalling : d.phase.isCalling = true) :
    ({ x with
        drivers := x.drivers.put id (d.step (.returned answer)).1
        errands := x.errands.erase id } : Exchange).Sound := by
  have hanswered : ({ x with
      drivers := x.drivers.put id (d.step (.returned answer)).1
      errands := x.errands.erase id } : Exchange).Answered id := by
    refine ⟨by simp [Table.get?_erase], fun d' hd' => ?_⟩
    simp only [Table.get?_put, if_true, Option.some.injEq] at hd'
    exact hd' ▸ TcpDriver.returned_step hcalling answer
  refine h.ofEvolves (.ofStep h _ hd rfl) rfl h.loose ⟨h.requested.1, fun n hn => .inl hn⟩
    ?_ ?_ ?_
  · intro i d₀ d₀' hd₀ hd₀'
    by_cases he : i = id
    · exact .inl (he ▸ hanswered)
    · simp only [Table.get?_put, if_neg he, hd₀, Option.some.injEq] at hd₀'
      exact .inr (hd₀' ▸ .refl d₀)
  · intro i
    by_cases he : i = id
    · exact .inr (.inl (he ▸ hanswered))
    · exact .inl (by rw [Table.get?_erase, if_neg he])
  · intro i n request hfound
    rw [Table.get?_erase] at hfound
    split at hfound
    · cases hfound
    · exact (h.connecting hfound).2.1

/-- A target may be asked for. -/
lemma Sound.ask (h : x.Sound) {id : ConnectionId} {number : Nat} {request : Connect.Request}
    (herrand : x.errands.get? id = some (.connect number request)) :
    ({ x with
        errands := x.errands.put id (.watch number)
        requested := x.requested ++ [number] } : Exchange).Sound := by
  obtain ⟨d, hd, hs⟩ := h.busy herrand
  obtain ⟨hid, hnumber, hnobody⟩ := h.connecting herrand
  obtain ⟨p, hp, hsource⟩ := h.source_of_listed hd hs.2 hid
  refine h.ofEvolves (.refl rfl) rfl h.loose ⟨?_, fun n hn => ?_⟩
    (fun hd hd' => .inr (Steady.same rfl hd hd')) (fun i => ?_) ?_
  · refine List.nodup_append.mpr ⟨h.requested.1, by simp, fun n hn m hm he => ?_⟩
    obtain rfl := List.mem_singleton.mp hm
    exact hnumber (he ▸ hn)
  · rcases List.mem_append.mp hn with hn | hn
    · exact .inl hn
    · obtain rfl := List.mem_singleton.mp hn
      exact .inr ⟨h.numbered hp, hnobody⟩
  · rw [Table.get?_put]
    split
    · rename_i he
      exact .inr (.inr ⟨_, rfl, ⟨d, he ▸ hd, hs⟩, by simp, by simp⟩)
    · exact .inl rfl
  · intro i n request' hfound hmem
    rw [Table.get?_put] at hfound
    split at hfound
    · cases hfound
    · rename_i he
      obtain ⟨hi, hn, -⟩ := h.connecting hfound
      rcases List.mem_append.mp hmem with hmem | hmem
      · exact hn hmem
      · -- two clients that ask for the same target would be the source of the same pair
        obtain rfl := List.mem_singleton.mp hmem
        obtain ⟨d', hd', hs'⟩ := h.busy hfound
        obtain ⟨q, hq, hsource'⟩ := h.source_of_listed hd' hs'.2 hi
        obtain rfl := Option.some.inj (hp.symm.trans hq)
        exact he (Option.some.inj (hsource'.symm.trans hsource))

/-- The driver of a new connection is started, coherent and goes by its name. -/
lemma started_newcomer (x : Exchange) (id : ConnectionId) (identity : Identity) (opening : Opening)
    (host peer : Endpoint) :
    ((x.newcomer id identity opening host peer).step .start).1.id = id ∧
      ((x.newcomer id identity opening host peer).step .start).1.Coherent ∧
      ((x.newcomer id identity opening host peer).step .start).1.phase = .opening ∧
      ((x.newcomer id identity opening host peer).step .start).1.opening = opening ∧
      ((x.newcomer id identity opening host peer).step .start).1.connection.identity = identity :=
  ⟨rfl, .ofActive (by simp [newcomer, TcpDriver.step, TcpDriver.start, TcpDriver.ofConnection]) rfl
    ⟨rfl, rfl, rfl⟩, rfl, rfl, rfl⟩

/-- No step takes the parts of an exchange apart. -/
theorem sound_step (h : x.Sound) (e : Event) : (x.step e).1.Sound := by
  have hmove := x.move_step h.loose e
  generalize x.step e = r at hmove
  cases hmove with
  | stay => exact h
  | accept id port host peer new =>
    obtain ⟨hname, hco, hphase, hopening, -⟩ :=
      x.started_newcomer id .anonymous (.accepted port) host peer
    exact h.greet new hname hco hphase (.refl _) (by simp [hopening])
  | up number id host peer asked new =>
    obtain ⟨hname, hco, hphase, -, hidentity⟩ :=
      x.started_newcomer id ⟨number⟩ .connected host peer
    refine h.greet new hname hco hphase List.erase_sublist fun n _ hn => ?_
    obtain rfl := Identity.mk.inj (hidentity.symm.trans hn)
    exact ⟨asked, fun hmem => (h.requested.1.mem_erase_iff.mp hmem).1 rfl⟩
  | miss _ number loose notes asked brief closes silent =>
    refine h.ofErrand (.refl rfl) rfl ?_ List.erase_sublist (Steady.same rfl) (.inl rfl)
    intro errand hmem
    exact (List.mem_append.mp hmem).elim (h.loose errand) (brief errand)
  | expire number awaited =>
    refine h.ofErrand (.refl rfl) rfl ?_ (.refl _) (Steady.same rfl) (.inl rfl)
    intro errand hmem
    rcases List.mem_append.mp hmem with hmem | hmem
    · exact h.loose errand hmem
    · obtain rfl := List.mem_singleton.mp hmem
      exact isBrief_deadlineOver x.forwarder number
  | turn _ _ turn =>
    cases turn with
    | enter id d port driver free phase opening => exact h.enter driver free phase opening _
    | join id d p driver free phase opening pair => exact h.join driver free phase opening pair
    | relay id d driver free phase => exact h.relay driver free phase _
    | leave id d driver free phase => exact h.leave driver free phase
  | conclude id d answer driver free phase =>
    refine h.ofErrand (.refl rfl) rfl h.loose (.refl _) (Steady.same rfl) (.inr ⟨id, _, rfl, ?_⟩)
    refine succeeds_done driver ?_ answer
    rcases phase with phase | phase <;> simp [phase, TcpPhase.isCalling]
  | answer id asked d answer driver errand =>
    obtain ⟨d', hd', hcalling⟩ := h.busy errand
    obtain rfl := Option.some.inj (driver.symm.trans hd')
    exact h.answer answer driver hcalling
  | forget id asked answer driver errand =>
    obtain ⟨d, hd, -⟩ := h.busy errand
    simp [driver] at hd
  | ask id number request errand => exact h.ask errand
  | resolve id asked errand answer watched found idle =>
    obtain ⟨d, hd, hs⟩ := h.busy found
    exact h.ofErrand (.refl rfl) rfl h.loose (.refl _) (Steady.same rfl)
      (.inr ⟨id, _, rfl, succeeds_done hd hs.isCalling answer⟩)
  | posting _ _ posting =>
    cases posting with
    | post id asked other chunk rest d errand driver granted =>
      obtain ⟨d', hd', hs⟩ := h.busy errand
      refine h.ofErrand (.ofStep h _ driver rfl) rfl h.loose (.refl _)
        (Steady.put driver (steady_request d _) rfl) (.inr ⟨id, _, rfl, ⟨d', hd', ?_⟩, by simp, ?_⟩)
      · refine hs.imp (fun hs => hs) fun hs => ⟨hs.1, hs.2.1, ?_⟩
        exact Nat.le_of_succ_le hs.2.2
      · intro other' chunks he _
        obtain ⟨rfl, -⟩ := Errand.send.inj he
        exact ⟨_, errand⟩
    | lose id asked other chunk rest errand refused =>
      obtain ⟨d, hd, hs⟩ := h.busy errand
      exact h.ofErrand (.refl rfl) rfl h.loose (.refl _) (Steady.same rfl)
        (.inr ⟨id, _, rfl, succeeds_done hd hs.isCalling false⟩)
  | hangUp id asked other answer d errand driver =>
    obtain ⟨d', hd', hs⟩ := h.busy errand
    exact h.ofErrand (.ofStep h _ driver rfl) rfl h.loose (.refl _)
      (Steady.put driver (steady_requestClose d) rfl)
      (.inr ⟨id, _, rfl, succeeds_done hd' hs.isCalling answer⟩)
  | looseEnd i loose brief =>
    exact h.ofErrand (.refl rfl) rfl brief (.refl _) (Steady.same rfl) (.inl rfl)
  | looseHangUp i other answer d errand driver =>
    refine h.ofErrand (.ofStep h _ driver rfl) rfl ?_ (.refl _)
      (Steady.put driver (steady_requestClose d) rfl) (.inl rfl)
    intro errand' hmem
    rcases List.mem_or_eq_of_mem_set hmem with hmem | rfl
    · exact h.loose errand' hmem
    · rfl
  | drive id d e driver free =>
    exact h.ofErrand (.ofStep h e driver rfl) rfl h.loose (.refl _)
      (Steady.put driver (steady_step free) rfl) (.inl rfl)

/-! ### Whole runs -/

/-- An exchange that serves nobody yet. -/
def ofForwarder (f : Forwarder) (chunkSize : Nat) (linger : Option Nat) : Exchange :=
  { forwarder := { f with table := {} }, chunkSize, linger }

/-- An exchange that serves nobody is sound. -/
lemma sound_ofForwarder (f : Forwarder) (chunkSize : Nat) (linger : Option Nat) :
    (ofForwarder f chunkSize linger).Sound where
  loose _ h := by cases h
  table := PairTable.consistent_empty
  numbered h := by cases h
  driver h := by cases h
  source h := by cases h
  target h := by cases h
  listed h := by cases h
  filled h := by cases h
  busy h := by cases h
  connecting h := by cases h
  relaying h := by cases h
  requested := ⟨List.nodup_nil, fun _ h => by cases h⟩
  single h := by
    obtain ⟨d, hd, -⟩ := h
    cases hd
  given h := by
    obtain ⟨d, hd, -⟩ := h
    cases hd

/-- A run is an iteration of steps. -/
lemma run_eq_iterate (x : Exchange) (es : List Event) : x.run es = Noted.iterate step x es := by
  induction es generalizing x with
  | nil => rfl
  | cons e es ih => simp [run, Noted.iterate, Noted.andThen, ih]

/-- A run over two sequences is the run over the first, gone on with the second. -/
lemma run_append (x : Exchange) (es fs : List Event) :
    x.run (es ++ fs) = (x.run es).andThen fun x => x.run fs := by
  simp only [run_eq_iterate]
  exact Noted.iterate_append step x es fs

/-- A run with one more event. -/
lemma run_concat (x : Exchange) (es : List Event) (e : Event) :
    x.run (es ++ [e]) =
      (((x.run es).1.step e).1, (x.run es).2 ++ ((x.run es).1.step e).2) := by
  simp only [run_eq_iterate]
  exact Noted.iterate_concat step x es e

/-- A sound exchange stays sound. -/
theorem sound_run (h : x.Sound) (es : List Event) : (x.run es).1.Sound := by
  induction es using List.reverseRecOn with
  | nil => exact h
  | append_singleton es e ih =>
    rw [run_concat]
    exact sound_step ih e

end Exchange

end Proxy

end Switchboard
