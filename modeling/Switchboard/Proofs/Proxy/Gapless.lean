import Switchboard.Proofs.Proxy.Allowance
import Switchboard.Proofs.Proxy.Orphans
import Switchboard.Proofs.Proxy.Relaying

/-!
# No gap in what a target is sent

A client may send more than is held for it while its target is on the way.  What is held is dropped
then, and the service answers that the client is to be closed; but the target may join the pair
before that is done, and must not be sent what comes after the hole.

It is not, if calls are made one at a time.  Whoever is about to post to a target then does so on
behalf of a pair with both sides (`Exchange.Backed`), so that as long as no more was offered than
may be held, chunks come in the order in which they were read.  The call in which more is offered
leaves the client silenced (`Exchange.Silenced`), nothing held and nothing to be posted; all of this
stays so (`Exchange.GivenUp`), and nothing is posted to the target from then on.  So what was posted
is always a beginning of what was read (`Exchange.held_without_gap`).
-/

namespace Switchboard

namespace TcpDriver

/-- A driver whose service turns received bytes down leaves. -/
lemma isActive_rejected {d : TcpDriver} (phase : d.phase = .receiving) :
    (d.step (.returned false)).1.phase.isActive = false := by
  rw [step, returned, phase]
  exact TcpPhase.isActive_of_isLeaving (isLeaving_leave d .rejected)

end TcpDriver

namespace Proxy

namespace Exchange

variable {x : Exchange}

/-! ### The client of a pair -/

/-- The client of a pair in a run was it from when the number was given out. -/
lemma source_of_run (h : x.Sound) {n : Nat} (hn : n < x.forwarder.nextPair) (es : List Event)
    {client : ConnectionId} (hclient : (x.run es).1.forwarder.table.source? n = some client) :
    x.forwarder.table.source? n = some client := by
  have hgiven (fs : List Event) : n < (x.run fs).1.forwarder.nextPair := by
    induction fs using List.reverseRecOn with
    | nil => exact hn
    | append_singleton fs e ih =>
      rw [run_concat]
      exact ih.trans_le (deadline_step (sound_run h fs) e).2
  induction es using List.reverseRecOn with
  | nil => exact hclient
  | append_singleton es e ih =>
    rw [run_concat] at hclient
    exact ih (source_of_step (sound_run h es) e (hgiven es) hclient)

/-- A pair has one client in all of a run. -/
lemma source_unique (h : x.Sound) {es fs gs : List Event} (hfs : fs <+: es) (hgs : gs <+: es)
    {n : Nat} {client client' : ConnectionId}
    (hclient : (x.run fs).1.forwarder.table.source? n = some client)
    (hclient' : (x.run gs).1.forwarder.table.source? n = some client') : client' = client := by
  have hgiven {ks : List Event} {i : ConnectionId}
      (hi : (x.run ks).1.forwarder.table.source? n = some i) :
      n < (x.run ks).1.forwarder.nextPair := by
    obtain ⟨p, hp, -⟩ := PairTable.source?_eq_some_iff.mp hi
    exact (sound_run h ks).numbered hp
  rcases List.prefix_or_prefix_of_prefix hfs hgs with ⟨ks, rfl⟩ | ⟨ks, rfl⟩
  · rw [run_append] at hclient'
    have hbefore := source_of_run (sound_run h fs) (hgiven hclient) ks hclient'
    exact Option.some.inj (hbefore.symm.trans hclient)
  · rw [run_append] at hclient
    have hbefore := source_of_run (sound_run h gs) (hgiven hclient') ks hclient
    exact Option.some.inj (hclient'.symm.trans hbefore)

/-! ### Who posts to a target -/

/-- Whoever is about to post to a connection, that one was at the table. -/
lemma sits_of_pending_for (h : x.Sound) {id other : ConnectionId}
    (hsome : x.pending id other ≠ []) : x.Sits other := by
  by_cases he : id = other
  · exact he ▸ sits_of_pending h hsome
  · cases found : x.errands.get? id with
    | none => exact absurd (pending_of_none found other) hsome
    | some errand =>
      rw [pending_of_some found] at hsome
      cases errand with
      | send other' chunks =>
        obtain rfl : other' = other := by
          by_contra hne
          exact hsome (if_neg hne)
        obtain ⟨-, -, hsits, -⟩ := h.relaying found (Ne.symm he)
        exact hsits
      | _ => exact absurd rfl hsome

/-- A target was one before, or was not at the table before. -/
lemma isTarget_or_not_sits (h : x.Sound) (e : Event) {t : ConnectionId} {n : Nat}
    (ht : (x.step e).1.IsTarget t n) : x.IsTarget t n ∨ ¬ x.Sits t := by
  by_cases hsits : x.Sits t
  · obtain ⟨d, hd, -⟩ := hsits
    exact .inl (isTarget_of_known h e hd ht)
  · exact .inr hsits

/-- The target of a pair is the other side of its client alone. -/
lemma across_target (h : x.Sound) {m n : Nat} {p : Pair} {id t : ConnectionId}
    (hid : x.forwarder.table.byConnection.get? id = some m)
    (hp : x.forwarder.table.pairs.get? m = some p) (hother : p.across id = some t)
    (ht : x.IsTarget t n) : m = n ∧ p.source = some id ∧ p.target = some t := by
  obtain ⟨-, -, ⟨hs, htarget⟩ | ⟨hs, -⟩⟩ := h.table.across_cases hid hp hother
  · obtain ⟨d, hd, -, hidentity⟩ := h.target hp htarget
    obtain ⟨d', hd', -, hidentity'⟩ := ht
    obtain rfl := Option.some.inj (hd.symm.trans hd')
    exact ⟨Identity.mk.inj (hidentity.symm.trans hidentity'), hs, htarget⟩
  · exact absurd ht (h.not_isTarget hp hs)

/-- A turn at the table makes no targets. -/
lemma Turn.isTarget {e : Event} {r : Noted Exchange} (turn : Turn x e r) {t : ConnectionId}
    {n : Nat} (ht : r.1.IsTarget t n) : x.IsTarget t n := by
  obtain ⟨d', hd', hopening, hidentity⟩ := ht
  cases turn with
  | relay i d driver free phase =>
    dsimp only at hd'
    rw [Table.get?_put] at hd'
    split at hd'
    · rename_i he
      obtain rfl := Option.some.inj hd'
      exact ⟨d, he ▸ driver, hopening, hidentity⟩
    · exact ⟨d', hd', hopening, hidentity⟩
  | _ => exact ⟨d', hd', hopening, hidentity⟩

/-- A turn at the table that leaves chunks to be posted to a target is that of the target itself,
for which some are held, or that of its client, which sent one. -/
lemma Turn.pair_of_pending (h : x.Sound) {e : Event} {r : Noted Exchange} (turn : Turn x e r)
    {id t : ConnectionId} {n : Nat} (ht : x.IsTarget t n) (hbefore : x.pending id t = [])
    (hsome : r.1.pending id t ≠ []) :
    ∃ p, x.forwarder.table.pairs.get? n = some p ∧
      (p.target = none ∧ p.held ≠ [] ∧
          r.1.forwarder.table.pairs.get? n = some (PairTable.joined p t) ∨
        p.source = some id ∧ p.target = some t ∧ r.1.forwarder.table.pairs.get? n = some p ∧
          ∃ d, x.drivers.get? id = some d ∧ d.phase = .receiving ∧ x.errands.get? id = none) := by
  have hput {i : ConnectionId} {errand : Errand} (hput : r.1.errands = x.errands.put i errand) :
      id = i ∧ errand.chunksFor t ≠ [] := by
    rw [pending_put hput] at hsome
    split at hsome
    · exact ⟨‹_›, hsome⟩
    · exact absurd hbefore hsome
  cases turn with
  | enter i d port driver free phase opening => exact absurd rfl (hput rfl).2
  | join i d p driver free phase opening pair =>
    obtain ⟨rfl, hchunks⟩ := hput rfl
    rw [Errand.chunksFor] at hchunks
    split at hchunks
    · rename_i he
      subst he
      obtain ⟨d', hd', -, hidentity⟩ := ht
      obtain rfl := Option.some.inj (driver.symm.trans hd')
      have hvacant := (awaits_of_opening h driver free phase opening).target_eq_none h pair
      rw [hidentity] at pair
      exact ⟨p, pair, .inl ⟨hvacant, hchunks, by simp [hidentity, Table.get?_put]⟩⟩
    · exact absurd rfl hchunks
  | relay i d driver free phase =>
    obtain ⟨rfl, hchunks⟩ := hput rfl
    rcases x.forwarder.fst_received_cases id d.received.data with
      ⟨answer, he⟩ | ⟨m, p, other, hm, hp, hother, he⟩
    · rw [he] at hchunks
      exact absurd rfl hchunks
    · rw [he, Errand.chunksFor] at hchunks
      split at hchunks
      · rename_i heq
        subst heq
        obtain ⟨rfl, hs, htarget⟩ := across_target h hm hp hother ht
        refine ⟨p, hp, .inr ⟨hs, htarget, ?_, d, driver, phase, free⟩⟩
        dsimp only
        rw [x.forwarder.snd_received, PairTable.relay_of_target hm hp hs htarget]
        exact hp
      · exact absurd rfl hchunks
  | leave i d driver free phase =>
    refine absurd ?_ (hput rfl).2
    rcases x.forwarder.fst_closed_cases i with ⟨other, he⟩ | he <;> rw [he] <;> rfl

/-- A call at the table finds all errands done if calls are made one at a time. -/
lemma Turn.errands_eq_nil {e : Event} {r : Noted Exchange} (turn : Turn x e r)
    (hwhole : (!e.isConsult || x.errands.isEmpty) = true) : x.errands = [] := by
  cases turn <;> simpa [Event.isConsult] using hwhole

/-- What a call has left to post is some of what it had. -/
lemma Posting.pending_ne_nil {e : Event} {r : Noted Exchange} (posting : Posting x e r)
    {id t : ConnectionId} (hsome : r.1.pending id t ≠ []) : x.pending id t ≠ [] := by
  cases posting with
  | post i asked other chunk rest d errand driver granted =>
    rw [pending_put rfl] at hsome
    split at hsome
    · rename_i he
      rw [he, pending_of_some errand]
      rw [Errand.chunksFor] at hsome ⊢
      split at hsome
      · rename_i ht
        simp [ht]
      · exact absurd rfl hsome
    · exact hsome
  | lose i asked other chunk rest errand refused =>
    rw [pending_put rfl] at hsome
    split at hsome
    · exact absurd rfl hsome
    · exact hsome

/-- What is posted was about to be, to somebody whose mailbox is open. -/
lemma Posting.pending_of_posted (h : x.Sound) {e : Event} {r : Noted Exchange}
    (posting : Posting x e r) {t : ConnectionId} (hsome : Note.data .posted t r.2 ≠ []) :
    (∃ id, x.pending id t ≠ []) ∧ ∀ d, x.drivers.get? t = some d → d.mailbox.isOpen = true := by
  cases posting with
  | lose => exact absurd rfl hsome
  | post id asked other chunk rest d errand driver granted =>
    obtain rfl : other = t := by
      by_contra hne
      refine hsome ((TcpDriver.data_request d (.ofChunk chunk) t).2 fun he => hne ?_)
      exact (h.driver driver).1.symm.trans he.symm
    refine ⟨⟨id, by simp [pending_of_some errand, Errand.chunksFor]⟩, fun d' hd' => ?_⟩
    obtain rfl := Option.some.inj (driver.symm.trans hd')
    by_contra hclosed
    refine hsome ?_
    unfold SendRequest.ofChunk
    split <;> simp [TcpDriver.step, TcpDriver.request, Mailbox.post, hclosed]

/-- Chunks that are about to be posted to a target come from its pair, which has both sides. -/
def Backed (x : Exchange) : Prop :=
  ∀ id t n, x.IsTarget t n → x.pending id t ≠ [] →
    ∃ p, x.forwarder.table.pairs.get? n = some p ∧ p.source ≠ none ∧ p.target = some t

/-- Calls that are made one at a time stay backed. -/
lemma Backed.step (h : x.Sound) (hbacked : x.Backed) {e : Event}
    (hwhole : (!e.isConsult || x.errands.isEmpty) = true) : (x.step e).1.Backed := by
  intro id t n ht hsome
  have hbefore (hpending : x.pending id t ≠ []) : x.IsTarget t n :=
    (isTarget_or_not_sits h e ht).resolve_right (not_not_intro (sits_of_pending_for h hpending))
  rcases quiet_step h e with quiet | turn | posting
  · rw [quiet.pending] at hsome
    rw [quiet.forwarder]
    exact hbacked id t n (hbefore hsome) hsome
  · have hnone : x.pending id t = [] :=
      pending_of_none (by simp [turn.errands_eq_nil hwhole]) t
    obtain ⟨p, hp, ⟨hvacant, -, hjoined⟩ | ⟨hs, htarget, hsame, -⟩⟩ :=
      turn.pair_of_pending h (turn.isTarget ht) hnone hsome
    · exact ⟨_, hjoined, fun hs => h.table.occupied hp hs hvacant, rfl⟩
    · exact ⟨p, hsame, by simp [hs], htarget⟩
  · have hsome := posting.pending_ne_nil hsome
    rw [posting.forwarder]
    exact hbacked id t n (hbefore hsome) hsome

/-- In every run in which calls are made one at a time they are backed. -/
lemma backed_run {f : Forwarder} {chunkSize : Nat} {linger : Option Nat} {es : List Event}
    (hwhole : (ofForwarder f chunkSize linger).wholeCalls es = true) :
    ((ofForwarder f chunkSize linger).run es).1.Backed := by
  induction es using List.reverseRecOn with
  | nil => exact fun _ _ _ _ hsome => absurd rfl hsome
  | append_singleton es e ih =>
    rw [wholeCalls_concat, Bool.and_eq_true] at hwhole
    rw [run_concat]
    exact Backed.step (sound_run (sound_ofForwarder f chunkSize linger) es) (ih hwhole.1) hwhole.2

/-! ### After too much was offered -/

/-- The bytes of a connection were turned down, and it is about to be told so, or it has left. -/
def Silenced (x : Exchange) (id : ConnectionId) : Prop :=
  ∃ d, x.drivers.get? id = some d ∧
    (d.phase.isActive = false ∨
      d.phase = .receiving ∧ x.errands.get? id = some (.done false))

/-- A connection that was silenced sends nothing on. -/
lemma Silenced.ne_none {id : ConnectionId} (hsilenced : x.Silenced id) {d : TcpDriver}
    (hd : x.drivers.get? id = some d) (phase : d.phase = .receiving) :
    x.errands.get? id ≠ none := by
  obtain ⟨d', hd', hleft | ⟨-, hanswer⟩⟩ := hsilenced
  · obtain rfl := Option.some.inj (hd.symm.trans hd')
    simp [phase, TcpPhase.isActive] at hleft
  · simp [hanswer]

/-- A call that was at the table goes on only with its own errand. -/
lemma call_step (h : x.Sound) {e : Event} {id : ConnectionId} {d : TcpDriver} {errand : Errand}
    (hd : x.drivers.get? id = some d) (herrand : x.errands.get? id = some errand)
    (hother : ∀ asked, e ≠ .errand id asked) :
    (∃ d', (x.step e).1.drivers.get? id = some d' ∧ d'.phase = d.phase) ∧
      (x.step e).1.errands.get? id = some errand := by
  have hcalling : d.phase.isCalling = true := by
    obtain ⟨d', hd', hsuits⟩ := h.busy herrand
    obtain rfl := Option.some.inj (hd.symm.trans hd')
    exact hsuits.isCalling
  have hput {i : ConnectionId} {errand' : Errand} (hne : id ≠ i) :
      (x.errands.put i errand').get? id = some errand := by
    rw [Table.get?_put, if_neg hne, herrand]
  have hfree {i : ConnectionId} (free : x.errands.get? i = none) : id ≠ i := by
    rintro rfl
    simp [herrand] at free
  have hne {i : ConnectionId} {asked : Bool}
      (he : ∀ asked', Event.errand i asked ≠ .errand id asked') : id ≠ i := by
    rintro rfl
    exact he asked rfl
  have hsame : ∃ d', x.drivers.get? id = some d' ∧ d'.phase = d.phase := ⟨d, hd, rfl⟩
  have hothers {i : ConnectionId} {d₀ : TcpDriver} (hne : id ≠ i) :
      ∃ d', (x.drivers.put i d₀).get? id = some d' ∧ d'.phase = d.phase := by
    rw [Table.get?_put, if_neg hne]
    exact hsame
  have hsteady {i : ConnectionId} {d₀ d₀' : TcpDriver} (hd₀ : x.drivers.get? i = some d₀)
      (hgoes : Steady d₀ d₀') :
      ∃ d', (x.drivers.put i d₀').get? id = some d' ∧ d'.phase = d.phase := by
    rw [Table.get?_put]
    split
    · rename_i he
      obtain rfl := Option.some.inj (hd.symm.trans (he ▸ hd₀))
      exact ⟨_, rfl, (hgoes.1 hcalling).1⟩
    · exact hsame
  have hnew {i : ConnectionId} (hnone : x.drivers.get? i = none) : id ≠ i := by
    rintro rfl
    simp [hd] at hnone
  have hmove := x.move_step h.loose e
  generalize x.step e = r at hmove
  cases hmove with
  | accept i port host peer new => exact ⟨hothers (hnew new), herrand⟩
  | up number i host peer asked new => exact ⟨hothers (hnew new), herrand⟩
  | turn _ _ turn =>
    cases turn with
    | relay i d₀ driver free phase =>
      exact ⟨hothers (hfree free), hput (hfree free)⟩
    | enter i d₀ port driver free => exact ⟨hsame, hput (hfree free)⟩
    | join i d₀ p driver free => exact ⟨hsame, hput (hfree free)⟩
    | leave i d₀ driver free => exact ⟨hsame, hput (hfree free)⟩
  | conclude i d₀ answer driver free phase => exact ⟨hsame, hput (hfree free)⟩
  | answer i asked d₀ answer driver errand' =>
    exact ⟨hothers (hne hother), by rw [Table.get?_erase, if_neg (hne hother), herrand]⟩
  | forget i asked answer driver errand' =>
    exact ⟨hsame, by rw [Table.get?_erase, if_neg (hne hother), herrand]⟩
  | ask i number request errand' => exact ⟨hsame, hput (hne hother)⟩
  | resolve i asked errand' answer watched found => exact ⟨hsame, hput (hne hother)⟩
  | posting _ _ posting =>
    cases posting with
    | post i asked other chunk rest d₀ errand' driver granted =>
      exact ⟨hsteady driver (steady_request d₀ _), hput (hne hother)⟩
    | lose i asked other chunk rest errand' refused => exact ⟨hsame, hput (hne hother)⟩
  | hangUp i asked other answer d₀ errand' driver =>
    exact ⟨hsteady driver (steady_requestClose d₀), hput (hne hother)⟩
  | looseHangUp i other answer d₀ errand' driver =>
    exact ⟨hsteady driver (steady_requestClose d₀), herrand⟩
  | drive i d₀ e driver free => exact ⟨hsteady driver (steady_step free), herrand⟩
  | _ => exact ⟨hsame, herrand⟩

/-- A connection that was silenced stays so. -/
lemma Silenced.step (h : x.Sound) {id : ConnectionId} (hsilenced : x.Silenced id) (e : Event) :
    (x.step e).1.Silenced id := by
  obtain ⟨d, hd, hleft | ⟨phase, hanswer⟩⟩ := hsilenced
  · obtain ⟨d', hd', fs, rfl, -⟩ := life_step h e hd
    exact ⟨_, hd', .inl (TcpDriver.isActive_run_eq_false hleft fs)⟩
  · by_cases hown : ∃ asked, e = .errand id asked
    · obtain ⟨asked, rfl⟩ := hown
      refine ⟨(d.step (.returned false)).1, ?_, .inl (TcpDriver.isActive_rejected phase)⟩
      simp [Exchange.step, errand, hanswer, withDriver, hd, put, Table.get?_put, TcpDriver.step]
    · obtain ⟨⟨d', hd', hphase⟩, hkept⟩ :=
        call_step h hd hanswer fun asked he => hown ⟨asked, he⟩
      exact ⟨d', hd', .inr ⟨hphase.trans phase, hkept⟩⟩

/-- A pair of which more was offered than may be held: nothing of it goes to its target. -/
structure GivenUp (x : Exchange) (n : Nat) (client : ConnectionId) : Prop where
  /-- Its number was given out. -/
  given : n < x.forwarder.nextPair
  /-- Nobody but the client is its source. -/
  sole : ∀ i, x.forwarder.table.source? n = some i → i = client
  /-- The client sends nothing on. -/
  silenced : x.Silenced client
  /-- Nothing is held. -/
  bare : ∀ p, x.forwarder.table.pairs.get? n = some p → p.held = []
  /-- Nobody is about to post to its target. -/
  nobody : ∀ t, x.IsTarget t n → ∀ i, x.pending i t = []

/-- A turn at the table leaves nothing to be held or posted for a pair that was given up. -/
lemma GivenUp.turn (h : x.Sound) {n : Nat} {client : ConnectionId} (hup : x.GivenUp n client)
    {e : Event} {r : Noted Exchange} (turn : Turn x e r) :
    (∀ p, r.1.forwarder.table.pairs.get? n = some p → p.held = []) ∧
      ∀ t, r.1.IsTarget t n → ∀ i, r.1.pending i t = [] := by
  have hclient {p : Pair} {i : ConnectionId} (hp : x.forwarder.table.pairs.get? n = some p)
      (hs : p.source = some i) {d : TcpDriver} (hd : x.drivers.get? i = some d)
      (phase : d.phase = .receiving) (free : x.errands.get? i = none) : False := by
    obtain rfl := hup.sole i (PairTable.source?_eq_some_iff.mpr ⟨p, hp, hs⟩)
    exact hup.silenced.ne_none hd phase free
  refine ⟨fun q hq => ?_, fun t ht i => ?_⟩
  · cases turn with
    | enter id d port driver free phase opening =>
      simp only [PairTable.enter, Table.get?_put, if_neg (Nat.ne_of_lt hup.given)] at hq
      exact hup.bare q hq
    | join id d p driver free phase opening pair =>
      simp only [Table.get?_put] at hq
      split at hq
      · obtain rfl := Option.some.inj hq
        rfl
      · exact hup.bare q hq
    | relay id d driver free phase =>
      dsimp only at hq
      rw [x.forwarder.snd_received] at hq
      rcases PairTable.get?_pairs_relay hq with hq | ⟨p, hp, hid, -, -⟩
      · exact hup.bare q hq
      · exact (hclient hp hid driver phase free).elim
    | leave id d driver free phase =>
      dsimp only at hq
      rw [x.forwarder.snd_closed] at hq
      rcases PairTable.get?_pairs_leave h.table hq with ⟨-, hq⟩ | ⟨p, -, hp, rfl, -⟩
      · exact hup.bare q hq
      · rw [PairTable.held_without]
        exact hup.bare p hp
  · by_contra hsome
    obtain ⟨p, hp, ⟨-, hheld, -⟩ | ⟨hs, -, -, d, hd, phase, free⟩⟩ :=
      turn.pair_of_pending h (turn.isTarget ht) (hup.nobody t (turn.isTarget ht) i) hsome
    · exact hheld (hup.bare p hp)
    · exact hclient hp hs hd phase free

/-- A pair that was given up stays so, and nothing is posted to its target. -/
lemma GivenUp.step (h : x.Sound) {n : Nat} {client : ConnectionId} (hup : x.GivenUp n client)
    (e : Event) :
    (x.step e).1.GivenUp n client ∧
      ∀ t, (x.step e).1.IsTarget t n → Note.data .posted t (x.step e).2 = [] := by
  have hbefore {t : ConnectionId} (ht : (x.step e).1.IsTarget t n) (i : ConnectionId) :
      x.pending i t = [] := by
    rcases isTarget_or_not_sits h e ht with ht | hnew
    · exact hup.nobody t ht i
    · by_contra hsome
      exact hnew (sits_of_pending_for h hsome)
  have hgiven := hup.given.trans_le (deadline_step h e).2
  have hsole (i : ConnectionId) (hi : (x.step e).1.forwarder.table.source? n = some i) :
      i = client := hup.sole i (source_of_step h e hup.given hi)
  have hsilenced := hup.silenced.step h e
  rcases quiet_step h e with quiet | turn | posting
  · refine ⟨⟨hgiven, hsole, hsilenced, ?_, fun t ht i => ?_⟩, fun t _ => quiet.posted t⟩
    · rw [quiet.forwarder]
      exact hup.bare
    · rw [quiet.pending, hbefore ht]
  · obtain ⟨hbare, hnobody⟩ := hup.turn h turn
    exact ⟨⟨hgiven, hsole, hsilenced, hbare, hnobody⟩, fun t _ => turn.posted t⟩
  · refine ⟨⟨hgiven, hsole, hsilenced, ?_, fun t ht i => ?_⟩, fun t ht => ?_⟩
    · rw [posting.forwarder]
      exact hup.bare
    · by_contra hsome
      exact posting.pending_ne_nil hsome (hbefore ht i)
    · by_contra hsome
      obtain ⟨⟨i, hpending⟩, -⟩ := posting.pending_of_posted h hsome
      exact hpending (hbefore ht i)

/-- Nothing was posted for a connection that has not been at the table. -/
lemma posted_run_of_not_sits (h : x.Sound) {id : ConnectionId} (es : List Event)
    (hid : ¬ (x.run es).1.Sits id) : Note.data .posted id (x.run es).2 = [] := by
  induction es using List.reverseRecOn with
  | nil => rfl
  | append_singleton es e ih =>
    have hsound := sound_run h es
    rw [run_concat] at hid ⊢
    have hbefore : ¬ (x.run es).1.Sits id := fun hsits => hid (sits_step hsound e hsits)
    rw [Note.data_append, ih hbefore, posted_of_not_sits hsound e hbefore, List.append_nil]

/-- Nothing is posted any more to the target of a pair that was given up. -/
lemma GivenUp.run (h : x.Sound) {n : Nat} {client : ConnectionId} (hup : x.GivenUp n client)
    (es : List Event) :
    (x.run es).1.GivenUp n client ∧
      ∀ t, (x.run es).1.IsTarget t n → Note.data .posted t (x.run es).2 = [] := by
  induction es using List.reverseRecOn with
  | nil => exact ⟨hup, fun _ _ => rfl⟩
  | append_singleton es e ih =>
    obtain ⟨hup, hposted⟩ := ih
    have hsound := sound_run h es
    obtain ⟨hstill, hnow⟩ := hup.step hsound e
    rw [run_concat]
    refine ⟨hstill, fun t ht => ?_⟩
    rw [Note.data_append, hnow t ht, List.append_nil]
    rcases isTarget_or_not_sits hsound e ht with ht | hnew
    · exact hposted t ht
    · exact posted_run_of_not_sits h es hnew

/-- More was offered to a pair than may be held. -/
lemma exceeds_eq_true_iff {n : Nat} :
    x.exceeds n = true ↔
      ∃ p, x.forwarder.table.pairs.get? n = some p ∧ x.forwarder.maxHeld < p.offered := by
  unfold exceeds
  cases x.forwarder.table.pairs.get? n <;> simp

/-- A chunk with which more is offered to a waiting pair than may be held is turned down. -/
lemma received_refused {f : Forwarder} {id : ConnectionId} {n : Nat} {p : Pair} {chunk : Bytes}
    (hid : f.table.byConnection.get? id = some n) (hp : f.table.pairs.get? n = some p)
    (hs : p.source = some id) (hvacant : p.target = none)
    (hmax : f.maxHeld < p.offered + chunk.length) : (f.received id chunk).1 = .done false := by
  unfold Forwarder.received
  rw [PairTable.relay_of_waiting hid hp hs hvacant, Pair.fst_hold,
    decide_eq_false (Nat.not_le.mpr hmax)]
  rfl

/-- A call in which too much is offered to a pair leaves the client silenced, and nothing held. -/
lemma Turn.givenUp (h : x.Sound) {e : Event} {r : Noted Exchange} (turn : Turn x e r)
    (hidle : x.errands = []) (hsound : r.1.Sound) {n : Nat} {client : ConnectionId}
    (hsole : ∀ i, r.1.forwarder.table.source? n = some i → i = client)
    (hbefore : x.exceeds n = false) (hnow : r.1.exceeds n = true) : r.1.GivenUp n client := by
  obtain ⟨q, hq, hmax⟩ := exceeds_eq_true_iff.mp hnow
  have hwithin {p : Pair} (hp : x.forwarder.table.pairs.get? n = some p) :
      ¬ x.forwarder.maxHeld < p.offered := fun hlt => by
    simp [exceeds_eq_true_iff.mpr ⟨p, hp, hlt⟩] at hbefore
  have hgiven := hsound.numbered hq
  cases turn with
  | enter id d port driver free phase opening =>
    simp only [PairTable.enter, Table.get?_put] at hq
    split at hq
    · obtain rfl := Option.some.inj hq
      exact absurd hmax (Nat.not_lt_zero _)
    · exact absurd hmax (hwithin hq)
  | join id d p driver free phase opening pair =>
    simp only [Table.get?_put] at hq
    split at hq
    · obtain rfl := Option.some.inj hq
      exact absurd hmax (Nat.not_lt_zero _)
    · exact absurd hmax (hwithin hq)
  | leave id d driver free phase =>
    dsimp only at hq hmax
    rw [x.forwarder.snd_closed] at hq hmax
    rcases PairTable.get?_pairs_leave h.table hq with ⟨-, hq⟩ | ⟨p, -, hp, rfl, -⟩
    · exact absurd hmax (hwithin hq)
    · rw [PairTable.offered_without] at hmax
      exact absurd hmax (hwithin hp)
  | relay id d driver free phase =>
    have hq' := hq
    dsimp only at hq hmax
    rw [x.forwarder.snd_received] at hq hmax
    rcases PairTable.get?_pairs_relay hq with hp | ⟨p, hp, hid, hvacant, rfl⟩
    · exact absurd hmax (hwithin hp)
    · obtain rfl : id = client := by
        refine hsole id (PairTable.source?_eq_some_iff.mpr ⟨_, hq', ?_⟩)
        rw [(PairTable.sides_hold p _ _).1, hid]
      rw [Pair.offered_hold] at hmax
      have hrefused := received_refused (h.table.source hp hid) hp hid hvacant hmax
      constructor
      case given => exact hgiven
      case sole => exact hsole
      case silenced =>
        refine ⟨{ d with received := d.received.consume d.received.size }, ?_, .inr ⟨phase, ?_⟩⟩
        · simp [Table.get?_put]
        · simp [Table.get?_put, hrefused]
      case bare =>
        intro p' hp'
        obtain rfl := Option.some.inj (hq'.symm.trans hp')
        simp [Pair.hold, hmax]
      case nobody =>
        intro t _ i
        rw [pending_put rfl, hrefused]
        split
        · rfl
        · exact pending_of_none (by simp [hidle]) t

/-- If calls are made one at a time, a pair of which more was offered than may be held is given up.
-/
lemma givenUp_of_exceeds {f : Forwarder} {chunkSize : Nat} {linger : Option Nat} {es : List Event}
    (hwhole : (ofForwarder f chunkSize linger).wholeCalls es = true) {n : Nat}
    {client : ConnectionId}
    (hsole : ∀ fs, fs <+: es → ∀ i,
      ((ofForwarder f chunkSize linger).run fs).1.forwarder.table.source? n = some i → i = client)
    (hexceeds : ((ofForwarder f chunkSize linger).run es).1.exceeds n = true) :
    ((ofForwarder f chunkSize linger).run es).1.GivenUp n client := by
  have hstart := sound_ofForwarder f chunkSize linger
  induction es using List.reverseRecOn with
  | nil => simp [run, ofForwarder, exceeds] at hexceeds
  | append_singleton es e ih =>
    have hsound := sound_run hstart es
    rw [wholeCalls_concat, Bool.and_eq_true] at hwhole
    have hnow := hsole (es ++ [e]) (List.prefix_refl _)
    rw [run_concat] at hexceeds hnow ⊢
    cases hbefore : ((ofForwarder f chunkSize linger).run es).1.exceeds n with
    | true =>
      have hup := ih hwhole.1
        (fun fs hfs => hsole fs (hfs.trans (List.prefix_append es [e]))) hbefore
      exact (hup.step hsound e).1
    | false =>
      -- only a turn at the table can offer anything
      have hsame (hforwarder : (((ofForwarder f chunkSize linger).run es).1.step e).1.forwarder =
          ((ofForwarder f chunkSize linger).run es).1.forwarder) : False := by
        rw [exceeds, hforwarder] at hexceeds
        exact absurd (hexceeds.symm.trans hbefore) (by simp)
      rcases quiet_step hsound e with quiet | turn | posting
      · exact (hsame quiet.forwarder).elim
      · exact turn.givenUp hsound (turn.errands_eq_nil hwhole.2) (sound_step hsound e) hnow hbefore
          hexceeds
      · exact (hsame posting.forwarder).elim

/-- A pair that was given up in a run is still, and nothing was posted to its target since. -/
lemma givenUp_run {f : Forwarder} {chunkSize : Nat} {linger : Option Nat} {es fs : List Event}
    (hwhole : (ofForwarder f chunkSize linger).wholeCalls es = true) {n : Nat}
    {client : ConnectionId}
    (hsole : ∀ fs, fs <+: es → ∀ i,
      ((ofForwarder f chunkSize linger).run fs).1.forwarder.table.source? n = some i → i = client)
    (hfs : fs <+: es) (hexceeds : ((ofForwarder f chunkSize linger).run fs).1.exceeds n = true) :
    ((ofForwarder f chunkSize linger).run es).1.GivenUp n client ∧
      ∀ t, ((ofForwarder f chunkSize linger).run es).1.IsTarget t n →
        Note.data .posted t ((ofForwarder f chunkSize linger).run es).2 =
          Note.data .posted t ((ofForwarder f chunkSize linger).run fs).2 := by
  have hsound := sound_run (sound_ofForwarder f chunkSize linger) fs
  obtain ⟨gs, rfl⟩ := hfs
  rw [wholeCalls_append, Bool.and_eq_true] at hwhole
  have hup := givenUp_of_exceeds hwhole.1
    (fun ks hks => hsole ks (hks.trans (List.prefix_append fs gs))) hexceeds
  obtain ⟨hstill, hposted⟩ := hup.run hsound gs
  rw [run_append, Noted.andThen]
  refine ⟨hstill, fun t ht => ?_⟩
  rw [Note.data_append, hposted t ht, List.append_nil]

/-! ### A beginning of what was read -/

/-- If calls are made one at a time and no more was offered than may be held, a chunk that is posted
to a target goes on with what was read from its client. -/
lemma begun_post {f : Forwarder} {chunkSize : Nat} {linger : Option Nat} {es : List Event}
    {e : Event} (hwhole : (ofForwarder f chunkSize linger).wholeCalls (es ++ [e]) = true) {n : Nat}
    {client t : ConnectionId} (hsole : ∀ i,
      ((ofForwarder f chunkSize linger).run es).1.forwarder.table.source? n = some i → i = client)
    (hlimit : ∀ fs, fs <+: es → ((ofForwarder f chunkSize linger).run fs).1.exceeds n = false)
    (ht : ((ofForwarder f chunkSize linger).run es).1.IsTarget t n)
    (posting : Posting ((ofForwarder f chunkSize linger).run es).1 e
      (((ofForwarder f chunkSize linger).run es).1.step e))
    (hsome : Note.data .posted t (((ofForwarder f chunkSize linger).run es).1.step e).2 ≠ []) :
    Note.data .posted t ((ofForwarder f chunkSize linger).run (es ++ [e])).2 <+:
      Note.data .removed client ((ofForwarder f chunkSize linger).run (es ++ [e])).2 := by
  have hstart := sound_ofForwarder f chunkSize linger
  have hchronicle := chronicle_ofForwarder f chunkSize linger
  have hlone : (ofForwarder f chunkSize linger).Lone := fun i _ hi => absurd rfl hi
  have hsound := sound_run hstart es
  have hbefore : (ofForwarder f chunkSize linger).wholeCalls es = true := by
    rw [wholeCalls_concat, Bool.and_eq_true] at hwhole
    exact hwhole.1
  obtain ⟨⟨i, hpending⟩, hopen⟩ := posting.pending_of_posted hsound hsome
  obtain ⟨p, hp, hoccupied, htarget⟩ := backed_run hbefore i t n ht hpending
  obtain ⟨source, hsource⟩ := Option.ne_none_iff_exists'.mp hoccupied
  obtain rfl := hsole source (PairTable.source?_eq_some_iff.mpr ⟨p, hp, hsource⟩)
  have hapart : source ≠ t := fun he => hsound.table.apart hp hsource (he ▸ htarget)
  have hhands := ((withheld_or_handsOver_run hstart hchronicle rfl es hlimit).2 p source t hp
    hsource htarget hopen).posting hsound (chronicle_run hstart hchronicle es) posting hp hsource
    htarget hopen
  rw [← overtaken_concat] at hhands
  have hordered := hhands.ordered (overtaken_of_wholeCalls hstart hlone hapart hwhole)
  rw [run_concat, ← hordered, List.append_assoc]
  exact List.prefix_append _ _

/-- If calls are made one at a time, what was posted to a target is a beginning of what was read
from its client. -/
lemma begun_run {f : Forwarder} {chunkSize : Nat} {linger : Option Nat} {es : List Event}
    (hwhole : (ofForwarder f chunkSize linger).wholeCalls es = true) {n : Nat}
    {client : ConnectionId}
    (hsole : ∀ fs, fs <+: es → ∀ i,
      ((ofForwarder f chunkSize linger).run fs).1.forwarder.table.source? n = some i → i = client)
    {t : ConnectionId} (ht : ((ofForwarder f chunkSize linger).run es).1.IsTarget t n) :
    Note.data .posted t ((ofForwarder f chunkSize linger).run es).2 <+:
      Note.data .removed client ((ofForwarder f chunkSize linger).run es).2 := by
  have hstart := sound_ofForwarder f chunkSize linger
  induction es using List.reverseRecOn with
  | nil => exact List.nil_prefix
  | append_singleton es e ih =>
    have hsound := sound_run hstart es
    have hbefore : (ofForwarder f chunkSize linger).wholeCalls es = true := by
      rw [wholeCalls_concat, Bool.and_eq_true] at hwhole
      exact hwhole.1
    have hsole' (fs : List Event) (hfs : fs <+: es) :=
      hsole fs (hfs.trans (List.prefix_append es [e]))
    rw [run_concat] at ht
    by_cases hposted : Note.data .posted t
        (((ofForwarder f chunkSize linger).run es).1.step e).2 = []
    · rw [run_concat, Note.data_append, Note.data_append, hposted, List.append_nil]
      rcases isTarget_or_not_sits hsound e ht with ht | hnew
      · exact (ih hbefore hsole' ht).trans (List.prefix_append _ _)
      · rw [posted_run_of_not_sits hstart es hnew]
        exact List.nil_prefix
    · have ht : ((ofForwarder f chunkSize linger).run es).1.IsTarget t n :=
        (isTarget_or_not_sits hsound e ht).resolve_right fun hnew =>
          hposted (posted_of_not_sits hsound e hnew)
      rcases quiet_step hsound e with quiet | turn | posting
      · exact absurd (quiet.posted t) hposted
      · exact absurd (turn.posted t) hposted
      · refine begun_post hwhole (hsole' es (List.prefix_refl _)) (fun fs hfs => ?_) ht posting
          hposted
        -- nobody would be about to post for a pair that was given up
        by_contra hexceeds
        obtain ⟨hup, -⟩ := givenUp_run hbefore hsole' hfs (Bool.not_eq_false _ ▸ hexceeds)
        obtain ⟨⟨i, hpending⟩, -⟩ := posting.pending_of_posted hsound hposted
        exact hpending (hup.nobody t ht i)

/-- The bytes that were read from a connection are a beginning of those that came in. -/
lemma removed_prefix_arrived (f : Forwarder) (chunkSize : Nat) (linger : Option Nat)
    (es : List Event) (id : ConnectionId) :
    Note.stream .removed id ((ofForwarder f chunkSize linger).run es).2 <+:
      Note.stream .arrived id ((ofForwarder f chunkSize linger).run es).2 := by
  rcases birth_run f chunkSize linger es id with ⟨-, hown⟩ | ⟨d, -, hremembers⟩
  · rw [← Note.stream_own id .removed, hown]
    exact List.nil_prefix
  · rw [← hremembers.removed_append_data]
    exact List.prefix_append _ _

/-- What the target of a pair is sent of what its client sends, over a run. -/
structure SentOn (x : Exchange) (es : List Event) (n : Nat) (client target : ConnectionId) :
    Prop where
  /-- The chunks that were posted are the first of those that were read, in order. -/
  begun : Note.data .posted target (x.run es).2 <+: Note.data .removed client (x.run es).2
  /-- So their bytes are a beginning of what came in. -/
  streamed : Note.stream .posted target (x.run es).2 <+: Note.stream .arrived client (x.run es).2
  /-- Nothing is posted any more once more was offered to the pair than may be held. -/
  stopped : ∀ fs, fs <+: es → (x.run fs).1.exceeds n = true →
    Note.data .posted target (x.run es).2 = Note.data .posted target (x.run fs).2
  /-- If that has never been so, all that was read is posted by the time that no call is under way,
  as long as both are in the pair and the target takes what is posted. -/
  caughtUp : ∀ {p d}, (∀ fs, fs <+: es → (x.run fs).1.exceeds n = false) →
    (x.run es).1.errands = [] → (x.run es).1.forwarder.table.pairs.get? n = some p →
    p.source = some client → p.target = some target →
    (x.run es).1.drivers.get? target = some d → d.mailbox.isOpen = true →
    Note.data .posted target (x.run es).2 = Note.data .removed client (x.run es).2

/-- **Held bytes are bounded and leave no gap.**  Over every sequence of requests a pair holds no
more than its limit, keeps a chunk exactly if all that was offered since the last take is within the
limit, and gives out all of that in order, or nothing if something was refused.  So if calls are
made one at a time, what was posted to a target is always a beginning of what was read from its
client, and nothing more is posted once more was offered than may be held. -/
theorem held_without_gap :
    (∀ (limit : Nat) (source target : Option ConnectionId) (requests : List Pair.Request),
      let (p, journal) := Dialogue.run (Pair.perform limit) { source, target } requests
      p.Accounts limit (Pair.offeredSince [] journal)) ∧
    ∀ (f : Forwarder) (chunkSize : Nat) (linger : Option Nat) (es fs : List Event) (n : Nat)
      (client target : ConnectionId),
      let start := ofForwarder f chunkSize linger
      start.wholeCalls es = true → fs <+: es →
      (start.run fs).1.forwarder.table.source? n = some client →
      (start.run es).1.IsTarget target n → start.SentOn es n client target := by
  constructor
  · intro limit source target requests
    exact ((Pair.tallies_empty limit source target).run requests).accounts
  · intro f chunkSize linger es fs n client target start hwhole hfs hclient htarget
    have hsole (gs : List Event) (hgs : gs <+: es) (i : ConnectionId)
        (hi : (start.run gs).1.forwarder.table.source? n = some i) : i = client :=
      source_unique (sound_ofForwarder f chunkSize linger) hfs hgs hclient hi
    have hbegun := begun_run hwhole hsole htarget
    constructor
    case begun => exact hbegun
    case streamed =>
      exact hbegun.flatten.trans (removed_prefix_arrived f chunkSize linger es client)
    case stopped =>
      intro gs hgs hexceeds
      exact (givenUp_run hwhole hsole hgs hexceeds).2 target htarget
    case caughtUp =>
      intro p d hlimit hidle hp hs ht hd hopen
      have hsound := sound_run (sound_ofForwarder f chunkSize linger) es
      have hacross : p.across client = some target := by
        rw [Pair.across, if_pos hs, ht]
      exact posted_eq_removed hwhole hlimit hidle (hsound.table.source hp hs) hp hacross hd hopen

/-- A client sends five bytes, which are held, and four more, which are too many; before it is
closed its target joins. -/
def overfull : List Event :=
  let here : Endpoint := ⟨.loopback, 80⟩
  [.accept ⟨1⟩ 80 here here, .consult ⟨1⟩, .errand ⟨1⟩ true, .errand ⟨1⟩ true, .errand ⟨1⟩ true,
    .drive ⟨1⟩ (.readDone (.ok [1, 2, 3, 4, 5])), .consult ⟨1⟩, .errand ⟨1⟩ true,
    .drive ⟨1⟩ (.readDone (.ok [6, 7, 8, 9])), .consult ⟨1⟩, .errand ⟨1⟩ true,
    .targetUp 1 ⟨2⟩ here here, .consult ⟨2⟩, .errand ⟨2⟩ true, .errand ⟨2⟩ true]

/-- With room for eight bytes, a pair that refused a chunk refuses a small one after it as well and
has nothing to give; and a target that joins after such a refusal is sent nothing. -/
theorem held_without_gap_overfull :
    let (p, journal) := Dialogue.run (Pair.perform 8) {}
      [.hold [1, 2, 3, 4, 5], .hold [6, 7, 8, 9], .hold [10]]
    let history := ((ofForwarder crossing 512 none).run overfull).2
    journal = [.offered [1, 2, 3, 4, 5] true, .offered [6, 7, 8, 9] false, .offered [10] false] ∧
      p.takeHeld.1 = [] ∧
      Note.data .removed ⟨1⟩ history = [[1, 2, 3, 4, 5], [6, 7, 8, 9]] ∧
      Note.data .posted ⟨2⟩ history <+: Note.data .removed ⟨1⟩ history ∧
      Note.data .posted ⟨2⟩ history = [] := by
  have haccounts := held_without_gap.1 8 none none
    [.hold [1, 2, 3, 4, 5], .hold [6, 7, 8, 9], .hold [10]]
  have htarget : ((ofForwarder crossing 512 none).run overfull).1.IsTarget ⟨2⟩ 1 := by
    have hdriver : (((ofForwarder crossing 512 none).run overfull).1.drivers.get? ⟨2⟩).map
        (fun d => (d.opening, d.connection.identity)) = some (.connected, ⟨1⟩) := by
      decide +kernel
    obtain ⟨d, hd, hmade⟩ := Option.map_eq_some_iff.mp hdriver
    exact ⟨d, hd, congrArg Prod.fst hmade, congrArg Prod.snd hmade⟩
  have hsent := held_without_gap.2 crossing 512 none overfull (overfull.take 2) 1 ⟨1⟩ ⟨2⟩
    (by decide +kernel) (List.take_prefix 2 overfull) (by decide +kernel) htarget
  refine ⟨by decide, haccounts.gives, by decide +kernel, hsent.begun, ?_⟩
  -- the second chunk exceeds the limit, before the target is there
  rw [hsent.stopped (overfull.take 10) (List.take_prefix 10 overfull) (by decide +kernel)]
  decide +kernel

end Exchange

end Proxy

end Switchboard
