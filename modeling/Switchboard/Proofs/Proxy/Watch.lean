import Switchboard.Proofs.Proxy.Chronicle
import Switchboard.Proofs.Proxy.Projection
import Switchboard.Proofs.Tcp.Spared

/-!
# Clients that wait for a target

A client whose target is not made must not wait for ever.  It is closed when the service is told
that there is no connection, or else when the deadline of its pair is over.  `Exchange.Secured` says
that one of the two is done or under way.  Its parts turn into each other: an awaited deadline that
ends turns into a call that closes the client, that call into a request to close, and the request
into the end.  So a client whose end is seen to stays so as long as no target comes
(`Exchange.secured_run`), and with a deadline its end is seen to from the moment its target is asked
for (`Exchange.secured_of_requested`).
-/

namespace Switchboard

/-- A driver that is leaving is not active. -/
lemma TcpPhase.isActive_of_isLeaving {p : TcpPhase} (h : p.isLeaving = true) :
    p.isActive = false := by
  cases p <;> simp_all [isLeaving, isActive]

namespace TcpDriver

/-- A driver that has left, or has a request to do so before it. -/
def Doomed (d : TcpDriver) : Prop := d.phase.isActive = false ∨ .close ∈ d.mailbox.posted

/-- No step calls off the end of a driver. -/
lemma Doomed.step {d : TcpDriver} (h : d.Doomed) (e : Event) : (d.step e).1.Doomed := by
  rcases h with hidle | hposted
  · exact .inl (isActive_step_eq_false hidle e)
  · have hmove := d.move_step e
    generalize d.step e = r at hmove
    cases hmove with
    | post | postMark | postClose => exact .inr (List.mem_append_left _ hposted)
    | enqueue data rest phase posted =>
      rw [posted] at hposted
      exact .inr (by simpa using hposted)
    | adopt mark rest phase posted =>
      rw [posted] at hposted
      exact .inr (by simpa using hposted)
    | obey | giveUp | flushFailed | refuse =>
      exact .inl (TcpPhase.isActive_of_isLeaving (isLeaving_leave _ _))
    | emptyRest => exact .inl (TcpPhase.isActive_of_isLeaving d.isLeaving_nextChunk)
    | part | abandon => exact .inl rfl
    | _ => exact .inr hposted

lemma Doomed.run {d : TcpDriver} (h : d.Doomed) (es : List Event) : (d.run es).1.Doomed := by
  induction es using List.reverseRecOn with
  | nil => exact h
  | append_singleton es e ih =>
    rw [run_concat]
    exact ih.step e

/-- A driver that is asked to close will. -/
lemma doomed_requestClose {d : TcpDriver} (hco : d.Coherent) : (d.step .requestClose).1.Doomed := by
  cases hactive : d.phase.isActive with
  | true =>
    have hopen := (hco.active hactive).2.1
    exact .inr (by simp [TcpDriver.step, requestClose, hopen])
  | false => exact .inl hactive

end TcpDriver

namespace Proxy

namespace Exchange

variable {x : Exchange}

/-- A connection is over or leaving, or has a request to close before it. -/
def IsDoomed (x : Exchange) (id : ConnectionId) : Prop :=
  ∃ d, x.drivers.get? id = some d ∧ d.Doomed

/-- The end of a connection is seen to: it is under way, a call that was at the table is about to
ask for it, or the deadline of its pair is awaited or about to be. -/
def Secured (x : Exchange) (n : Nat) (id : ConnectionId) : Prop :=
  x.IsDoomed id ∨ (∃ answer, .close id answer ∈ x.loose) ∨
    x.forwarder.deadline.isSome = true ∧ (n ∈ x.watched ∨ x.errands.get? id = some (.watch n))

/-- No target of a pair is there, asked for, or about to be asked for. -/
structure Missed (x : Exchange) (n : Nat) : Prop where
  /-- The number was given out. -/
  given : n < x.forwarder.nextPair
  /-- Nobody waits for the target. -/
  unasked : n ∉ x.requested
  /-- Nobody is about to ask for it. -/
  unwanted : ∀ id request, x.errands.get? id ≠ some (.connect n request)
  /-- Nobody is it. -/
  nobody : ∀ t, ¬ x.IsTarget t n

/-! ### One step -/

lemma IsDoomed.step (h : x.Sound) {id : ConnectionId} (hid : x.IsDoomed id) (e : Event) :
    (x.step e).1.IsDoomed id := by
  obtain ⟨d, hd, hdoomed⟩ := hid
  obtain ⟨d', hd', fs, rfl, -⟩ := life_step h e hd
  exact ⟨_, hd', hdoomed.run fs⟩

/-- No event changes the time after which a client is closed, and numbers are only given out. -/
lemma deadline_step (h : x.Sound) (e : Event) :
    (x.step e).1.forwarder.deadline = x.forwarder.deadline ∧
      x.forwarder.nextPair ≤ (x.step e).1.forwarder.nextPair := by
  have hmove := x.move_step h.loose e
  generalize x.step e = r at hmove
  cases hmove with
  | turn _ _ turn =>
    cases turn with
    | enter => exact ⟨rfl, Nat.le_succ _⟩
    | join => exact ⟨rfl, le_rfl⟩
    | relay =>
      dsimp only
      rw [Forwarder.snd_received]
      exact ⟨rfl, le_rfl⟩
    | leave =>
      dsimp only
      rw [Forwarder.snd_closed]
      exact ⟨rfl, le_rfl⟩
  | posting _ _ posting => cases posting <;> exact ⟨rfl, le_rfl⟩
  | _ => exact ⟨rfl, le_rfl⟩

/-- A client is the source of its pair until it is over. -/
lemma source_step (h : x.Sound) (e : Event) {n : Nat} {client : ConnectionId}
    (hsource : x.forwarder.table.source? n = some client) :
    (x.step e).1.forwarder.table.source? n = some client ∨ (x.step e).1.IsDoomed client := by
  obtain ⟨p, hp, hs⟩ := PairTable.source?_eq_some_iff.mp hsource
  have hput {m : Nat} {q q' : Pair} (hq : x.forwarder.table.pairs.get? m = some q)
      (hsame : q'.source = q.source) :
      ((x.forwarder.table.pairs.put m q').get? n).bind Pair.source = some client := by
    rw [Table.get?_put]
    split
    · rename_i he
      obtain rfl := Option.some.inj (hp.symm.trans (he ▸ hq))
      exact hsame.trans hs
    · exact hsource
  have hmove := x.move_step h.loose e
  generalize x.step e = r at hmove
  cases hmove with
  | turn _ _ turn =>
    cases turn with
    | enter id d port driver free phase opening =>
      have hne : n ≠ x.forwarder.nextPair := Nat.ne_of_lt (h.numbered hp)
      exact .inl (by simpa [PairTable.source?, PairTable.enter, Table.get?_put, hne] using hsource)
    | join id d q driver free phase opening pair => exact .inl (hput pair rfl)
    | relay id d driver free phase =>
      dsimp only
      rw [Forwarder.snd_received]
      rcases x.forwarder.table.relay_cases id d.received.data x.forwarder.maxHeld with
        hr | ⟨_, _, _, -, -, -, hr⟩ | ⟨m, q, -, hq, -, -, hr⟩
      · rw [hr]
        exact .inl hsource
      · rw [hr]
        exact .inl hsource
      · rw [hr]
        exact .inl (hput hq (PairTable.sides_hold q _ _).1)
    | leave id d driver free phase =>
      by_cases hid : client = id
      · exact .inr ⟨d, hid ▸ driver, .inl (by simp [phase, TcpPhase.isActive])⟩
      · dsimp only
        rw [Forwarder.snd_closed]
        exact .inl (PairTable.source?_leave h.table hid hsource)
  | posting _ _ posting => cases posting <;> exact .inl hsource
  | _ => exact .inl hsource

/-- The source of a pair whose number was given out was it before. -/
lemma source_of_step (h : x.Sound) (e : Event) {n : Nat} {client : ConnectionId}
    (hn : n < x.forwarder.nextPair)
    (hsource : (x.step e).1.forwarder.table.source? n = some client) :
    x.forwarder.table.source? n = some client := by
  have hmove := x.move_step h.loose e
  generalize x.step e = r at hmove hsource
  cases hmove with
  | turn _ _ turn =>
    cases turn with
    | enter id d port driver free phase opening =>
      have hne : n ≠ x.forwarder.nextPair := Nat.ne_of_lt hn
      simpa [PairTable.source?, PairTable.enter, Table.get?_put, hne] using hsource
    | join id d q driver free phase opening pair =>
      obtain ⟨p, hp, hs⟩ := PairTable.source?_eq_some_iff.mp hsource
      dsimp only at hp
      rw [Table.get?_put] at hp
      split at hp
      · rename_i he
        obtain rfl := Option.some.inj hp
        exact PairTable.source?_eq_some_iff.mpr ⟨q, he ▸ pair, hs⟩
      · exact PairTable.source?_eq_some_iff.mpr ⟨p, hp, hs⟩
    | relay id d driver free phase =>
      obtain ⟨p, hp, hs⟩ := PairTable.source?_eq_some_iff.mp hsource
      rw [x.forwarder.snd_received] at hp
      rcases PairTable.get?_pairs_relay hp with hp | ⟨q, hq, -, -, rfl⟩
      · exact PairTable.source?_eq_some_iff.mpr ⟨p, hp, hs⟩
      · exact PairTable.source?_eq_some_iff.mpr
          ⟨q, hq, (PairTable.sides_hold q _ _).1.symm.trans hs⟩
    | leave id d driver free phase =>
      obtain ⟨p, hp, hs⟩ := PairTable.source?_eq_some_iff.mp hsource
      rw [x.forwarder.snd_closed] at hp
      rcases PairTable.get?_pairs_leave h.table hp with ⟨-, hp⟩ | ⟨q, -, hq, rfl, -⟩
      · exact PairTable.source?_eq_some_iff.mpr ⟨p, hp, hs⟩
      · exact PairTable.source?_eq_some_iff.mpr ⟨q, hq, (PairTable.source_without hs).1⟩
  | posting _ _ posting => cases posting <;> exact hsource
  | _ => exact hsource

/-- A target that was not there before was asked for. -/
lemma isTarget_of_step (h : x.Sound) (e : Event) {t : ConnectionId} {n : Nat}
    (ht : (x.step e).1.IsTarget t n) : x.IsTarget t n ∨ n ∈ x.requested := by
  cases hd : x.drivers.get? t with
  | some d => exact .inl (isTarget_of_known h e hd ht)
  | none =>
    obtain ⟨d', hd', hopening, hidentity⟩ := ht
    rcases birth_step h e hd with ⟨hnone, -⟩ | ⟨identity, opening, host, peer, hasked, hnew, -⟩
    · simp [hd'] at hnone
    · obtain rfl := Option.some.inj (hd'.symm.trans hnew)
      obtain ⟨-, -, -, hopening', hidentity'⟩ := x.started_newcomer t identity opening host peer
      obtain rfl := hidentity'.symm.trans hidentity
      exact .inr (hasked (hopening'.symm.trans hopening))

/-- A target is asked for by the client of its pair, which then sees to the deadline. -/
lemma requested_of_step (h : x.Sound) (e : Event) {n : Nat} (hn : n ∈ (x.step e).1.requested) :
    n ∈ x.requested ∨ ∃ id request, x.errands.get? id = some (.connect n request) ∧
      (x.step e).1.errands.get? id = some (.watch n) := by
  have hmove := x.move_step h.loose e
  generalize x.step e = r at hmove hn
  cases hmove with
  | up => exact .inl (List.mem_of_mem_erase hn)
  | miss => exact .inl (List.mem_of_mem_erase hn)
  | ask id number request errand =>
    rcases List.mem_append.mp hn with hn | hn
    · exact .inl hn
    · obtain rfl := List.mem_singleton.mp hn
      exact .inr ⟨id, request, errand, by simp [Table.get?_put]⟩
  | turn _ _ turn => cases turn <;> exact .inl hn
  | posting _ _ posting => cases posting <;> exact .inl hn
  | _ => exact .inl hn

/-- A target that nobody will ask for is never there. -/
lemma Missed.step (h : x.Sound) {n : Nat} (hmissed : x.Missed n) (e : Event) :
    (x.step e).1.Missed n := by
  constructor
  case given => exact hmissed.given.trans_le (deadline_step h e).2
  case unasked =>
    intro hn
    rcases requested_of_step h e hn with hn | ⟨id, request, hconnect, -⟩
    · exact hmissed.unasked hn
    · exact hmissed.unwanted id request hconnect
  case nobody =>
    intro t ht
    rcases isTarget_of_step h e ht with ht | hn
    · exact hmissed.nobody t ht
    · exact hmissed.unasked hn
  case unwanted =>
    intro id request hconnect
    have hput {id' : ConnectionId} {errand : Errand}
        (hother : ∀ request, errand ≠ .connect n request)
        (hfound : (x.errands.put id' errand).get? id = some (.connect n request)) : False := by
      rw [Table.get?_put] at hfound
      split at hfound
      · exact hother request (Option.some.inj hfound)
      · exact hmissed.unwanted id request hfound
    have herase {id' : ConnectionId}
        (hfound : (x.errands.erase id').get? id = some (.connect n request)) : False := by
      rw [Table.get?_erase] at hfound
      split at hfound
      · cases hfound
      · exact hmissed.unwanted id request hfound
    have hmove := x.move_step h.loose e
    generalize x.step e = r at hmove hconnect
    cases hmove with
    | turn _ _ turn =>
      cases turn with
      | enter id' d port driver free phase opening =>
        refine hput (fun request he => ?_) hconnect
        exact Nat.ne_of_gt hmissed.given (Errand.connect.inj he).1
      | join => exact hput (by simp) hconnect
      | relay id' d driver free phase =>
        refine hput (fun request he => ?_) hconnect
        rcases x.forwarder.fst_received_cases id' d.received.data with
          ⟨_, hr⟩ | ⟨_, _, _, -, -, -, hr⟩ <;> simp [hr] at he
      | leave id' d driver free phase =>
        refine hput (fun request he => ?_) hconnect
        rcases x.forwarder.fst_closed_cases id' with ⟨_, hr⟩ | hr <;> simp [hr] at he
    | conclude => exact hput (by simp) hconnect
    | answer => exact herase hconnect
    | forget => exact herase hconnect
    | ask => exact hput (by simp) hconnect
    | resolve => exact hput (by simp) hconnect
    | posting _ _ posting => cases posting <;> exact hput (by simp) hconnect
    | hangUp => exact hput (by simp) hconnect
    | _ => exact hmissed.unwanted id request hconnect

/-- A call that is about to close a connection stays until it has. -/
lemma loose_step (h : x.Sound) (e : Event) {id : ConnectionId} {answer : Bool}
    (hid : x.drivers.get? id ≠ none) (hmem : .close id answer ∈ x.loose) :
    .close id answer ∈ (x.step e).1.loose ∨ (x.step e).1.IsDoomed id := by
  have hmove := x.move_step h.loose e
  generalize x.step e = r at hmove
  cases hmove with
  | miss => exact .inl (List.mem_append_left _ hmem)
  | expire => exact .inl (List.mem_append_left _ hmem)
  | looseEnd i loose brief kept => exact .inl (kept id answer hmem hid)
  | looseHangUp i other answer' d errand driver =>
    obtain ⟨j, hj⟩ := List.mem_iff_getElem?.mp hmem
    by_cases he : i = j
    · subst he
      obtain ⟨rfl, -⟩ := Errand.close.inj (Option.some.inj (errand.symm.trans hj))
      exact .inr ⟨_, by simp [Table.get?_put], TcpDriver.doomed_requestClose (h.driver driver).2⟩
    · refine .inl (List.mem_iff_getElem?.mpr ⟨j, ?_⟩)
      rw [List.getElem?_set_ne he, hj]
  | turn _ _ turn => cases turn <;> exact .inl hmem
  | posting _ _ posting => cases posting <;> exact .inl hmem
  | _ => exact .inl hmem

/-- A deadline is awaited until it is over. -/
lemma watched_step (h : x.Sound) (e : Event) {n : Nat} (hn : n ∈ x.watched) :
    n ∈ (x.step e).1.watched ∨ x.forwarder.deadlineOver n ∈ (x.step e).1.loose := by
  have hmove := x.move_step h.loose e
  generalize x.step e = r at hmove
  cases hmove with
  | expire number awaited =>
    by_cases he : n = number
    · exact .inr (by simp [he])
    · exact .inl ((List.mem_erase_of_ne he).mpr hn)
  | resolve id asked errand answer watched found idle kept => exact .inl (kept hn)
  | turn _ _ turn => cases turn <;> exact .inl hn
  | posting _ _ posting => cases posting <;> exact .inl hn
  | _ => exact .inl hn

/-- A connection that is about to see to the deadline of its pair does so. -/
lemma watch_step (h : x.Sound) (e : Event) {n : Nat} {id : ConnectionId}
    (hdeadline : x.forwarder.deadline.isSome = true) (hid : x.errands.get? id = some (.watch n)) :
    (x.step e).1.errands.get? id = some (.watch n) ∨ n ∈ (x.step e).1.watched := by
  -- the errands of others are somewhere else
  have hput {id' : ConnectionId} (errand : Errand) (hother : x.errands.get? id' ≠ some (.watch n)) :
      (x.errands.put id' errand).get? id = some (.watch n) := by
    have hne : id ≠ id' := fun he => hother (he ▸ hid)
    rw [Table.get?_put, if_neg hne, hid]
  have herase {id' : ConnectionId} (hother : x.errands.get? id' ≠ some (.watch n)) :
      (x.errands.erase id').get? id = some (.watch n) := by
    have hne : id ≠ id' := fun he => hother (he ▸ hid)
    rw [Table.get?_erase, if_neg hne, hid]
  have hmove := x.move_step h.loose e
  generalize x.step e = r at hmove
  cases hmove with
  | turn _ _ turn =>
    cases turn with
    | enter id' d port driver free => exact .inl (hput _ (by simp [free]))
    | join id' d p driver free => exact .inl (hput _ (by simp [free]))
    | relay id' d driver free => exact .inl (hput _ (by simp [free]))
    | leave id' d driver free => exact .inl (hput _ (by simp [free]))
  | conclude id' d answer driver free => exact .inl (hput _ (by simp [free]))
  | answer id' asked d answer driver errand => exact .inl (herase (by simp [errand]))
  | forget id' asked answer driver errand => exact .inl (herase (by simp [errand]))
  | ask id' number request errand => exact .inl (hput _ (by simp [errand]))
  | resolve id' asked errand answer watched found idle kept armed =>
    by_cases he : errand = .watch n
    · exact .inr (armed n he hdeadline)
    · exact .inl (hput _ (by simpa [found] using he))
  | posting _ _ posting =>
    cases posting with
    | post id' asked other chunk rest d errand => exact .inl (hput _ (by simp [errand]))
    | lose id' asked other chunk rest errand => exact .inl (hput _ (by simp [errand]))
  | hangUp id' asked other answer d errand => exact .inl (hput _ (by simp [errand]))
  | _ => exact .inl hid

/-- When the deadline of a pair without a target is over, its client is to be closed. -/
lemma deadlineOver_of_source (h : x.Sound) {n : Nat} {client : ConnectionId}
    (hnobody : ∀ t, ¬ x.IsTarget t n) (hsource : x.forwarder.table.source? n = some client) :
    x.forwarder.deadlineOver n = .close client true := by
  obtain ⟨p, hp, hs⟩ := PairTable.source?_eq_some_iff.mp hsource
  have hnone : p.target = none := by
    cases ht : p.target with
    | none => rfl
    | some t => exact absurd (h.target hp ht) (hnobody t)
  have hstalled : x.forwarder.table.stalledSource? n = some client := by
    simp [PairTable.stalledSource?, hp, Option.filter, hnone, hs]
  simp [Forwarder.deadlineOver, hstalled]

/-- The end of a client without a target stays seen to. -/
lemma Secured.step (h : x.Sound) {n : Nat} {client : ConnectionId} (hs : x.Secured n client)
    (hnobody : ∀ t, ¬ x.IsTarget t n) (hsource : x.forwarder.table.source? n = some client)
    (e : Event) : (x.step e).1.Secured n client := by
  rcases hs with hdoomed | ⟨answer, hloose⟩ | ⟨hdeadline, hwatched | hwatch⟩
  · exact .inl (hdoomed.step h e)
  · have hclient : x.drivers.get? client ≠ none := by
      obtain ⟨p, hp, hs⟩ := PairTable.source?_eq_some_iff.mp hsource
      obtain ⟨d, -, hd, -⟩ := h.source hp hs
      simp [hd]
    rcases loose_step h e hclient hloose with hloose | hdoomed
    · exact .inr (.inl ⟨answer, hloose⟩)
    · exact .inl hdoomed
  · rcases watched_step h e hwatched with hwatched | hover
    · exact .inr (.inr ⟨by rwa [(deadline_step h e).1], .inl hwatched⟩)
    · rw [deadlineOver_of_source h hnobody hsource] at hover
      exact .inr (.inl ⟨true, hover⟩)
  · have hdeadline' : (x.step e).1.forwarder.deadline.isSome = true := by
      rwa [(deadline_step h e).1]
    exact .inr (.inr ⟨hdeadline', (watch_step h e hdeadline hwatch).symm⟩)

/-! ### Whole runs -/

lemma IsDoomed.run (h : x.Sound) {id : ConnectionId} (hid : x.IsDoomed id) (es : List Event) :
    (x.run es).1.IsDoomed id := by
  obtain ⟨d, hd, hdoomed⟩ := hid
  obtain ⟨d', hd', fs, rfl, -⟩ := life_run h hd es
  exact ⟨_, hd', hdoomed.run fs⟩

lemma deadline_run (h : x.Sound) (es : List Event) :
    (x.run es).1.forwarder.deadline = x.forwarder.deadline := by
  induction es using List.reverseRecOn with
  | nil => rfl
  | append_singleton es e ih =>
    rw [run_concat, (deadline_step (sound_run h es) e).1, ih]

lemma source_run (h : x.Sound) {n : Nat} {client : ConnectionId}
    (hsource : x.forwarder.table.source? n = some client) (es : List Event) :
    (x.run es).1.forwarder.table.source? n = some client ∨ (x.run es).1.IsDoomed client := by
  induction es using List.reverseRecOn with
  | nil => exact .inl hsource
  | append_singleton es e ih =>
    rw [run_concat]
    rcases ih with hsource | hdoomed
    · exact source_step (sound_run h es) e hsource
    · exact .inr (hdoomed.step (sound_run h es) e)

/-- With a deadline the end of a client is seen to from the moment its target is asked for. -/
lemma secured_of_requested (h : x.Sound) (hnew : x.requested = [])
    (hdeadline : x.forwarder.deadline.isSome = true) (es : List Event) {n : Nat}
    {client : ConnectionId} (hn : n ∈ (x.run es).1.requested)
    (hsource : (x.run es).1.forwarder.table.source? n = some client) :
    (x.run es).1.Secured n client := by
  induction es using List.reverseRecOn with
  | nil => simp [run, hnew] at hn
  | append_singleton es e ih =>
    have hsound := sound_run h es
    rw [run_concat] at hn hsource ⊢
    rcases requested_of_step hsound e hn with hbefore | ⟨id, request, hconnect, hwatch⟩
    · obtain ⟨hgiven, hnobody⟩ := hsound.requested.2 n hbefore
      have hclient := source_of_step hsound e hgiven hsource
      exact (ih hbefore hclient).step hsound hnobody hclient e
    · -- who asks for the target is the client
      obtain ⟨d, hd, hs⟩ := hsound.busy hconnect
      obtain ⟨p, hp, hid⟩ := hsound.source_of_listed hd hs.2 (hsound.connecting hconnect).1
      have hclient := source_of_step hsound e (hsound.numbered hp) hsource
      obtain rfl : id = client :=
        Option.some.inj ((PairTable.source?_eq_some_iff.mpr ⟨p, hp, hid⟩).symm.trans hclient)
      refine .inr (.inr ⟨?_, .inr hwatch⟩)
      rw [(deadline_step hsound e).1, deadline_run h es]
      exact hdeadline

/-- The end of a client whose target never comes stays seen to for ever. -/
theorem secured_run (h : x.Sound) {n : Nat} {client : ConnectionId} (hs : x.Secured n client)
    (hmissed : x.Missed n)
    (hclient : x.forwarder.table.source? n = some client ∨ x.IsDoomed client) (es : List Event) :
    (x.run es).1.Secured n client := by
  have hall : (x.run es).1.Secured n client ∧ (x.run es).1.Missed n := by
    induction es using List.reverseRecOn with
    | nil => exact ⟨hs, hmissed⟩
    | append_singleton es e ih =>
      obtain ⟨hs, hmissed⟩ := ih
      have hsound := sound_run h es
      rw [run_concat]
      refine ⟨?_, hmissed.step hsound e⟩
      have hnow : (x.run es).1.forwarder.table.source? n = some client ∨
          (x.run es).1.IsDoomed client :=
        hclient.elim (fun hsource => source_run h hsource es) fun hdoomed => .inr (hdoomed.run h es)
      rcases hnow with hsource | hdoomed
      · exact hs.step hsound hmissed.nobody hsource e
      · exact .inl (hdoomed.step hsound e)
  exact hall.1

end Exchange

end Proxy

end Switchboard
