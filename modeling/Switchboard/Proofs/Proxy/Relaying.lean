import Switchboard.Proofs.Proxy.Prompt
import Switchboard.Proofs.Proxy.Return
import Switchboard.Proofs.Tcp.Spared
import Switchboard.Proxy.Program

/-!
# Relaying in full

Calls that are made one at a time (`Exchange.wholeCalls`) hand chunks over in order, both ways: when
no call is under way, what was posted for a connection is what was read from its other side.  A
connection that is over then asks its other side to close, as the last thing that anybody posts for
it, since it stays alone from then on (`Exchange.Alone`).  With time to write out, and unless its
socket fails, that one has sent all that the other one received by the time its end is announced
(`Exchange.relayed_in_full`).
-/

namespace Switchboard

namespace Proxy

/-- In every configuration of the program the connections close in the forwarder's closing time. -/
lemma Running.closeLingerSecs_configFor {files : Files} {line : CommandLine} {c : Config}
    (h : Running.configFor files line = .ok c) :
    c.tcp.closeLingerSecs = c.proxy.closeLingerSecs := by
  unfold Running.configFor at h
  cases hconfig : line.config with
  | none =>
    simp only [hconfig] at h
    obtain rfl := Except.ok.inj h
    rfl
  | some path =>
    simp only [hconfig] at h
    cases hload : Config.load files path with
    | error e =>
      rw [hload] at h
      cases h
    | ok config =>
      rw [hload] at h
      obtain rfl := Except.ok.inj h
      rfl

namespace Exchange

variable {x : Exchange}

/-! ### One call at a time -/

/-- Whether an event has a call come to the table. -/
def Event.isConsult : Event → Bool
  | .consult _ => true
  | _ => false

/-- Whether in a run every call that comes to the table finds the errands of all others done. -/
def wholeCalls (x : Exchange) : List Event → Bool
  | [] => true
  | e :: es => (!e.isConsult || x.errands.isEmpty) && (x.step e).1.wholeCalls es

lemma wholeCalls_append (x : Exchange) (es fs : List Event) :
    x.wholeCalls (es ++ fs) = (x.wholeCalls es && (x.run es).1.wholeCalls fs) := by
  induction es generalizing x with
  | nil => rfl
  | cons e es ih => simp [wholeCalls, run, Noted.andThen, ih, Bool.and_assoc]

lemma wholeCalls_concat (x : Exchange) (es : List Event) (e : Event) :
    x.wholeCalls (es ++ [e]) =
      (x.wholeCalls es && (!e.isConsult || (x.run es).1.errands.isEmpty)) := by
  rw [wholeCalls_append, wholeCalls, wholeCalls, Bool.and_true]

/-- An errand comes in the place of another one, or of a call that comes to the table. -/
lemma errands_step (h : x.Sound) (e : Event) {id : ConnectionId}
    (hbusy : (x.step e).1.errands.get? id ≠ none) :
    x.errands.get? id ≠ none ∨ e = .consult id := by
  have hput {i : ConnectionId} {errand : Errand} (hbusy : (x.errands.put i errand).get? id ≠ none)
      (hi : x.errands.get? i ≠ none ∨ e = .consult i) :
      x.errands.get? id ≠ none ∨ e = .consult id := by
    rw [Table.get?_put] at hbusy
    split at hbusy
    · rename_i he
      exact he ▸ hi
    · exact .inl hbusy
  have herase {i : ConnectionId} (hbusy : (x.errands.erase i).get? id ≠ none) :
      x.errands.get? id ≠ none := by
    rw [Table.get?_erase] at hbusy
    split at hbusy
    · exact absurd rfl hbusy
    · exact hbusy
  have hmove := x.move_step h.loose e
  generalize x.step e = r at hmove hbusy
  cases hmove with
  | turn _ _ turn => cases turn <;> exact hput hbusy (.inr rfl)
  | conclude => exact hput hbusy (.inr rfl)
  | answer => exact .inl (herase hbusy)
  | forget => exact .inl (herase hbusy)
  | ask id' number request errand => exact hput hbusy (.inl (by simp [errand]))
  | resolve id' asked errand answer watched found idle => exact hput hbusy (.inl (by simp [found]))
  | posting _ _ posting =>
    cases posting with
    | post id' asked other chunk rest d errand => exact hput hbusy (.inl (by simp [errand]))
    | lose id' asked other chunk rest errand => exact hput hbusy (.inl (by simp [errand]))
  | hangUp id' asked other answer d errand => exact hput hbusy (.inl (by simp [errand]))
  | _ => exact .inl hbusy

/-- At most one call is under way that was at the table. -/
def Lone (x : Exchange) : Prop :=
  ∀ id id', x.errands.get? id ≠ none → x.errands.get? id' ≠ none → id = id'

/-- If calls are made one at a time, at most one is under way. -/
lemma lone_run (h : x.Sound) (hlone : x.Lone) {es : List Event} (hwhole : x.wholeCalls es = true) :
    (x.run es).1.Lone := by
  induction es using List.reverseRecOn with
  | nil => exact hlone
  | append_singleton es e ih =>
    rw [wholeCalls_concat, Bool.and_eq_true] at hwhole
    obtain ⟨hbefore, hnow⟩ := hwhole
    have hlone := ih hbefore
    rw [run_concat]
    intro id id' hid hid'
    have hnobody {i j : ConnectionId} (he : e = .consult i)
        (hj : (x.run es).1.errands.get? j ≠ none) : False := by
      subst he
      have hnone : (x.run es).1.errands = [] := by simpa [Event.isConsult] using hnow
      simp [hnone] at hj
    rcases errands_step (sound_run h es) e hid with hid | he
    · rcases errands_step (sound_run h es) e hid' with hid' | he'
      · exact hlone id id' hid hid'
      · exact (hnobody he' hid).elim
    · rcases errands_step (sound_run h es) e hid' with hid' | he'
      · exact (hnobody he hid').elim
      · exact Event.consult.inj (he.symm.trans he')

/-- If calls are made one at a time, no chunk overtakes another one. -/
lemma overtaken_of_wholeCalls (h : x.Sound) (hlone : x.Lone) {source target : ConnectionId}
    (hapart : source ≠ target) {es : List Event} (hwhole : x.wholeCalls es = true) :
    x.overtaken source target es = false := by
  induction es using List.reverseRecOn with
  | nil => rfl
  | append_singleton es e ih =>
    have hbefore : x.wholeCalls es = true := by
      rw [wholeCalls_concat, Bool.and_eq_true] at hwhole
      exact hwhole.1
    rw [overtaken_concat, ih hbefore, Bool.false_or]
    have hbusy {id : ConnectionId} (hsome : (x.run es).1.pending id target ≠ []) :
        (x.run es).1.errands.get? id ≠ none := fun hnone => hsome (pending_of_none hnone target)
    unfold overtakes
    split
    · by_contra hover
      simp only [Bool.not_eq_false, Bool.and_eq_true, Bool.not_eq_true', List.isEmpty_eq_false_iff,
        decide_eq_true_eq] at hover
      obtain ⟨⟨-, hsource⟩, htarget⟩ := hover
      exact hapart (lone_run h hlone hbefore source target (hbusy hsource) (hbusy htarget))
    · rfl

/-- When no call is under way, what was posted for a side of a pair whose mailbox is open is what
was read from the other side. -/
lemma posted_eq_removed {f : Forwarder} {chunkSize : Nat} {linger : Option Nat} {es : List Event}
    (hwhole : (ofForwarder f chunkSize linger).wholeCalls es = true)
    {n : Nat}
    (hlimit : ∀ fs, fs <+: es → ((ofForwarder f chunkSize linger).run fs).1.exceeds n = false)
    (hidle : ((ofForwarder f chunkSize linger).run es).1.errands = []) {p : Pair}
    {id other : ConnectionId} {d : TcpDriver}
    (hid :
      ((ofForwarder f chunkSize linger).run es).1.forwarder.table.byConnection.get? id = some n)
    (hp : ((ofForwarder f chunkSize linger).run es).1.forwarder.table.pairs.get? n = some p)
    (hother : p.across id = some other)
    (hd : ((ofForwarder f chunkSize linger).run es).1.drivers.get? other = some d)
    (hopen : d.mailbox.isOpen = true) :
    Note.data .posted other ((ofForwarder f chunkSize linger).run es).2 =
      Note.data .removed id ((ofForwarder f chunkSize linger).run es).2 := by
  have hstart := sound_ofForwarder f chunkSize linger
  have hchronicle := chronicle_ofForwarder f chunkSize linger
  have hsound := sound_run hstart es
  have hpending (i j : ConnectionId) :
      ((ofForwarder f chunkSize linger).run es).1.pending i j = [] :=
    pending_of_none (by simp [hidle]) j
  have hopened (d' : TcpDriver)
      (hd' : ((ofForwarder f chunkSize linger).run es).1.drivers.get? other = some d') :
      d'.mailbox.isOpen = true := by
    obtain rfl := Option.some.inj (hd.symm.trans hd')
    exact hopen
  obtain ⟨hne, -, ⟨hsource, htarget⟩ | ⟨hsource, htarget⟩⟩ :=
    hsound.table.across_cases hid hp hother
  · have hlone : (ofForwarder f chunkSize linger).Lone := fun i _ hi => absurd rfl hi
    have hhands := (withheld_or_handsOver_run hstart hchronicle rfl es hlimit).2 p id other hp
      hsource htarget hopened
    have hordered := hhands.ordered (overtaken_of_wholeCalls hstart hlone (Ne.symm hne) hwhole)
    rwa [hpending, hpending, List.append_nil, List.append_nil] at hordered
  · have hback :=
      (givesBack_run hstart hchronicle rfl es p other hp hsource hopened).2 p id hp htarget
    rwa [hpending, List.append_nil] at hback

/-! ### Alone in a pair -/

/-- A connection that was left alone by the other side of its pair, and that nobody will post for.
-/
structure Alone (x : Exchange) (n : Nat) (id : ConnectionId) : Prop where
  /-- It was announced. -/
  sits : x.Sits id
  /-- Nobody is about to post for it. -/
  nobody : ∀ i, x.pending i id = []
  /-- Nobody else is in its pair. -/
  single : ∀ i, x.forwarder.table.byConnection.get? i = some n → i = id
  /-- It is in no other pair. -/
  own : ∀ m, x.forwarder.table.byConnection.get? id = some m → m = n
  /-- The number of its pair was given out. -/
  numbered : n < x.forwarder.nextPair
  /-- Its pair had its target. -/
  joined : ¬ x.Awaits n

/-- Nobody joins one that is alone, and nothing is posted for it. -/
lemma Alone.step (h : x.Sound) {n : Nat} {id : ConnectionId} (halone : x.Alone n id) (e : Event) :
    (x.step e).1.Alone n id ∧ Note.data .posted id (x.step e).2 = [] := by
  have hsits := sits_step h e halone.sits
  have hjoined : ¬ (x.step e).1.Awaits n := fun hawaits => halone.joined (awaits_of_step h hawaits)
  rcases quiet_step h e with quiet | turn | posting
  · refine ⟨⟨hsits, fun i => ?_, ?_, ?_, ?_, hjoined⟩, quiet.posted id⟩
    · rw [quiet.pending]
      exact halone.nobody i
    · rw [quiet.forwarder]
      exact halone.single
    · rw [quiet.forwarder]
      exact halone.own
    · rw [quiet.forwarder]
      exact halone.numbered
  · generalize x.step e = r at turn hsits hjoined ⊢
    have hpending {i : ConnectionId} {errand : Errand} {x' : Exchange}
        (hput : x'.errands = x.errands.put i errand) (hafter : errand.chunksFor id = [])
        (j : ConnectionId) : x'.pending j id = [] := by
      rw [pending_put hput]
      split
      · exact hafter
      · exact halone.nobody j
    cases turn with
    | enter i d port driver free phase opening =>
      have hne : id ≠ i := fun he => (h.unlisted driver phase free).1 (he ▸ halone.sits)
      have hlt := halone.numbered
      refine ⟨⟨hsits, hpending rfl rfl, fun j hj => ?_, fun m hm => ?_, Nat.lt_succ_of_lt hlt,
        hjoined⟩, rfl⟩
      · simp only [PairTable.enter, Table.get?_put] at hj
        split at hj
        · have := Option.some.inj hj
          omega
        · exact halone.single j hj
      · simp only [PairTable.enter, Table.get?_put, if_neg hne] at hm
        exact halone.own m hm
    | join i d p driver free phase opening pair =>
      have hne : id ≠ i := fun he => (h.unlisted driver phase free).1 (he ▸ halone.sits)
      refine ⟨⟨hsits, hpending rfl ?_, fun j hj => ?_, fun m hm => ?_, halone.numbered, hjoined⟩,
        rfl⟩
      · rw [Errand.chunksFor, if_neg (Ne.symm hne)]
      · simp only [Table.get?_put] at hj
        split at hj
        · -- the pair had its target already
          refine absurd (awaits_of_opening h driver free phase opening) ?_
          rw [Option.some.inj hj]
          exact halone.joined
        · exact halone.single j hj
      · simp only [Table.get?_put, if_neg hne] at hm
        exact halone.own m hm
    | relay i d driver free phase =>
      have hforwarder := x.forwarder.snd_received i d.received.data
      have hlist := x.forwarder.table.byConnection_relay i d.received.data x.forwarder.maxHeld
      refine ⟨⟨hsits, hpending rfl ?_, ?_, ?_, ?_, hjoined⟩, rfl⟩
      · rcases x.forwarder.fst_received_cases i d.received.data with
          ⟨answer, he⟩ | ⟨m, p, other, hm, hp, hother, he⟩
        · rw [he]
          rfl
        · rw [he, Errand.chunksFor, if_neg]
          rintro rfl
          -- the other side would be in the pair as well
          obtain ⟨hne, hlisted, -⟩ := h.table.across_cases hm hp hother
          obtain rfl := halone.own m hlisted
          exact hne (halone.single i hm).symm
      · rw [hforwarder, hlist]
        exact halone.single
      · rw [hforwarder, hlist]
        exact halone.own
      · rw [hforwarder]
        exact halone.numbered
    | leave i d driver free phase =>
      have hforwarder := x.forwarder.snd_closed i
      have hlist := PairTable.get?_byConnection_leave h.table i
      refine ⟨⟨hsits, hpending rfl ?_, fun j hj => ?_, fun m hm => ?_, ?_, hjoined⟩, rfl⟩
      · rcases x.forwarder.fst_closed_cases i with ⟨other, he⟩ | he <;> rw [he] <;> rfl
      · rw [hforwarder, hlist] at hj
        split at hj
        · cases hj
        · exact halone.single j hj
      · rw [hforwarder, hlist] at hm
        split at hm
        · cases hm
        · exact halone.own m hm
      · rw [hforwarder]
        exact halone.numbered
  · generalize x.step e = r at posting hsits hjoined ⊢
    have hpending {i : ConnectionId} {errand : Errand} {x' : Exchange}
        (hput : x'.errands = x.errands.put i errand) (hafter : errand.chunksFor id = [])
        (j : ConnectionId) : x'.pending j id = [] := by
      rw [pending_put hput]
      split
      · exact hafter
      · exact halone.nobody j
    cases posting with
    | post i asked other chunk rest d errand driver granted =>
      have hne : other ≠ id := by
        rintro rfl
        have hnobody := halone.nobody i
        simp [pending_of_some errand, Errand.chunksFor] at hnobody
      refine ⟨⟨hsits, hpending rfl ?_, halone.single, halone.own, halone.numbered, hjoined⟩, ?_⟩
      · rw [Errand.chunksFor, if_neg hne]
      · refine (TcpDriver.data_request d _ id).2 fun he => hne ?_
        exact (h.driver driver).1.symm.trans he.symm
    | lose i asked other chunk rest errand refused =>
      exact ⟨⟨hsits, hpending rfl rfl, halone.single, halone.own, halone.numbered, hjoined⟩, rfl⟩

/-- Nothing is ever posted again for one that is alone. -/
lemma Alone.posted_run (h : x.Sound) {n : Nat} {id : ConnectionId} (halone : x.Alone n id)
    (es : List Event) : (x.run es).1.Alone n id ∧ Note.data .posted id (x.run es).2 = [] := by
  induction es using List.reverseRecOn with
  | nil => exact ⟨halone, rfl⟩
  | append_singleton es e ih =>
    obtain ⟨halone', hposted⟩ := ih.1.step (sound_run h es) e
    rw [run_concat, Note.data_append, ih.2, hposted]
    exact ⟨halone', rfl⟩

/-! ### The last call of a side -/

/-- A connection whose announcement was at the table stays one along every run. -/
lemma sits_run (h : x.Sound) (es : List Event) {id : ConnectionId} (hid : x.Sits id) :
    (x.run es).1.Sits id := by
  induction es using List.reverseRecOn with
  | nil => exact hid
  | append_singleton es e ih =>
    rw [run_concat]
    exact sits_step (sound_run h es) e ih

/-- A target that has not been at the table had not been there at any time before. -/
lemma awaits_of_run (h : x.Sound) (es : List Event) {n : Nat}
    (hawaits : (x.run es).1.Awaits n) : x.Awaits n := by
  induction es using List.reverseRecOn with
  | nil => exact hawaits
  | append_singleton es e ih =>
    rw [run_concat] at hawaits
    exact ih (awaits_of_step (sound_run h es) hawaits)

/-- A connection that leaves its pair asks its other side to close. -/
lemma fst_closed_of_across (h : x.Sound) {n : Nat} {p : Pair} {id other : ConnectionId}
    (hid : x.forwarder.table.byConnection.get? id = some n)
    (hp : x.forwarder.table.pairs.get? n = some p) (hother : p.across id = some other) :
    (x.forwarder.closed id).1 = .close other true := by
  have heither : (p.without id).either = some other := by
    obtain ⟨hne, -, ⟨hs, ht⟩ | ⟨hs, ht⟩⟩ := h.table.across_cases hid hp hother
    · simp [Pair.without, Pair.either, hs, ht]
    · simp [Pair.without, Pair.either, hs, ht, hne]
  have hleave : (x.forwarder.table.leave id).1 = some other := by
    rcases PairTable.leave_cases h.table id with ⟨hnone, -⟩ | ⟨m, q, hm, hq, hleave⟩
    · simp [hid] at hnone
    · obtain rfl := Option.some.inj (hid.symm.trans hm)
      obtain rfl := Option.some.inj (hp.symm.trans hq)
      rw [hleave, heither]
  unfold Forwarder.closed
  generalize x.forwarder.table.leave id = left at hleave ⊢
  obtain ⟨rest, table⟩ := left
  subst hleave
  rfl

/-- What the last call of a connection does that has another side. -/
lemma run_farewell (h : x.Sound) {n : Nat} {p : Pair} {id other : ConnectionId}
    {d d' : TcpDriver} (hd : x.drivers.get? id = some d) (phase : d.phase = .closing)
    (free : x.errands.get? id = none)
    (hid : x.forwarder.table.byConnection.get? id = some n)
    (hp : x.forwarder.table.pairs.get? n = some p) (hother : p.across id = some other)
    (hd' : x.drivers.get? other = some d') (asked : Bool) :
    x.run [.consult id, .errand id asked] =
      ({ x with
          forwarder := (x.forwarder.closed id).2
          drivers := x.drivers.put other d'.requestClose
          errands := (x.errands.put id (.close other true)).put id (.done true) }, []) := by
  have hclosed := fst_closed_of_across h hid hp hother
  have hconsult : x.step (.consult id) =
      ({ x with
          forwarder := (x.forwarder.closed id).2
          errands := x.errands.put id (.close other true) }, []) := by
    simp [step, consult, hd, free, phase, hclosed]
  have herrand : ({ x with
      forwarder := (x.forwarder.closed id).2
      errands := x.errands.put id (.close other true) } : Exchange).step (.errand id asked) =
      ({ x with
          forwarder := (x.forwarder.closed id).2
          drivers := x.drivers.put other d'.requestClose
          errands := (x.errands.put id (.close other true)).put id (.done true) }, []) := by
    simp [step, errand, advance, withDriver, put, hd', Table.get?_put]
  rw [run, hconsult, Noted.andThen, run, herrand]
  rfl

/-- The last call of a connection leaves its other side alone. -/
lemma alone_farewell (h : x.Sound) {n : Nat} {p : Pair} {id other : ConnectionId}
    {d d' : TcpDriver} (hd : x.drivers.get? id = some d) (phase : d.phase = .closing)
    (hidle : x.errands = [])
    (hid : x.forwarder.table.byConnection.get? id = some n)
    (hp : x.forwarder.table.pairs.get? n = some p) (hother : p.across id = some other)
    (hd' : x.drivers.get? other = some d') (asked : Bool) :
    (x.run [.consult id, .errand id asked]).1.Alone n other := by
  obtain ⟨hne, hlisted, hsides⟩ := h.table.across_cases hid hp hother
  have hrun := run_farewell h hd phase (by simp [hidle]) hid hp hother hd' asked
  have hlist := PairTable.get?_byConnection_leave h.table id
  have hsits : (x.run [.consult id, .errand id asked]).1.Sits other :=
    sits_run h _ (h.listed hlisted)
  have hjoined : ¬ (x.run [.consult id, .errand id asked]).1.Awaits n := by
    intro hawaits
    have hbefore := awaits_of_run h _ hawaits
    rcases hsides with ⟨-, ht⟩ | ⟨-, ht⟩
    · exact hbefore other (h.target hp ht) (h.listed hlisted)
    · exact hbefore id (h.target hp ht) (h.listed hid)
  rw [hrun] at hsits hjoined ⊢
  refine ⟨hsits, fun i => ?_, fun i hi => ?_, fun m hm => ?_, ?_, hjoined⟩
  · by_cases he : i = id
    · simp [pending, Table.get?_put, he, Errand.chunksFor]
    · exact pending_of_none (by simp [Table.get?_put, he, hidle]) other
  · dsimp only at hi
    rw [x.forwarder.snd_closed, hlist] at hi
    split at hi
    · cases hi
    · rename_i he
      obtain ⟨q, hq, hside⟩ := h.table.listed hi
      obtain rfl := Option.some.inj (hp.symm.trans hq)
      rcases hsides with ⟨hs, ht⟩ | ⟨hs, ht⟩ <;> rcases hside with hi | hi
      · exact absurd (Option.some.inj (hi.symm.trans hs)) he
      · exact Option.some.inj (hi.symm.trans ht)
      · exact Option.some.inj (hi.symm.trans hs)
      · exact absurd (Option.some.inj (hi.symm.trans ht)) he
  · dsimp only at hm
    rw [x.forwarder.snd_closed, hlist, if_neg hne, hlisted] at hm
    exact (Option.some.inj hm).symm
  · dsimp only
    rw [x.forwarder.snd_closed]
    exact h.numbered hp

/-! ### To the last byte -/

/-- A connection that serves its peer when it is left alone, and meets with no blow from then on,
has sent all that was posted for it by the time its end is announced. -/
lemma left_of_life {id : ConnectionId} {d : TcpDriver} {history notes : List Note}
    {es : List Event} (h : x.Remembers history id d) (hlinger : x.linger.isSome = true)
    (hactive : d.phase.isActive = true) (hopening : d.phase ≠ .opening) (hco : d.Coherent)
    {d' : TcpDriver} (hlife : Lives id d d' notes es)
    (hblow : ∀ e, .drive id e ∈ es → e.isBlow = false)
    (hclose : .close id .closed ∈ Note.callbacks (history ++ notes)) :
    Note.stream .left id (history ++ notes) = Note.stream .posted id (history ++ notes) := by
  obtain ⟨c, opening, gs, rfl, rfl, hown⟩ := h
  obtain ⟨fs, -, hnotes, hfs⟩ := hlife
  -- the two stretches of the history are one run of the driver
  have hall : Note.own c.id (history ++ notes) =
      Note.own c.id ((TcpDriver.ofConnection c opening x.chunkSize x.linger).run
        (.start :: gs ++ fs)).2 := by
    rw [TcpDriver.run_append, Noted.andThen, Note.own_append, Note.own_append, hown, hnotes]
  have hspared (f : TcpDriver.Event) (hf : f ∈ fs) : f.isBlow = false := by
    rcases hfs f hf with hdrive | hservice
    · exact hblow f hdrive
    · unfold isOfService at hservice
      split at hservice <;> simp_all [TcpDriver.Event.isBlow]
  rw [← Note.mem_callbacks_own c.id rfl, hall, Note.mem_callbacks_own c.id rfl] at hclose
  rw [← Note.stream_own c.id .left, ← Note.stream_own c.id .posted, hall, Note.stream_own,
    Note.stream_own]
  exact TcpDriver.left_of_spared c opening x.chunkSize x.linger hlinger (.start :: gs) fs hactive
    hopening hco hspared hclose

/-- Nothing comes in any more at a connection that is over. -/
lemma arrived_of_life {id : ConnectionId} {d d' : TcpDriver} {notes : List Note}
    {es : List Event} (hname : d.id = id) (hover : d.phase.isOver = true)
    (hlife : Lives id d d' notes es) : Note.data .arrived id notes = [] := by
  obtain ⟨fs, -, hnotes, -⟩ := hlife
  rw [← Note.data_own, hnotes, Note.data_own, ← hname]
  exact TcpDriver.arrived_of_isOver hover fs

/-- With a closing time, calls that are made one at a time and no more held than may be, a
connection that is over asks the other side of its pair to close, if that one still serves its
peer.  By then all that came in at the first is posted for the second, and nothing will be posted
for it any more; and unless the second meets with a blow it has sent all of that, and nothing else,
by the time its end is announced. -/
theorem relayed_in_full {files : Files} {line : CommandLine} {c : Config}
    (hconfig : Running.configFor files line = .ok c) (hlinger : 0 < c.proxy.closeLingerSecs)
    (f : Forwarder) (chunkSize : Nat) (es : List Event) {n : Nat} {p : Pair}
    {id other : ConnectionId} {d d' : TcpDriver}
    (hwhole : (ofForwarder f chunkSize c.tcp.closeLinger).wholeCalls es = true)
    (hlimit : ∀ fs, fs <+: es →
      ((ofForwarder f chunkSize c.tcp.closeLinger).run fs).1.exceeds n = false)
    (hidle : ((ofForwarder f chunkSize c.tcp.closeLinger).run es).1.errands = [])
    (hd : ((ofForwarder f chunkSize c.tcp.closeLinger).run es).1.drivers.get? id = some d)
    (hphase : d.phase = .closing)
    (hid : ((ofForwarder f chunkSize c.tcp.closeLinger).run es).1.forwarder.table.byConnection.get?
      id = some n)
    (hp : ((ofForwarder f chunkSize c.tcp.closeLinger).run es).1.forwarder.table.pairs.get? n =
      some p)
    (hother : p.across id = some other)
    (hd' : ((ofForwarder f chunkSize c.tcp.closeLinger).run es).1.drivers.get? other = some d')
    (hactive : d'.phase.isActive = true) (asked : Bool) :
    let start := ofForwarder f chunkSize c.tcp.closeLinger
    let es' := es ++ [.consult id, .errand id asked]
    (start.run es').1.drivers.get? other =
      some { d' with mailbox := { d'.mailbox with posted := d'.mailbox.posted ++ [.close] } } ∧
    Note.stream .posted other (start.run es').2 = Note.stream .arrived id (start.run es').2 ∧
    ∀ fs, (∀ e, .drive other e ∈ fs → e.isBlow = false) →
      Note.data .posted other (start.run (es' ++ fs)).2 =
        Note.data .posted other (start.run es').2 ∧
      (.close other .closed ∈ Note.callbacks (start.run (es' ++ fs)).2 →
        Note.stream .left other (start.run (es' ++ fs)).2 =
          Note.stream .arrived id (start.run (es' ++ fs)).2) := by
  intro start es'
  have hstart : start.Sound := sound_ofForwarder f chunkSize c.tcp.closeLinger
  have hsound := sound_run hstart es
  have hpatient : (start.run es).1.linger.isSome = true := by
    rw [(settings_run hstart es).2]
    have hsecs := Running.closeLingerSecs_configFor hconfig
    simp [start, ofForwarder, TcpConfig.closeLinger, seconds?, hsecs, hlinger]
  have hco := (hsound.driver hd').2
  have hopen := (hco.active hactive).2.1
  have hopening : d'.phase ≠ .opening := by
    -- it was announced, and no call is under way
    obtain ⟨-, hlisted, -⟩ := hsound.table.across_cases hid hp hother
    obtain ⟨d₀, hd₀, hbusy⟩ := hsound.listed hlisted
    obtain rfl := Option.some.inj (hd'.symm.trans hd₀)
    exact fun hphase => hbusy hphase (by simp [start, hidle])
  have hrun := run_farewell hsound hd hphase (by simp [start, hidle]) hid hp hother hd' asked
  have hclosing : start.run es' = (((start.run es).1.run [.consult id, .errand id asked]).1,
      (start.run es).2) := by
    rw [run_append, Noted.andThen, hrun, List.append_nil]
  have hposted : Note.stream .posted other (start.run es).2 =
      Note.stream .arrived id (start.run es).2 := by
    rw [arrived_eq_removed hd (by simp [hphase]), Note.stream,
      posted_eq_removed hwhole hlimit hidle hid hp hother hd' hopen]
    rfl
  refine ⟨?_, ?_, fun fs hblow => ?_⟩
  · rw [hclosing, hrun, Table.get?_put, if_pos rfl]
    simp [TcpDriver.requestClose, Mailbox.post, hopen]
  · rw [hclosing]
    exact hposted
  · have halone := alone_farewell hsound hd hphase hidle hid hp hother hd' asked
    have hsilent := (halone.posted_run (sound_run hsound _) fs).2
    -- what follows from the last call on
    have hrest : ((start.run es).1.run ([.consult id, .errand id asked] ++ fs)).2 =
        (((start.run es).1.run [.consult id, .errand id asked]).1.run fs).2 := by
      rw [run_append, Noted.andThen, hrun, List.nil_append]
    have hall : (start.run (es' ++ fs)).2 =
        (start.run es).2 ++ ((start.run es).1.run ([.consult id, .errand id asked] ++ fs)).2 := by
      rw [List.append_assoc, run_append, Noted.andThen]
    have hsame : Note.data .posted other (start.run (es' ++ fs)).2 =
        Note.data .posted other (start.run es).2 := by
      rw [hall, Note.data_append, hrest, hsilent, List.append_nil]
    refine ⟨by rw [hsame, hclosing], fun hclose => ?_⟩
    obtain ⟨_, -, hlife⟩ := life_run hsound hd ([.consult id, .errand id asked] ++ fs)
    obtain ⟨_, -, hlife'⟩ := life_run hsound hd' ([.consult id, .errand id asked] ++ fs)
    have harrived := arrived_of_life (hsound.driver hd).1 (by simp [hphase, TcpPhase.isOver]) hlife
    have hremembers : (start.run es).1.Remembers (start.run es).2 other d' := by
      rcases birth_run f chunkSize c.tcp.closeLinger es other with
        ⟨hnone, -⟩ | ⟨d₀, hd₀, hremembers⟩
      · simp [hd'] at hnone
      · obtain rfl := Option.some.inj (hd'.symm.trans hd₀)
        exact hremembers
    have hleft := left_of_life hremembers hpatient hactive hopening hco hlife'
      (fun e he => hblow e (by simpa using he)) (hall ▸ hclose)
    rw [← hall] at hleft
    rw [hleft, Note.stream, hsame, ← Note.stream, hposted, hall, Note.stream_append,
      Note.stream_of_data_eq_nil harrived, List.append_nil]

/-- A client sends a chunk that is held until its target joins, then another one, and ends its
stream; its last call is about to come to the table. -/
def parting : List Event :=
  let here : Endpoint := ⟨.loopback, 80⟩
  [.accept ⟨1⟩ 80 here here, .consult ⟨1⟩, .errand ⟨1⟩ true, .errand ⟨1⟩ true, .errand ⟨1⟩ true,
    .drive ⟨1⟩ (.readDone (.ok [1])), .consult ⟨1⟩, .errand ⟨1⟩ true, .targetUp 1 ⟨2⟩ here here,
    .consult ⟨2⟩, .errand ⟨2⟩ true, .errand ⟨2⟩ true, .errand ⟨2⟩ true,
    .drive ⟨1⟩ (.readDone (.ok [2, 3])), .consult ⟨1⟩, .errand ⟨1⟩ true, .errand ⟨1⟩ true,
    .errand ⟨1⟩ true, .drive ⟨1⟩ (.readDone (.ok [])), .drive ⟨1⟩ .shutdownOver]

/-- The target is asked to close before it has sent anything; it writes three bytes out and is over.
-/
def aftermath : List Event :=
  [.errand ⟨1⟩ true, .drive ⟨2⟩ .command, .drive ⟨2⟩ .command, .drive ⟨2⟩ .command,
    .drive ⟨2⟩ (.writeDone (.ok 1)), .drive ⟨2⟩ (.writeDone (.ok 1)),
    .drive ⟨2⟩ (.writeDone (.ok 1)), .drive ⟨2⟩ (.flushDone (.ok ())), .drive ⟨2⟩ .shutdownOver]

/-- With the default closing time all that the client sent has left when the target's end is
announced. -/
theorem relayed_in_full_default :
    let c : Config := { tcp := { closeLingerSecs := 5 } }
    let es := parting ++ [.consult ⟨1⟩, .errand ⟨1⟩ true] ++ aftermath
    Note.stream .arrived ⟨1⟩ ((ofForwarder crossing 512 c.tcp.closeLinger).run es).2 = [1, 2, 3] ∧
      Note.stream .left ⟨2⟩ ((ofForwarder crossing 512 c.tcp.closeLinger).run es).2 =
        Note.stream .arrived ⟨1⟩ ((ofForwarder crossing 512 c.tcp.closeLinger).run es).2 := by
  intro c es
  have hconfig : Running.configFor {} {} = .ok c := rfl
  have hlimit (fs : List Event) (hfs : fs <+: parting) :
      ((ofForwarder crossing 512 c.tcp.closeLinger).run fs).1.exceeds 1 = false := by
    have hall : ∀ fs ∈ parting.inits,
        ((ofForwarder crossing 512 c.tcp.closeLinger).run fs).1.exceeds 1 = false := by
      decide +kernel
    exact hall fs ((List.mem_inits fs parting).mpr hfs)
  have hphase : (((ofForwarder crossing 512 c.tcp.closeLinger).run parting).1.drivers.get?
      ⟨1⟩).map (·.phase) = some .closing := by
    decide +kernel
  have hactive : (((ofForwarder crossing 512 c.tcp.closeLinger).run parting).1.drivers.get?
      ⟨2⟩).map (·.phase.isActive) = some true := by
    decide +kernel
  have hp : ((ofForwarder crossing 512 c.tcp.closeLinger).run parting).1.forwarder.table.pairs.get?
      1 = some { source := some ⟨1⟩, target := some ⟨2⟩ } := by
    decide +kernel
  have hclose : .close ⟨2⟩ .closed ∈
      Note.callbacks ((ofForwarder crossing 512 c.tcp.closeLinger).run es).2 := by
    decide +kernel
  have hblow (e : TcpDriver.Event) (he : .drive ⟨2⟩ e ∈ aftermath) : e.isBlow = false := by
    simp only [aftermath, List.mem_cons, List.not_mem_nil, or_false] at he
    rcases he with he | he | he | he | he | he | he | he | he <;> cases he <;> rfl
  obtain ⟨d, hd, hclosing⟩ := Option.map_eq_some_iff.mp hphase
  obtain ⟨d', hd', hactive'⟩ := Option.map_eq_some_iff.mp hactive
  have h := (relayed_in_full hconfig (by decide) crossing 512 parting (by decide +kernel) hlimit
    (by decide +kernel) hd hclosing (by decide +kernel) hp rfl hd' hactive' true).2.2 aftermath
    hblow
  exact ⟨by decide +kernel, h.2 hclose⟩

end Exchange

end Proxy

end Switchboard
