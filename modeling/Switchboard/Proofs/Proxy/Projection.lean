import Switchboard.Proofs.Proxy.Soundness

/-!
# The life of one connection of an exchange

An exchange has many drivers, and all that happens to one of them is a run of its own: whatever an
event does to a driver is a step of that driver or nothing (`Exchange.life_step`), and what the
history of the exchange tells of its connection is what the history of that run tells of it
(`Exchange.life_run`, `Exchange.birth_run`).  So the laws of stream drivers hold of the connections
of an exchange as well.

Of the steps in such a run those that are not up to the service are events of the exchange itself.
That tells for each connection what the network and its loop did to it.
-/

namespace Switchboard

namespace TcpDriver

/-- What leaving notes is about the connection of the driver. -/
lemma owner_leave (d : TcpDriver) (reason : CloseReason) :
    ∀ n ∈ (d.leave reason).2, n.owner? = some d.id := by
  obtain ⟨chunks, hchunks⟩ := d.snd_leave reason
  rw [hchunks]
  intro n hn
  obtain ⟨chunk, -, rfl⟩ := List.mem_map.mp hn
  rfl

/-- What a step notes is about the connection of the driver, if it is about any. -/
lemma owner_step (d : TcpDriver) (e : Event) :
    ∀ n ∈ (d.step e).2, n.owner? = none ∨ n.owner? = some d.id := by
  have hfinish (d' : TcpDriver) (hid : d'.id = d.id) :
      ∀ n ∈ d'.finish.2, n.owner? = none ∨ n.owner? = some d.id := by
    simp [finish, Note.owner?, Callback.connection?, hid]
  have hleave (d' : TcpDriver) (hid : d'.id = d.id) (reason : CloseReason) :
      ∀ n ∈ (d'.leave reason).2, n.owner? = none ∨ n.owner? = some d.id :=
    fun n hn => .inr (hid ▸ d'.owner_leave reason n hn)
  have hmove := d.move_step e
  generalize d.step e = r at hmove
  cases hmove with
  | announce phase =>
    cases hopening : d.opening <;>
      simp [announcement, hopening, Note.owner?, Callback.connection?]
  | obey rest phase posted =>
    exact hleave { d.prepared with mailbox := { d.mailbox with posted := rest } } rfl _
  | giveUp _ reason phase why => exact hleave d.prepared rfl _
  | flushFailed source phase => exact hleave d rfl _
  | refuse phase => exact hleave d rfl _
  | shut phase => exact hfinish d rfl
  | reject phase => exact hfinish _ rfl
  | discard phase => exact hfinish d rfl
  | abandon phase => exact hfinish _ rfl
  | _ => simp [Note.owner?, Callback.connection?]

/-- A step of one driver tells nothing of the others' connections. -/
lemma own_step_of_ne {d : TcpDriver} {id : ConnectionId} (hid : d.id ≠ id) (e : Event) :
    Note.own id (d.step e).2 = [] := by
  refine Note.own_eq_nil id fun n hn howner => ?_
  rcases d.owner_step e n hn with hnone | hsome
  · simp [hnone] at howner
  · exact hid (Option.some.inj (hsome.symm.trans howner))

/-- Taking out all there is. -/
lemma step_takeAll {d : TcpDriver} (phase : d.phase = .receiving) :
    d.step (.take d.received.size) =
      ({ d with received := d.received.consume d.received.size },
        [.removed d.id d.received.data]) := by
  have hall : d.received.data.take d.received.size = d.received.data := List.take_length
  rw [step, take_of_le phase le_rfl, hall]

/-- A run of one event is its step. -/
lemma run_singleton (d : TcpDriver) (e : Event) : d.run [e] = d.step e := by
  simp [run, Noted.andThen]

end TcpDriver

namespace Proxy

namespace Exchange

variable {x : Exchange}

/-! ### One step -/

/-- What happens to a driver of an exchange, and what is noted of its connection, comes of a run of
that driver in which nothing but the service and the given events have a hand. -/
def Lives (id : ConnectionId) (d d' : TcpDriver) (notes : List Note) (es : List Event) : Prop :=
  ∃ fs, d' = (d.run fs).1 ∧ Note.own id notes = Note.own id (d.run fs).2 ∧
    ∀ f ∈ fs, .drive id f ∈ es ∨ isOfService f = true

namespace Lives

variable {id : ConnectionId} {d d' d'' : TcpDriver} {notes notes' : List Note}
  {es es' : List Event}

/-- Nothing happens. -/
lemma rest (d : TcpDriver) (es : List Event) (hnotes : Note.own id notes = []) :
    Lives id d d notes es :=
  ⟨[], rfl, hnotes, by simp⟩

/-- One thing happens. -/
lemma single (f : TcpDriver.Event) (hf : .drive id f ∈ es ∨ isOfService f = true) :
    Lives id d (d.step f).1 (d.step f).2 es :=
  ⟨[f], by rw [TcpDriver.run_singleton], by rw [TcpDriver.run_singleton], by simpa using hf⟩

/-- One stretch of a life follows another. -/
lemma append (h : Lives id d d' notes es) (k : Lives id d' d'' notes' es') :
    Lives id d d'' (notes ++ notes') (es ++ es') := by
  obtain ⟨fs, rfl, hnotes, hfs⟩ := h
  obtain ⟨fs', rfl, hnotes', hfs'⟩ := k
  refine ⟨fs ++ fs', ?_, ?_, fun f hf => ?_⟩
  · rw [TcpDriver.run_append, Noted.andThen]
  · rw [TcpDriver.run_append, Noted.andThen, Note.own_append, Note.own_append, hnotes, hnotes']
  · rcases List.mem_append.mp hf with hf | hf
    · exact (hfs f hf).imp_left (List.mem_append_left _)
    · exact (hfs' f hf).imp_left (List.mem_append_right _)

end Lives

/-- No event changes the settings of an exchange. -/
lemma settings_step (h : x.Sound) (e : Event) :
    (x.step e).1.chunkSize = x.chunkSize ∧ (x.step e).1.linger = x.linger := by
  have hmove := x.move_step h.loose e
  generalize x.step e = r at hmove
  cases hmove with
  | turn _ _ turn => cases turn <;> exact ⟨rfl, rfl⟩
  | posting _ _ posting => cases posting <;> exact ⟨rfl, rfl⟩
  | _ => exact ⟨rfl, rfl⟩

/-- What an event does to a driver that is there is a step of that driver, or nothing. -/
lemma life_step (h : x.Sound) (e : Event) {id : ConnectionId} {d : TcpDriver}
    (hd : x.drivers.get? id = some d) :
    ∃ d', (x.step e).1.drivers.get? id = some d' ∧ Lives id d d' (x.step e).2 [e] := by
  have hrest (notes : List Note) (hnotes : Note.own id notes = []) :
      ∃ d', x.drivers.get? id = some d' ∧ Lives id d d' notes [e] :=
    ⟨d, hd, .rest d [e] hnotes⟩
  -- a driver makes a step, this one or another one
  have hput {id' : ConnectionId} {d₀ : TcpDriver} (hd₀ : x.drivers.get? id' = some d₀)
      (f : TcpDriver.Event) (hf : e = .drive id' f ∨ isOfService f = true) :
      ∃ d', (x.drivers.put id' (d₀.step f).1).get? id = some d' ∧
        Lives id d d' (d₀.step f).2 [e] := by
    rw [Table.get?_put]
    split
    · rename_i he
      subst he
      obtain rfl := Option.some.inj (hd.symm.trans hd₀)
      exact ⟨_, rfl, .single f (hf.imp_left fun he => by simp [he])⟩
    · rename_i he
      refine hrest _ (TcpDriver.own_step_of_ne ?_ f)
      rw [(h.driver hd₀).1]
      exact Ne.symm he
  have hnew {id' : ConnectionId} {d₀ : TcpDriver} (hd₀ : x.drivers.get? id' = none)
      (hname : d₀.id = id') :
      ∃ d', (x.drivers.put id' (d₀.step .start).1).get? id = some d' ∧
        Lives id d d' (d₀.step .start).2 [e] := by
    have hne : id ≠ id' := fun he => by simp [← he, hd] at hd₀
    rw [Table.get?_put, if_neg hne]
    exact hrest _ (TcpDriver.own_step_of_ne (hname ▸ Ne.symm hne) _)
  have hmove := x.move_step h.loose e
  generalize x.step e = r at hmove
  cases hmove with
  | accept id' port host peer new => exact hnew new rfl
  | up number id' host peer asked new => exact hnew new rfl
  | miss _ number loose notes asked brief closes silent =>
    exact hrest notes (Note.own_eq_nil id fun n hn => by simp [silent n hn])
  | turn _ _ turn =>
    cases turn with
    | relay id' d₀ driver free phase =>
      have hstep := hput driver (.take d₀.received.size) (.inr rfl)
      rwa [TcpDriver.step_takeAll phase] at hstep
    | _ => exact hrest _ rfl
  | answer id' asked d₀ answer driver errand => exact hput driver _ (.inr rfl)
  | posting _ _ posting =>
    cases posting with
    | post id' asked other chunk rest d₀ errand driver granted => exact hput driver _ (.inr rfl)
    | lose => exact hrest _ rfl
  | hangUp id' asked other answer d₀ errand driver => exact hput driver _ (.inr rfl)
  | looseHangUp i other answer d₀ errand driver => exact hput driver _ (.inr rfl)
  | drive id' d₀ f driver free => exact hput driver f (.inl rfl)
  | _ => exact hrest _ rfl

/-- An event brings a driver about by starting the driver of a new connection, that of a target only
if it was asked for, and tells nothing of a connection that has none. -/
lemma birth_step (h : x.Sound) (e : Event) {id : ConnectionId} (hnone : x.drivers.get? id = none) :
    ((x.step e).1.drivers.get? id = none ∧ Note.own id (x.step e).2 = []) ∨
      ∃ identity opening host peer,
        (opening = .connected → identity.token ∈ x.requested) ∧
          (x.step e).1.drivers.get? id =
            some ((x.newcomer id identity opening host peer).step .start).1 ∧
          (x.step e).2 = ((x.newcomer id identity opening host peer).step .start).2 := by
  -- a driver that is there makes a step, so it is another one
  have hput {id' : ConnectionId} {d₀ : TcpDriver} (hd₀ : x.drivers.get? id' = some d₀)
      (f : TcpDriver.Event) :
      (x.drivers.put id' (d₀.step f).1).get? id = none ∧ Note.own id (d₀.step f).2 = [] := by
    have hne : id ≠ id' := fun he => by simp [← he, hnone] at hd₀
    rw [Table.get?_put, if_neg hne]
    exact ⟨hnone, TcpDriver.own_step_of_ne ((h.driver hd₀).1 ▸ Ne.symm hne) f⟩
  have hnew (id' : ConnectionId) (identity : Identity) (opening : Opening) (host peer : Endpoint)
      (hasked : opening = .connected → identity.token ∈ x.requested) :
      let r := (x.newcomer id' identity opening host peer).step .start
      ((x.drivers.put id' r.1).get? id = none ∧ Note.own id r.2 = []) ∨
        ∃ identity opening host peer,
          (opening = .connected → identity.token ∈ x.requested) ∧
            (x.drivers.put id' r.1).get? id =
              some ((x.newcomer id identity opening host peer).step .start).1 ∧
            r.2 = ((x.newcomer id identity opening host peer).step .start).2 := by
    intro r
    by_cases he : id = id'
    · subst he
      exact .inr ⟨identity, opening, host, peer, hasked, by simp [Table.get?_put, r], rfl⟩
    · rw [Table.get?_put, if_neg he]
      exact .inl ⟨hnone, TcpDriver.own_step_of_ne (Ne.symm he) _⟩
  have hmove := x.move_step h.loose e
  generalize x.step e = r at hmove
  cases hmove with
  | accept id' port host peer new =>
    exact hnew id' .anonymous (.accepted port) host peer (fun he => by cases he)
  | up number id' host peer asked new =>
    exact hnew id' ⟨number⟩ .connected host peer (fun _ => asked)
  | miss _ number loose notes asked brief closes silent =>
    exact .inl ⟨hnone, Note.own_eq_nil id fun n hn => by simp [silent n hn]⟩
  | turn _ _ turn =>
    cases turn with
    | relay id' d₀ driver free phase =>
      have hstep := hput driver (.take d₀.received.size)
      rw [TcpDriver.step_takeAll phase] at hstep
      exact .inl hstep
    | _ => exact .inl ⟨hnone, rfl⟩
  | answer id' asked d₀ answer driver errand => exact .inl (hput driver _)
  | posting _ _ posting =>
    cases posting with
    | post id' asked other chunk rest d₀ errand driver granted => exact .inl (hput driver _)
    | lose => exact .inl ⟨hnone, rfl⟩
  | hangUp id' asked other answer d₀ errand driver => exact .inl (hput driver _)
  | looseHangUp i other answer d₀ errand driver => exact .inl (hput driver _)
  | drive id' d₀ f driver free => exact .inl (hput driver f)
  | _ => exact .inl ⟨hnone, rfl⟩

/-! ### Whole runs -/

/-- A driver that is there goes on with its life along every run. -/
lemma life_run (h : x.Sound) {id : ConnectionId} {d : TcpDriver}
    (hd : x.drivers.get? id = some d) (es : List Event) :
    ∃ d', (x.run es).1.drivers.get? id = some d' ∧ Lives id d d' (x.run es).2 es := by
  induction es using List.reverseRecOn with
  | nil => exact ⟨d, hd, .rest d [] rfl⟩
  | append_singleton es e ih =>
    obtain ⟨d', hd', hlife⟩ := ih
    obtain ⟨d'', hd'', hstep⟩ := life_step (sound_run h es) e hd'
    rw [run_concat]
    exact ⟨d'', hd'', hlife.append hstep⟩

/-- No run changes the settings of an exchange. -/
lemma settings_run (h : x.Sound) (es : List Event) :
    (x.run es).1.chunkSize = x.chunkSize ∧ (x.run es).1.linger = x.linger := by
  induction es using List.reverseRecOn with
  | nil => exact ⟨rfl, rfl⟩
  | append_singleton es e ih =>
    obtain ⟨hsize, hlinger⟩ := settings_step (sound_run h es) e
    rw [run_concat, hsize, hlinger]
    exact ih

/-- What a history tells of a connection is a run of its driver from the start on. -/
def Remembers (x : Exchange) (history : List Note) (id : ConnectionId) (d : TcpDriver) : Prop :=
  ∃ (c : TcpConnection) (opening : Opening) (fs : List TcpDriver.Event), c.id = id ∧
    d = ((TcpDriver.ofConnection c opening x.chunkSize x.linger).run (.start :: fs)).1 ∧
    Note.own id history =
      Note.own id ((TcpDriver.ofConnection c opening x.chunkSize x.linger).run (.start :: fs)).2

/-- A life that a history remembers goes on. -/
lemma Remembers.append {id : ConnectionId} {d d' : TcpDriver} {history notes : List Note}
    {es : List Event} {x' : Exchange} (h : x.Remembers history id d)
    (hsize : x'.chunkSize = x.chunkSize) (hlinger : x'.linger = x.linger)
    (hlife : Lives id d d' notes es) : x'.Remembers (history ++ notes) id d' := by
  obtain ⟨c, opening, fs, hid, rfl, hown⟩ := h
  obtain ⟨gs, rfl, hnotes, -⟩ := hlife
  refine ⟨c, opening, fs ++ gs, hid, ?_, ?_⟩
  · rw [hsize, hlinger, ← List.cons_append, TcpDriver.run_append, Noted.andThen]
  · rw [hsize, hlinger, ← List.cons_append, TcpDriver.run_append, Noted.andThen, Note.own_append,
      Note.own_append, hown, hnotes]

/-- A history remembers the lives of all connections from their start on, and knows of no others. -/
lemma birth_run (f : Forwarder) (chunkSize : Nat) (linger : Option Nat) (es : List Event)
    (id : ConnectionId) :
    let r := (ofForwarder f chunkSize linger).run es
    (r.1.drivers.get? id = none ∧ Note.own id r.2 = []) ∨
      ∃ d, r.1.drivers.get? id = some d ∧ r.1.Remembers r.2 id d := by
  intro r
  have hstart := sound_ofForwarder f chunkSize linger
  induction es using List.reverseRecOn with
  | nil => exact .inl ⟨rfl, rfl⟩
  | append_singleton es e ih =>
    have hsound := sound_run hstart es
    obtain ⟨hsize, hlinger⟩ := settings_step hsound e
    simp only [r, run_concat, Note.own_append]
    rcases ih with ⟨hnone, hown⟩ | ⟨d, hd, hremembers⟩
    · rcases birth_step hsound e hnone with
        ⟨hnone', hown'⟩ | ⟨identity, opening, host, peer, -, hd', hr⟩
      · exact .inl ⟨hnone', by rw [hown, hown', List.append_nil]⟩
      · refine .inr ⟨_, hd', ?_⟩
        refine ⟨{ id, direction := opening.direction, identity, host, peer }, opening, [], rfl, ?_,
          ?_⟩
        · rw [TcpDriver.run_singleton, hsize, hlinger]
          rfl
        · rw [TcpDriver.run_singleton, hsize, hlinger, Note.own_append, hown, hr]
          rfl
    · obtain ⟨d', hd', hlife⟩ := life_step hsound e hd
      exact .inr ⟨d', hd', hremembers.append hsize hlinger hlife⟩

end Exchange

end Proxy

end Switchboard
