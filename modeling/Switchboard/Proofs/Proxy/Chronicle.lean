import Switchboard.Proofs.Proxy.Soundness

/-!
# What the connections of an exchange read and post

The history of an exchange tells which bytes its service took out of each connection and which
chunks it posted to each.  `Exchange.Chronicle` says what can be in a history: nothing is read or
posted before a connection's announcement has been dealt with, and no chunk is empty.

What calls are about to post is read off their errands (`Exchange.pending`).  A step that is neither
a turn at the table nor a posting is `Exchange.Quiet`: it reads and posts nothing and leaves the
table and what is pending as they are (`Exchange.quiet_step`).
-/

namespace Switchboard

namespace Proxy

/-- The chunks that an errand is about to post to a connection. -/
def Errand.chunksFor (other : ConnectionId) : Errand → List Bytes
  | .send other' chunks => if other' = other then chunks else []
  | _ => []

namespace Exchange

variable {x : Exchange}

/-! ### What a step does to the drivers -/

/-- A driver that is there stays, goes on without an announcement of its own, and opens nothing. -/
lemma driver_step (h : x.Sound) (e : Event) {id : ConnectionId} {d : TcpDriver}
    (hd : x.drivers.get? id = some d) :
    ∃ d', (x.step e).1.drivers.get? id = some d' ∧ TcpDriver.SameSettings d d' ∧
      (d'.phase = .opening → d.phase = .opening) ∧
      (d'.mailbox.isOpen = true → d.mailbox.isOpen = true) := by
  have hco := (h.driver hd).2
  have hsame : ∃ d', x.drivers.get? id = some d' ∧ TcpDriver.SameSettings d d' ∧
      (d'.phase = .opening → d.phase = .opening) ∧
      (d'.mailbox.isOpen = true → d.mailbox.isOpen = true) :=
    ⟨d, hd, .refl d, fun h => h, fun h => h⟩
  -- one driver makes a step, this one or another one
  have hput {id' : ConnectionId} {d₀ : TcpDriver} (hd₀ : x.drivers.get? id' = some d₀)
      (f : TcpDriver.Event) :
      ∃ d', (x.drivers.put id' (d₀.step f).1).get? id = some d' ∧ TcpDriver.SameSettings d d' ∧
        (d'.phase = .opening → d.phase = .opening) ∧
        (d'.mailbox.isOpen = true → d.mailbox.isOpen = true) := by
    rw [Table.get?_put]
    split
    · rename_i he
      obtain rfl := Option.some.inj (hd.symm.trans (he ▸ hd₀))
      exact ⟨_, rfl, d.sameSettings_step f, TcpDriver.opening_step hco.started,
        TcpDriver.isOpen_step⟩
    · exact hsame
  have hnew {id' : ConnectionId} (d₀ : TcpDriver) (hd₀ : x.drivers.get? id' = none) :
      ∃ d', (x.drivers.put id' d₀).get? id = some d' ∧ TcpDriver.SameSettings d d' ∧
        (d'.phase = .opening → d.phase = .opening) ∧
        (d'.mailbox.isOpen = true → d.mailbox.isOpen = true) := by
    have hne : id ≠ id' := fun he => by simp [← he, hd] at hd₀
    rw [Table.get?_put, if_neg hne]
    exact hsame
  have hmove := x.move_step h.loose e
  generalize x.step e = r at hmove
  cases hmove with
  | accept id port host peer new => exact hnew _ new
  | up number id host peer asked new => exact hnew _ new
  | turn _ _ turn =>
    cases turn with
    | relay id d₀ driver free phase =>
      have htaken : (d₀.step (.take d₀.received.size)).1 =
          { d₀ with received := d₀.received.consume d₀.received.size } := by
        rw [TcpDriver.step, TcpDriver.take_of_le phase le_rfl]
      have hstep := hput driver (.take d₀.received.size)
      rwa [htaken] at hstep
    | _ => exact hsame
  | answer id asked d₀ answer driver errand => exact hput driver _
  | posting _ _ posting =>
    cases posting with
    | post id asked other chunk rest d₀ errand driver granted => exact hput driver _
    | lose => exact hsame
  | hangUp id asked other answer d₀ errand driver => exact hput driver _
  | looseHangUp i other answer d₀ errand driver => exact hput driver _
  | drive id d₀ e driver free => exact hput driver e
  | _ => exact hsame

/-- A connection that was there was made as what it is. -/
lemma isTarget_of_known (h : x.Sound) (e : Event) {t : ConnectionId} {n : Nat} {d : TcpDriver}
    (hd : x.drivers.get? t = some d) (ht : (x.step e).1.IsTarget t n) : x.IsTarget t n := by
  obtain ⟨d', hd', hopening, hidentity⟩ := ht
  obtain ⟨d₀, hd₀, hsame, -⟩ := driver_step h e hd
  obtain rfl := Option.some.inj (hd'.symm.trans hd₀)
  exact ⟨d, hd, hsame.opening ▸ hopening, hsame.identity ▸ hidentity⟩

/-- A connection whose announcement was at the table stays one. -/
lemma sits_step (h : x.Sound) (e : Event) {id : ConnectionId} (hid : x.Sits id) :
    (x.step e).1.Sits id := by
  obtain ⟨d, hd, hopening⟩ := hid
  obtain ⟨d', hd', -, hback, -⟩ := driver_step h e hd
  refine ⟨d', hd', fun hopen => ?_⟩
  have hbusy := hopening (hback hopen)
  have hput (id' : ConnectionId) (errand : Errand) :
      (x.errands.put id' errand).get? id ≠ none := by
    rw [Table.get?_put]
    split
    · simp
    · exact hbusy
  have hmove := x.move_step h.loose e
  generalize x.step e = r at hmove hd'
  cases hmove with
  | turn _ _ turn => cases turn <;> exact hput _ _
  | conclude => exact hput _ _
  | ask => exact hput _ _
  | resolve => exact hput _ _
  | posting _ _ posting => cases posting <;> exact hput _ _
  | hangUp => exact hput _ _
  | forget id' asked answer driver errand =>
    obtain ⟨d₀, hd₀, -⟩ := h.busy errand
    simp [driver] at hd₀
  | answer id' asked d₀ answer driver errand =>
    dsimp only at hd' ⊢
    rw [Table.get?_erase]
    split
    · rename_i he
      -- an answered call has come back from the announcement
      obtain ⟨d₁, hd₁, hcalling⟩ := h.busy errand
      obtain rfl := Option.some.inj (driver.symm.trans hd₁)
      rw [Table.get?_put, if_pos he] at hd'
      obtain rfl := Option.some.inj hd'
      exact absurd hopen (TcpDriver.returned_step hcalling answer).1
    · exact hbusy
  | _ => exact hbusy

/-! ### What was posted and removed so far -/

/-- What a history tells of the connections of an exchange. -/
structure Chronicle (x : Exchange) (history : List Note) : Prop where
  /-- Nothing is posted for a connection before its announcement was at the table. -/
  silent : ∀ {id}, ¬ x.Sits id → Note.data .posted id history = []
  /-- Nothing is removed from a connection before its service has answered the announcement. -/
  unread : ∀ {id}, (∀ d, x.drivers.get? id = some d → d.phase = .opening) →
    Note.data .removed id history = []
  /-- No chunk is empty. -/
  full : ∀ {id}, [] ∉ Note.data .removed id history

/-- A turn at the table posts nothing. -/
lemma Turn.posted {e : Event} {r : Noted Exchange} (turn : Turn x e r) (id : ConnectionId) :
    Note.data .posted id r.2 = [] := by
  cases turn <;> rfl

/-- What a step posts goes to connections whose announcement was at the table. -/
lemma posted_of_not_sits (h : x.Sound) (e : Event) {id : ConnectionId} (hid : ¬ x.Sits id) :
    Note.data .posted id (x.step e).2 = [] := by
  have hmove := x.move_step h.loose e
  generalize x.step e = r at hmove
  cases hmove with
  | accept id' port host peer new => exact (TcpDriver.data_step_eq_nil (by simp) (by simp) id).2
  | up number id' host peer asked new =>
    exact (TcpDriver.data_step_eq_nil (by simp) (by simp) id).2
  | miss _ number loose notes asked brief closes silent =>
    exact Note.data_of_silent _ _ silent
  | answer id' asked d answer driver errand =>
    exact (TcpDriver.data_step_eq_nil (by simp) (by simp) id).2
  | posting _ _ posting =>
    cases posting with
    | post id' asked other chunk rest d errand driver granted =>
      refine (TcpDriver.data_request d _ id).2 fun he => hid ?_
      obtain rfl : id = other := he.trans (h.driver driver).1
      by_cases hself : id = id'
      · exact ⟨d, driver, fun _ => by simp [hself, errand]⟩
      · obtain ⟨n, -, hsits, -⟩ := h.relaying errand hself
        exact hsits
    | lose => rfl
  | turn _ _ turn => exact turn.posted id
  | drive id' d e driver free => exact (TcpDriver.data_of_free free id).2
  | _ => rfl

/-- Only relaying removes something, and what it removes is not empty. -/
lemma removed_step (h : x.Sound) (e : Event) (id : ConnectionId) :
    Note.data .removed id (x.step e).2 = [] ∨
      ∃ d, e = .consult id ∧ x.drivers.get? id = some d ∧ d.phase = .receiving ∧
        x.errands.get? id = none ∧ d.received.data ≠ [] ∧
        Note.data .removed id (x.step e).2 = [d.received.data] := by
  have hmove := x.move_step h.loose e
  generalize x.step e = r at hmove
  cases hmove with
  | accept id' port host peer new =>
    exact .inl (TcpDriver.data_step_eq_nil (by simp) (by simp) id).1
  | up number id' host peer asked new =>
    exact .inl (TcpDriver.data_step_eq_nil (by simp) (by simp) id).1
  | miss _ number loose notes asked brief closes silent =>
    exact .inl (Note.data_of_silent _ _ silent)
  | answer id' asked d answer driver errand =>
    exact .inl (TcpDriver.data_step_eq_nil (by simp) (by simp) id).1
  | posting _ _ posting =>
    cases posting with
    | post id' asked other chunk rest d errand driver granted =>
      exact .inl (TcpDriver.data_request d _ id).1
    | lose => exact .inl rfl
  | drive id' d e driver free => exact .inl (TcpDriver.data_of_free free id).1
  | turn _ _ turn =>
    cases turn with
    | relay id' d driver free phase =>
      have hname := (h.driver driver).1
      by_cases hid : id' = id
      · subst hid
        refine .inr ⟨d, rfl, driver, phase, free, h.filled driver phase free, ?_⟩
        simp [Note.data_cons, Note.datum?, hname]
      · exact .inl (by simp [Note.data_cons, Note.datum?, hname, hid])
    | _ => exact .inl rfl
  | _ => exact .inl rfl

/-- A step goes on with the chronicle. -/
lemma Chronicle.step (h : x.Sound) {history : List Note} (k : x.Chronicle history) (e : Event) :
    (x.step e).1.Chronicle (history ++ (x.step e).2) := by
  constructor
  case silent =>
    intro id hid
    have hbefore : ¬ x.Sits id := fun hsits => hid (sits_step h e hsits)
    rw [Note.data_append, k.silent hbefore, posted_of_not_sits h e hbefore, List.append_nil]
  case unread =>
    intro id hid
    have hbefore (d : TcpDriver) (hd : x.drivers.get? id = some d) : d.phase = .opening := by
      obtain ⟨d', hd', -, hback, -⟩ := driver_step h e hd
      exact hback (hid d' hd')
    rw [Note.data_append, k.unread hbefore, List.nil_append]
    rcases removed_step h e id with hnone | ⟨d, -, hd, hphase, -⟩
    · exact hnone
    · exact absurd (hbefore d hd) (by simp [hphase])
  case full =>
    intro id hmem
    rw [Note.data_append] at hmem
    rcases List.mem_append.mp hmem with hmem | hmem
    · exact k.full hmem
    · rcases removed_step h e id with hnone | ⟨d, -, -, -, -, hsome, hdata⟩
      · simp [hnone] at hmem
      · rw [hdata] at hmem
        exact hsome (List.mem_singleton.mp hmem).symm

/-! ### Who is about to post what -/

/-- The chunks that a connection's call is about to post to another one. -/
def pending (x : Exchange) (id other : ConnectionId) : List Bytes :=
  ((x.errands.get? id).map (Errand.chunksFor other)).getD []

lemma pending_of_none {id : ConnectionId} (h : x.errands.get? id = none) (other : ConnectionId) :
    x.pending id other = [] := by
  simp [pending, h]

lemma pending_of_some {id : ConnectionId} {errand : Errand} (h : x.errands.get? id = some errand)
    (other : ConnectionId) : x.pending id other = errand.chunksFor other := by
  simp [pending, h]

lemma pending_congr {x' : Exchange} {id : ConnectionId}
    (h : x'.errands.get? id = x.errands.get? id) (other : ConnectionId) :
    x'.pending id other = x.pending id other := by
  simp [pending, h]

/-- If one errand is replaced, the others are about to post what they were. -/
lemma pending_put {x' : Exchange} {id : ConnectionId} {errand : Errand}
    (h : x'.errands = x.errands.put id errand) (i other : ConnectionId) :
    x'.pending i other = if i = id then errand.chunksFor other else x.pending i other := by
  unfold pending
  rw [h, Table.get?_put]
  split <;> rfl

/-- A step that leaves the table and the chunks to be posted alone, and neither reads nor posts any.
-/
structure Quiet (x : Exchange) (e : Event) (r : Noted Exchange) : Prop where
  /-- The table stays. -/
  forwarder : r.1.forwarder = x.forwarder
  /-- The chunks to be posted stay. -/
  pending : ∀ id other, r.1.pending id other = x.pending id other
  /-- Nothing is read. -/
  removed : ∀ id, Note.data .removed id r.2 = []
  /-- Nothing is posted. -/
  posted : ∀ id, Note.data .posted id r.2 = []
  /-- An errand that goes on has nothing to post. -/
  idle : ∀ {id asked}, e = .errand id asked → ∀ other, x.pending id other = []

/-- Apart from turns at the table and posting, all is quiet. -/
lemma quiet_step (h : x.Sound) (e : Event) :
    Quiet x e (x.step e) ∨ Turn x e (x.step e) ∨ Posting x e (x.step e) := by
  by_cases hposting : ∃ id asked other chunk rest,
      e = .errand id asked ∧ x.errands.get? id = some (.send other (chunk :: rest))
  · obtain ⟨id, asked, other, chunk, rest, rfl, found⟩ := hposting
    exact .inr (.inr (x.posting_errand asked found))
  have hidle {id : ConnectionId} {asked : Bool} (he : e = .errand id asked)
      (other : ConnectionId) : x.pending id other = [] := by
    cases found : x.errands.get? id with
    | none => exact pending_of_none found other
    | some errand =>
      rw [pending_of_some found]
      cases errand with
      | send other' chunks =>
        cases chunks with
        | nil => simp [Errand.chunksFor]
        | cons chunk rest => exact absurd ⟨id, asked, other', chunk, rest, he, found⟩ hposting
      | _ => rfl
  have hmove := x.move_step h.loose e
  generalize x.step e = r at hmove
  -- an errand with nothing to post comes in the place of another one
  have hdone {x' : Exchange} {id : ConnectionId} {errand : Errand}
      (hforwarder : x'.forwarder = x.forwarder) (hput : x'.errands = x.errands.put id errand)
      (hbefore : ∀ other, x.pending id other = []) (hafter : ∀ other, errand.chunksFor other = []) :
      Quiet x e (x', []) := by
    refine ⟨hforwarder, fun i other => ?_, fun _ => rfl, fun _ => rfl, hidle⟩
    rw [pending_put hput]
    split
    · rename_i he
      rw [hafter, he, hbefore]
    · rfl
  cases hmove with
  | stay => exact .inl ⟨rfl, fun _ _ => rfl, fun _ => rfl, fun _ => rfl, hidle⟩
  | accept id port host peer new =>
    have hdata := TcpDriver.data_step_eq_nil
      (d := x.newcomer id .anonymous (.accepted port) host peer) (e := .start) (by simp) (by simp)
    exact .inl ⟨rfl, fun _ _ => rfl, fun i => (hdata i).1, fun i => (hdata i).2, hidle⟩
  | up number id host peer asked new =>
    have hdata := TcpDriver.data_step_eq_nil
      (d := x.newcomer id ⟨number⟩ .connected host peer) (e := .start) (by simp) (by simp)
    exact .inl ⟨rfl, fun _ _ => rfl, fun i => (hdata i).1, fun i => (hdata i).2, hidle⟩
  | miss _ number loose notes asked brief closes silent =>
    have hdata (hand : Hand) (i : ConnectionId) : Note.data hand i notes = [] :=
      Note.data_of_silent _ _ silent
    exact .inl ⟨rfl, fun _ _ => rfl, hdata .removed, hdata .posted, hidle⟩
  | expire => exact .inl ⟨rfl, fun _ _ => rfl, fun _ => rfl, fun _ => rfl, hidle⟩
  | turn _ _ turn => exact .inr (.inl turn)
  | posting _ _ posting => exact .inr (.inr posting)
  | conclude id d answer driver free phase =>
    exact .inl (hdone rfl rfl (pending_of_none free) fun _ => rfl)
  | answer id asked d answer driver errand =>
    have hdata := TcpDriver.data_step_eq_nil (d := d) (e := .returned answer) (by simp) (by simp)
    refine .inl ⟨rfl, fun i other => ?_, fun i => (hdata i).1, fun i => (hdata i).2, hidle⟩
    by_cases he : i = id
    · subst he
      rw [pending_of_some errand, pending_of_none (by simp [Table.get?_erase])]
      rfl
    · exact pending_congr (by simp [Table.get?_erase, he]) other
  | forget id asked answer driver errand =>
    obtain ⟨d, hd, -⟩ := h.busy errand
    simp [driver] at hd
  | ask id number request errand =>
    exact .inl (hdone rfl rfl (fun other => pending_of_some errand other) fun _ => rfl)
  | resolve id asked errand answer watched found idle =>
    refine .inl (hdone rfl rfl (fun other => ?_) fun _ => rfl)
    rw [pending_of_some found]
    cases errand with
    | send other' chunks =>
      cases chunks with
      | nil => simp [Errand.chunksFor]
      | cons chunk rest => cases idle
    | _ => rfl
  | hangUp id asked other answer d errand driver =>
    exact .inl (hdone rfl rfl (fun other => pending_of_some errand other) fun _ => rfl)
  | looseEnd => exact .inl ⟨rfl, fun _ _ => rfl, fun _ => rfl, fun _ => rfl, hidle⟩
  | looseHangUp => exact .inl ⟨rfl, fun _ _ => rfl, fun _ => rfl, fun _ => rfl, hidle⟩
  | drive id d e driver free =>
    have hdata := TcpDriver.data_of_free (d := d) free
    exact .inl ⟨rfl, fun _ _ => rfl, fun i => (hdata i).1, fun i => (hdata i).2, hidle⟩

end Exchange

end Proxy

end Switchboard
