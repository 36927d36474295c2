import Mathlib.Data.List.Basic
import Switchboard.Proofs.Proxy.Pairs
import Switchboard.Proofs.Tcp.Coherence
import Switchboard.Proxy.Exchange

/-!
# The moves of an exchange

`Exchange.step` answers any event, and most events cannot happen most of the time.  `Exchange.Move`
lists what can happen, one rule for each thing that is done to the table, to an errand or to a
driver, with what has to hold for it and what comes of it; what calls do at the table
(`Exchange.Turn`) and what becomes of a chunk that is to be posted (`Exchange.Posting`) are lists of
their own. `Exchange.move_step` says that the list is complete as long as the errands that belong to
no connection are brief, which they always are.
-/

namespace Switchboard

/-- Giving a key the value that it has changes nothing. -/
lemma Table.put_of_get? {κ α : Type} [DecidableEq κ] {t : Table κ α} {k : κ} {a : α}
    (h : t.get? k = some a) : t.put k a = t := by
  induction t with
  | nil => simp at h
  | cons p t ih =>
    rw [Table.get?_cons] at h
    unfold Table.put
    split
    · rename_i hk
      rw [if_pos hk] at h
      obtain rfl := Option.some.inj h
      rw [← hk]
    · rename_i hk
      rw [if_neg hk] at h
      rw [ih h]

namespace Proxy

/-- An errand of which at most one connection is to be closed is left. -/
def Errand.isBrief : Errand → Bool
  | .close _ _ | .done _ => true
  | _ => false

/-- An errand that has a chunk to post. -/
def Errand.isPosting : Errand → Bool
  | .send _ (_ :: _) => true
  | _ => false

namespace Forwarder

variable (f : Forwarder) (id : ConnectionId)

/-- A received chunk only changes the table, as relaying does. -/
lemma snd_received (chunk : Bytes) :
    (f.received id chunk).2 = { f with table := (f.table.relay id chunk f.maxHeld).2 } := by
  unfold received
  split <;> simp_all

/-- A received chunk is answered, or sent to the other side. -/
lemma fst_received_cases (chunk : Bytes) :
    (∃ answer, (f.received id chunk).1 = .done answer) ∨
      ∃ n p other, f.table.byConnection.get? id = some n ∧ f.table.pairs.get? n = some p ∧
        p.across id = some other ∧ (f.received id chunk).1 = .send other [chunk] := by
  unfold received
  rcases f.table.relay_cases id chunk f.maxHeld with
    hr | ⟨n, p, other, hid, hp, hother, hr⟩ | ⟨_, p, -, -, -, -, hr⟩
  · rw [hr]
    exact .inl ⟨false, rfl⟩
  · rw [hr]
    exact .inr ⟨n, p, other, hid, hp, hother, rfl⟩
  · rw [hr]
    cases (p.hold chunk f.maxHeld).1
    · exact .inl ⟨false, rfl⟩
    · exact .inl ⟨true, rfl⟩

/-- A connection that is over only changes the table, as leaving does. -/
lemma snd_closed : (f.closed id).2 = { f with table := (f.table.leave id).2 } := by
  unfold closed
  split <;> simp_all

/-- If one is left of a pair it is to be closed. -/
lemma fst_closed_cases :
    (∃ other, (f.closed id).1 = .close other true) ∨ (f.closed id).1 = .done true := by
  unfold closed
  split
  · exact .inl ⟨_, rfl⟩
  · exact .inr rfl

end Forwarder

namespace Exchange

/-- The driver of a new connection of an exchange. -/
def newcomer (x : Exchange) (id : ConnectionId) (identity : Identity) (opening : Opening)
    (host peer : Endpoint) : TcpDriver :=
  .ofConnection { id, direction := opening.direction, identity, host, peer } opening x.chunkSize
    x.linger

/-! ### The rules -/

/-- What a call can do at the table. -/
inductive Turn (x : Exchange) : Event → Noted Exchange → Prop where
  /-- An accepted client is entered. -/
  | enter (id : ConnectionId) (d : TcpDriver) (port : Port)
      (driver : x.drivers.get? id = some d) (free : x.errands.get? id = none)
      (phase : d.phase = .opening) (opening : d.opening = .accepted port) :
      Turn x (.consult id)
        ({ x with
            forwarder := { x.forwarder with
              nextPair := x.forwarder.nextPair + 1
              table := x.forwarder.table.enter x.forwarder.nextPair id }
            errands := x.errands.put id
              (.connect x.forwarder.nextPair (x.forwarder.targetRequest x.forwarder.nextPair)) },
          [])
  /-- A target joins its pair. -/
  | join (id : ConnectionId) (d : TcpDriver) (p : Pair)
      (driver : x.drivers.get? id = some d) (free : x.errands.get? id = none)
      (phase : d.phase = .opening) (opening : d.opening = .connected)
      (pair : x.forwarder.table.pairs.get? d.connection.identity.token = some p) :
      Turn x (.consult id)
        ({ x with
            forwarder := { x.forwarder with
              table := {
                pairs := x.forwarder.table.pairs.put d.connection.identity.token
                  (PairTable.joined p id)
                byConnection := x.forwarder.table.byConnection.put id
                  d.connection.identity.token } }
            errands := x.errands.put id (.send id p.held) }, [])
  /-- A received chunk is taken out of its buffer and looked up. -/
  | relay (id : ConnectionId) (d : TcpDriver)
      (driver : x.drivers.get? id = some d) (free : x.errands.get? id = none)
      (phase : d.phase = .receiving) :
      Turn x (.consult id)
        ({ x with
            drivers := x.drivers.put id { d with received := d.received.consume d.received.size }
            forwarder := (x.forwarder.received id d.received.data).2
            errands := x.errands.put id (x.forwarder.received id d.received.data).1 },
          [.removed d.id d.received.data])
  /-- A connection that is over leaves its pair. -/
  | leave (id : ConnectionId) (d : TcpDriver)
      (driver : x.drivers.get? id = some d) (free : x.errands.get? id = none)
      (phase : d.phase = .closing) :
      Turn x (.consult id)
        ({ x with
            forwarder := (x.forwarder.closed id).2
            errands := x.errands.put id (x.forwarder.closed id).1 }, [])

/-- What can become of a chunk that is to be posted. -/
inductive Posting (x : Exchange) : Event → Noted Exchange → Prop where
  /-- A chunk is posted. -/
  | post (id : ConnectionId) (asked : Bool) (other : ConnectionId) (chunk : Bytes)
      (rest : List Bytes) (d : TcpDriver)
      (errand : x.errands.get? id = some (.send other (chunk :: rest)))
      (driver : x.drivers.get? other = some d)
      (granted : (d.request (.ofChunk chunk)).1 = true) :
      Posting x (.errand id asked)
        ({ x with
            drivers := x.drivers.put other (d.step (.request (.ofChunk chunk))).1
            errands := x.errands.put id (.send other rest) },
          (d.step (.request (.ofChunk chunk))).2)
  /-- A chunk cannot be posted. -/
  | lose (id : ConnectionId) (asked : Bool) (other : ConnectionId) (chunk : Bytes)
      (rest : List Bytes)
      (errand : x.errands.get? id = some (.send other (chunk :: rest)))
      (refused : ∀ d, x.drivers.get? other = some d → (d.request (.ofChunk chunk)).1 = false) :
      Posting x (.errand id asked) ({ x with errands := x.errands.put id (.done false) }, [])

/-- Posting leaves the table alone. -/
lemma Posting.forwarder {x : Exchange} {e : Event} {r : Noted Exchange} (posting : Posting x e r) :
    r.1.forwarder = x.forwarder := by
  cases posting <;> rfl

/-- What an exchange can do on an event. -/
inductive Move (x : Exchange) : Event → Noted Exchange → Prop where
  /-- Nothing happens. -/
  | stay (e : Event) : Move x e (x, [])
  /-- A client is accepted. -/
  | accept (id : ConnectionId) (port : Port) (host peer : Endpoint)
      (new : x.drivers.get? id = none) :
      Move x (.accept id port host peer)
        (x.put id ((x.newcomer id .anonymous (.accepted port) host peer).step .start).1,
          ((x.newcomer id .anonymous (.accepted port) host peer).step .start).2)
  /-- The target of a pair is there. -/
  | up (number : Nat) (id : ConnectionId) (host peer : Endpoint) (asked : number ∈ x.requested)
      (new : x.drivers.get? id = none) :
      Move x (.targetUp number id host peer)
        ((x.answered number).put id ((x.newcomer id ⟨number⟩ .connected host peer).step .start).1,
          ((x.newcomer id ⟨number⟩ .connected host peer).step .start).2)
  /-- The wait for a target ends without one. -/
  | miss (e : Event) (number : Nat) (loose : List Errand) (notes : List Note)
      (asked : number ∈ x.requested) (brief : ∀ errand ∈ loose, errand.isBrief = true)
      (closes : ∀ other answer, .close other answer ∈ loose →
        x.forwarder.table.source? number = some other)
      (silent : ∀ n ∈ notes, n.owner? = none) :
      Move x e ({ x.answered number with loose := x.loose ++ loose }, notes)
  /-- The deadline of a pair is over. -/
  | expire (number : Nat) (awaited : number ∈ x.watched) :
      Move x (.deadline number)
        ({ x with
            watched := x.watched.erase number
            loose := x.loose ++ [x.forwarder.deadlineOver number] }, [])
  /-- A call has its turn at the table. -/
  | turn (e : Event) (r : Noted Exchange) (turn : Turn x e r) : Move x e r
  /-- A call needs nothing of the table, or finds nothing in it. -/
  | conclude (id : ConnectionId) (d : TcpDriver) (answer : Bool)
      (driver : x.drivers.get? id = some d) (free : x.errands.get? id = none)
      (phase : d.phase = .opening ∨ d.phase = .drained) :
      Move x (.consult id) ({ x with errands := x.errands.put id (.done answer) }, [])
  /-- A call is answered. -/
  | answer (id : ConnectionId) (asked : Bool) (d : TcpDriver) (answer : Bool)
      (driver : x.drivers.get? id = some d) (errand : x.errands.get? id = some (.done answer)) :
      Move x (.errand id asked)
        ({ x with
            drivers := x.drivers.put id (d.step (.returned answer)).1
            errands := x.errands.erase id }, (d.step (.returned answer)).2)
  /-- The answer to a call finds nobody. -/
  | forget (id : ConnectionId) (asked : Bool) (answer : Bool)
      (driver : x.drivers.get? id = none) (errand : x.errands.get? id = some (.done answer)) :
      Move x (.errand id asked) ({ x with errands := x.errands.erase id }, [])
  /-- The manager takes a request for a target. -/
  | ask (id : ConnectionId) (number : Nat) (request : Connect.Request)
      (errand : x.errands.get? id = some (.connect number request)) :
      Move x (.errand id true)
        ({ x with
            errands := x.errands.put id (.watch number)
            requested := x.requested ++ [number] }, [])
  /-- An errand with nothing to post comes to its answer. -/
  | resolve (id : ConnectionId) (asked : Bool) (errand : Errand) (answer : Bool)
      (watched : List Nat) (found : x.errands.get? id = some errand)
      (idle : errand.isPosting = false) (kept : x.watched ⊆ watched)
      (armed : ∀ n, errand = .watch n → x.forwarder.deadline.isSome = true → n ∈ watched)
      (idly : x.forwarder.deadline = none → watched = x.watched) :
      Move x (.errand id asked)
        ({ x with errands := x.errands.put id (.done answer), watched }, [])
  /-- A chunk is to be posted. -/
  | posting (e : Event) (r : Noted Exchange) (posting : Posting x e r) : Move x e r
  /-- A connection is asked to close. -/
  | hangUp (id : ConnectionId) (asked : Bool) (other : ConnectionId) (answer : Bool)
      (d : TcpDriver) (errand : x.errands.get? id = some (.close other answer))
      (driver : x.drivers.get? other = some d) :
      Move x (.errand id asked)
        ({ x with
            drivers := x.drivers.put other (d.step .requestClose).1
            errands := x.errands.put id (.done answer) }, [])
  /-- An errand of nobody comes to its end. -/
  | looseEnd (i : Nat) (loose : List Errand) (brief : ∀ errand ∈ loose, errand.isBrief = true)
      (kept : ∀ other answer, .close other answer ∈ x.loose → x.drivers.get? other ≠ none →
        .close other answer ∈ loose)
      (closes : ∀ other answer, .close other answer ∈ loose → .close other answer ∈ x.loose) :
      Move x (.looseErrand i) ({ x with loose }, [])
  /-- A connection is asked to close on behalf of nobody. -/
  | looseHangUp (i : Nat) (other : ConnectionId) (answer : Bool) (d : TcpDriver)
      (errand : x.loose[i]? = some (.close other answer))
      (driver : x.drivers.get? other = some d) :
      Move x (.looseErrand i)
        ({ x with
            drivers := x.drivers.put other (d.step .requestClose).1
            loose := x.loose.set i (.done answer) }, [])
  /-- Something happens to a driver that is not up to the service. -/
  | drive (id : ConnectionId) (d : TcpDriver) (e : TcpDriver.Event)
      (driver : x.drivers.get? id = some d) (free : isOfService e = false) :
      Move x (.drive id e) (x.put id (d.step e).1, (d.step e).2)

/-! ### The list is complete -/

/-- Taking out all there is. -/
lemma takeAll_of_receiving {d : TcpDriver} (phase : d.phase = .receiving) :
    takeAll d = (d.received.data, { d with received := d.received.consume d.received.size },
      [.removed d.id d.received.data]) := by
  have hall : d.received.data.take d.received.size = d.received.data := List.take_length
  unfold takeAll
  rw [TcpDriver.take_of_le phase le_rfl, hall]
  rfl

/-- A target that could not be reached has the source of its pair closed, if there is one. -/
lemma connected_none_cases (f : Forwarder) (identity : Identity) :
    (∃ client, f.table.source? identity.token = some client ∧
        f.connected none identity = (.close client false, f)) ∨
      f.table.source? identity.token = none ∧ f.connected none identity = (.done false, f) := by
  cases hclient : f.table.source? identity.token <;> simp [Forwarder.connected, hclient]

lemma isBrief_deadlineOver (f : Forwarder) (number : Nat) :
    (f.deadlineOver number).isBrief = true := by
  unfold Forwarder.deadlineOver
  split <;> rfl

lemma move_consult (x : Exchange) (id : ConnectionId) : Move x (.consult id) (x.consult id) := by
  unfold consult
  split
  · rename_i d driver free
    dsimp only
    split
    · rename_i phase
      split
      · rename_i port opening
        unfold Forwarder.accepted
        split
        · exact .turn _ _ (.enter id d port driver free phase opening)
        · exact .conclude id d false driver free (.inl phase)
      · rename_i opening
        simp only [Forwarder.connected]
        rcases x.forwarder.table.join_cases d.connection.identity.token id with
          ⟨-, hjoin⟩ | ⟨p, pair, hjoin⟩
        · rw [hjoin]
          exact .conclude id d false driver free (.inl phase)
        · rw [hjoin]
          exact .turn _ _ (.join id d p driver free phase opening pair)
    · rename_i phase
      rw [takeAll_of_receiving phase]
      exact .turn _ _ (.relay id d driver free phase)
    · rename_i phase
      exact .conclude id d true driver free (.inr phase)
    · rename_i phase
      exact .turn _ _ (.leave id d driver free phase)
    · exact .stay _
  · exact .stay _

/-- An errand with a chunk to post posts it or loses it. -/
lemma posting_errand (x : Exchange) {id other : ConnectionId} (asked : Bool) {chunk : Bytes}
    {rest : List Bytes} (found : x.errands.get? id = some (.send other (chunk :: rest))) :
    Posting x (.errand id asked) (x.errand id asked) := by
  simp only [errand, found, advance]
  cases driver : x.drivers.get? other with
  | none => exact .lose id asked other chunk rest found (by simp [driver])
  | some d =>
    cases granted : (d.request (.ofChunk chunk)).1 with
    | true =>
      have h := Posting.post id asked other chunk rest d found driver granted
      simpa [put, TcpDriver.step, granted] using h
    | false =>
      have h := Posting.lose id asked other chunk rest found (by simp [driver, granted])
      have hsame := TcpDriver.request_of_refused granted
      simpa [put, granted, hsame, Table.put_of_get? driver] using h

lemma move_errand (x : Exchange) (id : ConnectionId) (asked : Bool) :
    Move x (.errand id asked) (x.errand id asked) := by
  unfold errand
  split
  · exact .stay _
  · rename_i answer errand
    unfold withDriver
    cases driver : x.drivers.get? id with
    | none => exact .forget id asked answer driver errand
    | some d => exact .answer id asked d answer driver errand
  · rename_i errand hdone found
    cases errand with
    | connect number request =>
      cases asked with
      | true => exact .ask id number request found
      | false =>
        exact .resolve id false _ false x.watched found rfl (List.Subset.refl _) (by simp)
          fun _ => rfl
    | watch number =>
      refine .resolve id asked _ true _ found rfl (fun n hn => ?_) (fun n he hdeadline => ?_)
        fun hnone => by simp [hnone]
      · split
        · exact List.mem_append_left _ hn
        · exact hn
      · obtain rfl := Errand.watch.inj he
        rw [if_pos hdeadline]
        exact List.mem_append_right _ (List.mem_singleton_self _)
    | send other chunks =>
      cases chunks with
      | nil =>
        exact .resolve id asked _ true x.watched found rfl (List.Subset.refl _) (by simp)
          fun _ => rfl
      | cons chunk rest =>
        have h := x.posting_errand asked found
        simp only [errand, found] at h
        exact .posting _ _ h
    | close other answer =>
      simp only [advance, withDriver]
      cases driver : x.drivers.get? other with
      | none =>
        exact .resolve id asked _ answer x.watched found rfl (List.Subset.refl _) (by simp)
          fun _ => rfl
      | some d => exact .hangUp id asked other answer d found driver
    | done answer => exact absurd rfl (hdone answer)

lemma move_looseErrand (x : Exchange) (hloose : ∀ errand ∈ x.loose, errand.isBrief = true)
    (i : Nat) : Move x (.looseErrand i) (x.looseErrand i) := by
  have hset (answer : Bool) : ∀ errand ∈ x.loose.set i (.done answer), errand.isBrief = true := by
    intro errand hmem
    rcases List.mem_or_eq_of_mem_set hmem with hmem | rfl
    · exact hloose errand hmem
    · rfl
  -- an errand stays where it is if another one goes
  have hkept {errand errand' : Errand} (found : x.loose[i]? = some errand')
      (hne : errand ≠ errand') (hmem : errand ∈ x.loose) :
      ∃ j, j ≠ i ∧ x.loose[j]? = some errand := by
    obtain ⟨j, hj⟩ := List.mem_iff_getElem?.mp hmem
    refine ⟨j, ?_, hj⟩
    rintro rfl
    exact hne (Option.some.inj (hj.symm.trans found))
  have hsince (other : ConnectionId) (answer answer' : Bool)
      (hmem : .close other answer ∈ x.loose.set i (.done answer')) :
      .close other answer ∈ x.loose := by
    rcases List.mem_or_eq_of_mem_set hmem with hmem | he
    · exact hmem
    · cases he
  unfold looseErrand
  split
  · exact .stay _
  · rename_i answer found
    refine .looseEnd i _ (fun errand hmem => hloose errand (List.mem_of_mem_eraseIdx hmem))
      (fun other answer' hmem _ => ?_) fun other answer' hmem => List.mem_of_mem_eraseIdx hmem
    obtain ⟨j, hne, hj⟩ := hkept found (by simp) hmem
    exact List.mem_eraseIdx_iff_getElem?.mpr ⟨j, hne, hj⟩
  · rename_i errand hdone found
    have hbrief := hloose errand (List.mem_of_getElem? found)
    cases errand with
    | close other answer =>
      simp only [advance, withDriver]
      cases driver : x.drivers.get? other with
      | none =>
        refine .looseEnd i _ (hset answer) (fun other' answer' hmem hdriver => ?_)
          fun other' answer' hmem => hsince other' answer' answer hmem
        have hother : other' ≠ other := fun he => hdriver (he ▸ driver)
        obtain ⟨j, hne, hj⟩ := hkept found (by simp [hother]) hmem
        refine List.mem_iff_getElem?.mpr ⟨j, ?_⟩
        rw [List.getElem?_set_ne (Ne.symm hne), hj]
      | some d => exact .looseHangUp i other answer d found driver
    | done answer => exact absurd rfl (hdone answer)
    | connect number request => cases hbrief
    | watch number => cases hbrief
    | send other chunks => cases hbrief

/-- Every step is one of the moves. -/
theorem move_step (x : Exchange) (hloose : ∀ errand ∈ x.loose, errand.isBrief = true) (e : Event) :
    Move x e (x.step e) := by
  cases e with
  | accept id port host peer =>
    simp only [step, greet]
    split
    · exact .stay _
    · rename_i hnew
      exact .accept id port host peer (by simpa using hnew)
  | targetUp number id host peer =>
    simp only [step]
    split
    · rename_i asked
      unfold greet
      split
      · have h := Move.miss (.targetUp number id host peer) number [] [] asked (by simp) (by simp)
          (by simp)
        simpa [answered] using h
      · rename_i hnew
        exact .up number id host peer asked (by simpa [answered] using hnew)
    · exact .stay _
  | targetDown number =>
    simp only [step]
    split
    · rename_i asked
      have hmiss (errand : Errand) (hbrief : errand.isBrief = true)
          (hcloses : ∀ other answer, .close other answer = errand →
            x.forwarder.table.source? number = some other) :=
        Move.miss (.targetDown number) number [errand] [.callback (.connect none ⟨number⟩)] asked
          (by simpa using hbrief) (by simpa using hcloses)
          (by simp [Note.owner?, Callback.connection?])
      rcases connected_none_cases x.forwarder ⟨number⟩ with ⟨client, hclient, hcall⟩ | ⟨-, hcall⟩
      · rw [hcall]
        refine hmiss (.close client false) rfl fun other answer he => ?_
        obtain ⟨rfl, -⟩ := Errand.close.inj he
        exact hclient
      · rw [hcall]
        exact hmiss (.done false) rfl (by simp)
    · exact .stay _
  | targetSpoiled number code message =>
    simp only [step]
    split
    · rename_i asked
      have h := Move.miss (.targetSpoiled number code message) number []
        [.callback (.error "connection" "handshake" code message)] asked (by simp) (by simp)
        (by simp [Note.owner?, Callback.connection?])
      simpa [answered] using h
    · exact .stay _
  | deadline number =>
    simp only [step]
    split
    · rename_i awaited
      exact .expire number awaited
    · exact .stay _
  | consult id => exact x.move_consult id
  | errand id asked => exact x.move_errand id asked
  | looseErrand i => exact x.move_looseErrand hloose i
  | drive id e =>
    simp only [step]
    split
    · exact .stay _
    · rename_i hfree
      unfold withDriver
      cases driver : x.drivers.get? id with
      | none => exact .stay _
      | some d => exact .drive id d e driver (by simpa using hfree)

end Exchange

end Proxy

end Switchboard
