import Switchboard.Proofs.Proxy.Handover

/-!
# Giving a target's chunks back to its client

The way back is simpler than the way to the target.  A target is only there once its client is, so
nothing is ever held for a client, and only the target posts to it.  So what was read from the
target is what was posted for the client, or is about to be, and in this order.
-/

namespace Switchboard

namespace Proxy

namespace Exchange

variable {x : Exchange}

/-- The chunks of the target of a pair are given back to its source. -/
def GivesBack (x : Exchange) (history : List Note) (n : Nat) (source : ConnectionId) : Prop :=
  (x.Awaits n → Note.data .posted source history = []) ∧
    ∀ p target, x.forwarder.table.pairs.get? n = some p → p.target = some target →
      Note.data .posted source history ++ x.pending target source =
        Note.data .removed target history

/-- A source was not made as a target. -/
lemma Sound.not_isTarget (h : x.Sound) {n m : Nat} {p : Pair} {source : ConnectionId}
    (hp : x.forwarder.table.pairs.get? n = some p) (hsource : p.source = some source) :
    ¬ x.IsTarget source m := by
  rintro ⟨d, hd, hopening, -⟩
  obtain ⟨d', port, hd', haccepted⟩ := h.source hp hsource
  obtain rfl := Option.some.inj (hd.symm.trans hd')
  simp [hopening] at haccepted

/-- Only the target of a pair posts to its source. -/
lemma target_of_posting (h : x.Sound) {n : Nat} {p : Pair} {source id : ConnectionId}
    {chunks : List Bytes} (hp : x.forwarder.table.pairs.get? n = some p)
    (hsource : p.source = some source) (errand : x.errands.get? id = some (.send source chunks)) :
    id ≠ source ∧ p.target = some id := by
  have hne : id ≠ source := by
    rintro rfl
    obtain ⟨d, hd, hs⟩ := h.busy errand
    rcases hs with ⟨-, -, hopening⟩ | ⟨hne, -⟩
    · exact h.not_isTarget hp hsource ⟨d, hd, hopening, rfl⟩
    · exact hne rfl
  obtain ⟨m, hid, -, hsame, -⟩ := h.relaying errand hne.symm
  obtain rfl := hsame n (h.table.source hp hsource)
  obtain ⟨q, hq, hside⟩ := h.table.listed hid
  obtain rfl := Option.some.inj (hp.symm.trans hq)
  rcases hside with hs | ht
  · exact absurd (Option.some.inj (hs.symm.trans hsource)) hne
  · exact ⟨hne, ht⟩

/-- A step that neither posts for the source nor reads from its target, and leaves the same chunks
to be posted, goes on with giving back. -/
lemma GivesBack.go_on {history : List Note} {r : Noted Exchange} {n : Nat} {source : ConnectionId}
    (hback : x.GivesBack history n source) (hawaits : r.1.Awaits n → x.Awaits n)
    (hsides : ∀ q target, r.1.forwarder.table.pairs.get? n = some q → q.target = some target →
      (∃ p, x.forwarder.table.pairs.get? n = some p ∧ p.target = some target) ∧
        Note.data .removed target r.2 = [] ∧ r.1.pending target source = x.pending target source)
    (hposted : Note.data .posted source r.2 = []) :
    r.1.GivesBack (history ++ r.2) n source := by
  rw [GivesBack, Note.data_append, hposted, List.append_nil]
  refine ⟨fun hnow => hback.1 (hawaits hnow), fun q target hq htarget => ?_⟩
  obtain ⟨⟨p, hp, ht⟩, hremoved, hpending⟩ := hsides q target hq htarget
  rw [Note.data_append, hremoved, List.append_nil, hpending]
  exact hback.2 p target hp ht

/-- A target that joins its pair has nothing to give back yet. -/
lemma givesBack_join (h : x.Sound) {history : List Note} (k : x.Chronicle history)
    {target : ConnectionId} {d : TcpDriver} {p : Pair} {source : ConnectionId} {x' : Exchange}
    (driver : x.drivers.get? target = some d) (free : x.errands.get? target = none)
    (phase : d.phase = .opening) (opening : d.opening = .connected)
    (pair : x.forwarder.table.pairs.get? d.connection.identity.token = some p)
    (hsource : p.source = some source)
    (hback : x.GivesBack history d.connection.identity.token source)
    (hpairs : x'.forwarder.table.pairs =
      x.forwarder.table.pairs.put d.connection.identity.token (PairTable.joined p target))
    (hput : x'.errands = x.errands.put target (.send target p.held)) :
    x'.GivesBack history d.connection.identity.token source := by
  have hposted := hback.1 (awaits_of_opening h driver free phase opening)
  have hapart : target ≠ source := by
    rintro rfl
    exact (h.unlisted driver phase free).1 (h.listed (h.table.source pair hsource))
  refine ⟨fun _ => hposted, fun q t hq ht => ?_⟩
  rw [hpairs, Table.get?_put, if_pos rfl] at hq
  obtain rfl := Option.some.inj hq
  obtain rfl := Option.some.inj ht
  have hunread : Note.data .removed target history = [] := by
    refine k.unread fun d' hd' => ?_
    obtain rfl := Option.some.inj (driver.symm.trans hd')
    exact phase
  rw [hposted, hunread, pending_put hput, if_pos rfl, Errand.chunksFor, if_neg hapart]
  rfl

/-- A chunk that is relayed goes on with giving back: one of the target is read and about to be
posted for the source, and no other one is. -/
lemma GivesBack.relay (h : x.Sound) {history : List Note} {n : Nat} {q : Pair}
    {source id : ConnectionId} {d : TcpDriver} {r : Noted Exchange}
    (hback : x.GivesBack history n source) (driver : x.drivers.get? id = some d)
    (free : x.errands.get? id = none) (hq : r.1.forwarder.table.pairs.get? n = some q)
    (hsource : q.source = some source) (hawaits : r.1.Awaits n → x.Awaits n)
    (hforwarder : r.1.forwarder = (x.forwarder.received id d.received.data).2)
    (hput : r.1.errands = x.errands.put id (x.forwarder.received id d.received.data).1)
    (hnotes : r.2 = [.removed d.id d.received.data]) :
    r.1.GivesBack (history ++ r.2) n source := by
  have hposted : Note.data .posted source r.2 = [] := by
    rw [hnotes]
    rfl
  have hremoved (t : ConnectionId) :
      Note.data .removed t r.2 = if t = id then [d.received.data] else [] := by
    rw [hnotes]
    exact removed_relay h driver t
  have hsame : ∃ p, x.forwarder.table.pairs.get? n = some p ∧ q.source = p.source ∧
      q.target = p.target := by
    rw [hforwarder, x.forwarder.snd_received] at hq
    rcases PairTable.get?_pairs_relay hq with hq | ⟨p, hp, -, -, rfl⟩
    · exact ⟨q, hq, rfl, rfl⟩
    · exact ⟨p, hp, PairTable.sides_hold p _ _⟩
  obtain ⟨p, hp, hs, ht⟩ := hsame
  rw [hs] at hsource
  by_cases hid : q.target = some id
  · -- the target of the pair sent the chunk
    have hforward :
        (x.forwarder.received id d.received.data).1 = .send source [d.received.data] := by
      have htarget : p.target = some id := ht ▸ hid
      have hself : p.source ≠ some id := fun he => h.table.apart hp he htarget
      unfold Forwarder.received
      rw [PairTable.relay_of_source (h.table.target hp htarget) hp hself hsource]
    refine ⟨fun hnow => ?_, fun q' target hq' htarget => ?_⟩
    · rw [Note.data_append, hposted, List.append_nil]
      exact hback.1 (hawaits hnow)
    · obtain rfl := Option.some.inj (hq.symm.trans hq')
      obtain rfl := Option.some.inj (hid.symm.trans htarget)
      have hbefore := hback.2 p id hp (ht ▸ hid)
      rw [pending_of_none free, List.append_nil] at hbefore
      rw [Note.data_append, Note.data_append, hposted, hremoved, if_pos rfl, List.append_nil,
        hbefore, pending_put hput, if_pos rfl, hforward, Errand.chunksFor, if_pos rfl]
  · refine hback.go_on hawaits (fun q' target hq' htarget => ?_) hposted
    obtain rfl := Option.some.inj (hq.symm.trans hq')
    have hne : target ≠ id := fun he => hid (he ▸ htarget)
    refine ⟨⟨p, hp, ht ▸ htarget⟩, ?_, ?_⟩
    · rw [hremoved, if_neg hne]
    · rw [pending_put hput, if_neg hne]

/-- A turn at the table goes on with giving back, or starts it. -/
lemma givesBack_turn (h : x.Sound) {history : List Note} (k : x.Chronicle history) {e : Event}
    {r : Noted Exchange} (turn : Turn x e r) {n : Nat} {q : Pair} {source : ConnectionId}
    (hq : r.1.forwarder.table.pairs.get? n = some q) (hsource : q.source = some source)
    (hawaits : r.1.Awaits n → x.Awaits n)
    (hback : ∀ p, x.forwarder.table.pairs.get? n = some p → p.source = some source →
      x.GivesBack history n source) :
    r.1.GivesBack (history ++ r.2) n source := by
  cases turn with
  | enter id d port driver free phase opening =>
    simp only [PairTable.enter, Table.get?_put] at hq
    split at hq
    · rename_i hn
      -- nothing was posted for a client that is only now entered
      obtain rfl := Option.some.inj hq
      obtain rfl := Option.some.inj hsource
      rw [List.append_nil]
      refine ⟨fun _ => k.silent (h.unlisted driver phase free).1, fun p target hp htarget => ?_⟩
      simp only [PairTable.enter, Table.get?_put, if_pos hn, Option.some.injEq] at hp
      obtain rfl := hp
      cases htarget
    · rename_i hn
      refine (hback q hq hsource).go_on hawaits (fun q' target hq' htarget => ?_) rfl
      simp only [PairTable.enter, Table.get?_put, if_neg hn] at hq'
      refine ⟨⟨q', hq', htarget⟩, rfl, ?_⟩
      rw [pending_put rfl]
      split
      · rename_i he
        rw [he, pending_of_none free]
        rfl
      · rfl
  | join id d p driver free phase opening pair =>
    simp only [Table.get?_put] at hq
    split at hq
    · rename_i hn
      subst hn
      obtain rfl := Option.some.inj hq
      rw [List.append_nil]
      exact givesBack_join h k driver free phase opening pair hsource (hback p pair hsource) rfl rfl
    · rename_i hn
      refine (hback q hq hsource).go_on hawaits (fun q' target hq' htarget => ?_) rfl
      simp only [Table.get?_put, if_neg hn] at hq'
      have hne : target ≠ id := by
        rintro rfl
        exact (h.unlisted driver phase free).1 (h.listed (h.table.target hq' htarget))
      exact ⟨⟨q', hq', htarget⟩, rfl, by rw [pending_put rfl, if_neg hne]⟩
  | relay id d driver free phase =>
    obtain ⟨p, hp, hs⟩ : ∃ p, x.forwarder.table.pairs.get? n = some p ∧ p.source = some source := by
      dsimp only at hq
      rw [x.forwarder.snd_received] at hq
      rcases PairTable.get?_pairs_relay hq with hq | ⟨p, hp, -, -, rfl⟩
      · exact ⟨q, hq, hsource⟩
      · exact ⟨p, hp, (PairTable.sides_hold p _ _).1 ▸ hsource⟩
    exact (hback p hp hs).relay h driver free hq hsource hawaits rfl rfl rfl
  | leave id d driver free phase =>
    have hafter : (x.forwarder.closed id).1.chunksFor source = [] := by
      rcases x.forwarder.fst_closed_cases id with ⟨other, he⟩ | he <;> rw [he] <;> rfl
    dsimp only at hq
    rw [x.forwarder.snd_closed] at hq
    obtain ⟨p, hp, hs⟩ : ∃ p, x.forwarder.table.pairs.get? n = some p ∧ p.source = some source := by
      rcases PairTable.get?_pairs_leave h.table hq with ⟨-, hq⟩ | ⟨p, -, hp, rfl, -⟩
      · exact ⟨q, hq, hsource⟩
      · exact ⟨p, hp, (PairTable.source_without hsource).1⟩
    refine (hback p hp hs).go_on hawaits (fun q' target hq' htarget => ⟨?_, rfl, ?_⟩) rfl
    · dsimp only at hq'
      rw [x.forwarder.snd_closed] at hq'
      rcases PairTable.get?_pairs_leave h.table hq' with ⟨-, hq'⟩ | ⟨p, -, hp, rfl, -⟩
      · exact ⟨q', hq', htarget⟩
      · exact ⟨p, hp, (PairTable.target_without (h.table.apart hp) htarget).1⟩
    · rw [pending_put rfl]
      split
      · rename_i he
        rw [hafter, he, pending_of_none free]
      · rfl

/-- Posting a chunk goes on with giving back. -/
lemma GivesBack.posting (h : x.Sound) {history : List Note} (k : x.Chronicle history) {e : Event}
    {r : Noted Exchange} (posting : Posting x e r) {n : Nat} {p : Pair} {source : ConnectionId}
    (hback : x.GivesBack history n source) (hp : x.forwarder.table.pairs.get? n = some p)
    (hsource : p.source = some source) (hawaits : r.1.Awaits n → x.Awaits n)
    (hopen : ∀ d, x.drivers.get? source = some d → d.mailbox.isOpen = true) :
    r.1.GivesBack (history ++ r.2) n source := by
  have hothers {other : ConnectionId} (hother : other ≠ source) (chunks : List Bytes) :
      (Errand.send other chunks).chunksFor source = [] := by
    rw [Errand.chunksFor, if_neg hother]
  cases posting with
  | post id asked other chunk rest d errand driver granted =>
    have hremoved (t : ConnectionId) := (TcpDriver.data_request d (.ofChunk chunk) t).1
    by_cases hother : other = source
    · subst hother
      obtain ⟨hne, htarget⟩ := target_of_posting h hp hsource errand
      have hbefore := hback.2 p id hp htarget
      rw [pending_of_some errand, Errand.chunksFor, if_pos rfl] at hbefore
      -- the chunk was read, so it is not empty and is really posted
      have hchunk : chunk ≠ [] := by
        rintro rfl
        exact k.full (hbefore ▸ List.mem_append_right _ List.mem_cons_self)
      have hposted := TcpDriver.posted_request hchunk granted
      rw [(h.driver driver).1] at hposted
      refine ⟨fun hnow => ?_, fun q target hq ht => ?_⟩
      · exact absurd (h.listed (h.table.target hp htarget))
          (hawaits hnow id (h.target hp htarget))
      · obtain rfl := Option.some.inj (hp.symm.trans hq)
        obtain rfl := Option.some.inj (htarget.symm.trans ht)
        rw [Note.data_append, Note.data_append, hposted, hremoved, pending_put rfl, if_pos rfl,
          Errand.chunksFor, if_pos rfl, List.append_nil, List.append_assoc, ← hbefore]
        rfl
    · refine hback.go_on hawaits (fun q target hq ht => ⟨⟨q, hq, ht⟩, hremoved target, ?_⟩) ?_
      · rw [pending_put rfl]
        split
        · rename_i he
          rw [he, pending_of_some errand, hothers hother, hothers hother]
        · rfl
      · exact (TcpDriver.data_request d (.ofChunk chunk) source).2 fun he =>
          hother ((h.driver driver).1.symm.trans he.symm)
  | lose id asked other chunk rest errand refused =>
    have hother : other ≠ source := by
      rintro rfl
      obtain ⟨d, -, hd, -⟩ := h.source hp hsource
      exact absurd (refused d hd) (by simp [TcpDriver.granted_of_isOpen (hopen d hd) chunk])
    refine hback.go_on hawaits (fun q target hq ht => ⟨⟨q, hq, ht⟩, rfl, ?_⟩) rfl
    rw [pending_put rfl]
    split
    · rename_i he
      rw [he, pending_of_some errand, hothers hother]
      rfl
    · rfl

/-- In every run the chunks of a target are given back to the client of its pair, as long as its
mailbox is open. -/
lemma givesBack_run (h : x.Sound) (k : x.Chronicle []) {n : Nat}
    (hnew : x.forwarder.table.pairs.get? n = none) (es : List Event) :
    ∀ p source, (x.run es).1.forwarder.table.pairs.get? n = some p → p.source = some source →
      (∀ d, (x.run es).1.drivers.get? source = some d → d.mailbox.isOpen = true) →
      (x.run es).1.GivesBack (x.run es).2 n source := by
  induction es using List.reverseRecOn with
  | nil =>
    intro p source hp
    simp [run, hnew] at hp
  | append_singleton es e ih =>
    intro q source hq hsource hopen
    have hsound := sound_run h es
    have hchronicle := chronicle_run h k es
    rw [run_concat] at hq hopen ⊢
    have hopened (d : TcpDriver) (hd : (x.run es).1.drivers.get? source = some d) :
        d.mailbox.isOpen = true := by
      obtain ⟨d', hd', -, -, hback⟩ := driver_step hsound e hd
      exact hback (hopen d' hd')
    have hawaits : ((x.run es).1.step e).1.Awaits n → (x.run es).1.Awaits n :=
      awaits_of_step hsound
    rcases quiet_step hsound e with quiet | turn | posting
    · rw [quiet.forwarder] at hq
      refine (ih q source hq hsource hopened).go_on hawaits (fun q' target hq' ht => ?_)
        (quiet.posted source)
      rw [quiet.forwarder] at hq'
      exact ⟨⟨q', hq', ht⟩, quiet.removed target, quiet.pending target source⟩
    · exact givesBack_turn hsound hchronicle turn hq hsource hawaits fun p hp hs =>
        ih p source hp hs hopened
    · rw [posting.forwarder] at hq
      exact (ih q source hq hsource hopened).posting hsound hchronicle posting hq hsource hawaits
        hopened

end Exchange

end Proxy

end Switchboard
