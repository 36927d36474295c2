import Mathlib.Data.List.Infix
import Mathlib.Data.List.Nodup
import Switchboard.Proofs.Proxy.Chronicle

/-!
# Handing a client's chunks over to its target

What a client sends before its target is there is held in the table.  When the target joins, it
takes the held chunks out of the table, and then posts them to its own connection one by one, with
the table free again.  From the moment it joined the client's own calls find the target in the table
and post to it directly.  So two parties post to one mailbox, and nothing makes the second wait for
the first.

`Handed` tells what comes of that.  Whatever else happens, no chunk is lost and none is doubled:
what was posted and what the two are still about to post are together the chunks that were read.
They come in the order in which they were read as long as the client never posts a chunk while its
target has held ones left (`Exchange.overtaken`); once that has happened they never do again,
provided that the chunks can be told apart.  Until the target joined, all that was read is held
(`Exchange.withheld_step`); from then on every step keeps to `Exchange.HandsOver`.
-/

namespace Switchboard

/-- A list without duplicates has two entries in one order only. -/
lemma not_sublist_swap {α : Type} {l : List α} {a b : α} (hl : l.Nodup)
    (hab : [a, b].Sublist l) : ¬ [b, a].Sublist l := by
  induction l with
  | nil => cases hab
  | cons c l ih =>
    obtain ⟨hc, hl⟩ := List.nodup_cons.mp hl
    intro hba
    cases hab with
    | cons _ hab =>
      cases hba with
      | cons _ hba => exact ih hl hab hba
      | cons_cons _ hba => exact hc (hab.subset (by simp))
    | cons_cons _ hb =>
      cases hba with
      | cons _ hba => exact hc (hba.subset (by simp))
      | cons_cons _ hba => exact hc (hba.subset (by simp))

namespace Proxy

/-! ### Two parties that post -/

/-- What becomes of the chunks `read` from a client.  Some were `posted` to its target, those that
are `held` are left to the target to post, and one may be left to the client itself to post
`direct`ly. -/
structure Handed (read posted held direct : List Bytes) (overtaken : Bool) : Prop where
  /-- None is lost and none is doubled. -/
  complete : (posted ++ held ++ direct).Perm read
  /-- Unless one was overtaken, they come as they were read. -/
  ordered : overtaken = false → posted ++ held ++ direct = read
  /-- If one was overtaken, it was by a later one. -/
  swapped : overtaken = true → ∃ a b, [a, b].Sublist read ∧ [b, a].Sublist (posted ++ held)

namespace Handed

variable {read posted held direct : List Bytes} {chunk : Bytes} {overtaken : Bool}

/-- At first all that was read is held. -/
lemma start (chunks : List Bytes) : Handed chunks [] chunks [] false where
  complete := by simp
  ordered _ := by simp
  swapped h := by cases h

/-- A chunk is read that is to be posted directly. -/
lemma read_concat (h : Handed read posted held [] overtaken) (chunk : Bytes) :
    Handed (read ++ [chunk]) posted held [chunk] overtaken where
  complete := by simpa using h.complete.append_right [chunk]
  ordered ho := by
    rw [← h.ordered ho, List.append_nil]
  swapped ho := by
    obtain ⟨a, b, hread, hposted⟩ := h.swapped ho
    exact ⟨a, b, hread.trans (List.sublist_append_left _ _), hposted⟩

/-- The target posts the first chunk that is held. -/
lemma post_held (h : Handed read posted (chunk :: held) direct overtaken) :
    Handed read (posted ++ [chunk]) held direct overtaken := by
  have hsame : posted ++ [chunk] ++ held = posted ++ chunk :: held := by simp
  constructor
  case complete =>
    rw [hsame]
    exact h.complete
  case ordered =>
    rw [hsame]
    exact h.ordered
  case swapped =>
    rw [hsame]
    exact h.swapped

/-- The client posts its chunk, and overtakes all that are held. -/
lemma post_direct (h : Handed read posted held [chunk] overtaken) :
    Handed read (posted ++ [chunk]) held [] (overtaken || !held.isEmpty) := by
  constructor
  case complete =>
    refine List.Perm.trans ?_ h.complete
    rw [List.append_nil, List.append_assoc, List.append_assoc]
    exact List.Perm.append_left posted List.perm_append_comm
  case ordered =>
    intro ho
    obtain ⟨hbefore, hheld⟩ := Bool.or_eq_false_iff.mp ho
    obtain rfl : held = [] := by simpa using hheld
    simpa using h.ordered hbefore
  case swapped =>
    intro ho
    cases overtaken with
    | true =>
      obtain ⟨a, b, hread, hposted⟩ := h.swapped rfl
      refine ⟨a, b, hread, hposted.trans ?_⟩
      rw [List.append_assoc]
      exact (List.sublist_append_right [chunk] held).append_left posted
    | false =>
      cases held with
      | nil => simp at ho
      | cons first held =>
        refine ⟨first, chunk, ?_, ?_⟩
        · rw [← h.ordered rfl, List.append_assoc]
          refine List.Sublist.trans ?_ (List.sublist_append_right posted _)
          exact ((List.nil_sublist held).append_right [chunk]).cons_cons first
        · rw [List.append_assoc]
          refine List.Sublist.trans ?_ (List.sublist_append_right posted _)
          exact ((List.nil_sublist held).cons_cons first).cons_cons chunk

/-- Chunks that can be told apart come as they were read exactly if none was overtaken. -/
lemma eq_read_iff (h : Handed read posted held direct overtaken) (hread : read.Nodup) :
    posted ++ held ++ direct = read ↔ overtaken = false := by
  refine ⟨fun heq => ?_, h.ordered⟩
  by_contra ho
  obtain ⟨a, b, hab, hba⟩ := h.swapped (by simpa using ho)
  refine not_sublist_swap hread hab (hba.trans ?_)
  rw [← heq]
  exact List.sublist_append_left _ _

end Handed

namespace Exchange

variable {x : Exchange}

/-- Whether an event has the source of a pair post a chunk while its target has held ones left. -/
def overtakes (x : Exchange) (source target : ConnectionId) : Event → Bool
  | .errand id _ =>
    decide (id = source) && !(x.pending source target).isEmpty &&
      !(x.pending target target).isEmpty
  | _ => false

/-- Whether that happens in a run. -/
def overtaken (x : Exchange) (source target : ConnectionId) : List Event → Bool
  | [] => false
  | e :: es => x.overtakes source target e || (x.step e).1.overtaken source target es

/-- Whether more was offered to a pair than may be held. -/
def exceeds (x : Exchange) (n : Nat) : Bool :=
  (x.forwarder.table.pairs.get? n).any fun p => decide (x.forwarder.maxHeld < p.offered)

/-- No target of a pair has been at the table. -/
def Awaits (x : Exchange) (n : Nat) : Prop :=
  ∀ t, x.IsTarget t n → ¬ x.Sits t

/-- Whether something is overtaken in a run with one more event. -/
lemma overtaken_concat (x : Exchange) (source target : ConnectionId) (es : List Event) (e : Event) :
    x.overtaken source target (es ++ [e]) =
      (x.overtaken source target es || (x.run es).1.overtakes source target e) := by
  induction es generalizing x with
  | nil => simp [overtaken, run]
  | cons e' es ih => simp [overtaken, run, Noted.andThen, ih, Bool.or_assoc]

/-- Nothing is overtaken unless an errand of the source has something to post. -/
lemma overtakes_eq_false {source target : ConnectionId} {e : Event}
    (hidle : ∀ asked, e = .errand source asked → x.pending source target = []) :
    x.overtakes source target e = false := by
  cases e with
  | errand id asked =>
    by_cases hid : id = source
    · subst hid
      simp [overtakes, hidle asked rfl]
    · simp [overtakes, hid]
  | _ => rfl

/-- Only a connection whose announcement was at the table has something to post. -/
lemma sits_of_pending (h : x.Sound) {id other : ConnectionId} (hsome : x.pending id other ≠ []) :
    x.Sits id := by
  cases found : x.errands.get? id with
  | none => exact absurd (pending_of_none found other) hsome
  | some errand =>
    obtain ⟨d, hd, -⟩ := h.busy found
    exact ⟨d, hd, fun _ => by simp [found]⟩

/-- Nobody is overtaken before the target was at the table. -/
lemma overtaken_eq_false (h : x.Sound) (source : ConnectionId) {target : ConnectionId}
    (es : List Event) (hsits : ¬ (x.run es).1.Sits target) :
    x.overtaken source target es = false := by
  induction es using List.reverseRecOn with
  | nil => rfl
  | append_singleton es e ih =>
    rw [run_concat] at hsits
    have hsound := sound_run h es
    have hbefore : ¬ (x.run es).1.Sits target := fun hs => hsits (sits_step hsound e hs)
    have hpending : (x.run es).1.pending target target = [] := by
      by_contra hsome
      exact hbefore (sits_of_pending hsound hsome)
    rw [overtaken_concat, ih hbefore]
    cases e <;> simp [overtakes, hpending]

/-- A target stays one. -/
lemma isTarget_step (h : x.Sound) (e : Event) {t : ConnectionId} {n : Nat} (ht : x.IsTarget t n) :
    (x.step e).1.IsTarget t n := by
  obtain ⟨d, hd, hopening, hidentity⟩ := ht
  obtain ⟨d', hd', hsame, -⟩ := driver_step h e hd
  exact ⟨d', hd', hsame.opening.trans hopening, hsame.identity.trans hidentity⟩

/-- A target that has not been at the table had not been there before. -/
lemma awaits_of_step (h : x.Sound) {e : Event} {n : Nat} (hawaits : (x.step e).1.Awaits n) :
    x.Awaits n :=
  fun t ht hs => hawaits t (isTarget_step h e ht) (sits_step h e hs)

/-- A pair whose target has not been at the table has none. -/
lemma Awaits.target_eq_none {n : Nat} (hawaits : x.Awaits n) (h : x.Sound) {p : Pair}
    (hp : x.forwarder.table.pairs.get? n = some p) : p.target = none := by
  cases ht : p.target with
  | none => rfl
  | some t => exact absurd (h.listed (h.table.target hp ht)) (hawaits t (h.target hp ht))

/-- A pair waits for the target that is about to join it. -/
lemma awaits_of_opening (h : x.Sound) {id : ConnectionId} {d : TcpDriver}
    (driver : x.drivers.get? id = some d) (free : x.errands.get? id = none)
    (phase : d.phase = .opening) (opening : d.opening = .connected) :
    x.Awaits d.connection.identity.token := by
  intro t ht hs
  obtain rfl := h.single ht ⟨d, driver, opening, rfl⟩
  exact (h.unlisted driver phase free).1 hs

/-- What is offered to a pair within its limit. -/
lemma offered_le {n : Nat} {p : Pair} (hlimit : x.exceeds n = false)
    (hp : x.forwarder.table.pairs.get? n = some p) : p.offered ≤ x.forwarder.maxHeld := by
  simpa [exceeds, hp] using hlimit

/-- What an errand of relaying takes out belongs to its connection alone. -/
lemma removed_relay (h : x.Sound) {id : ConnectionId} {d : TcpDriver}
    (driver : x.drivers.get? id = some d) (i : ConnectionId) :
    Note.data .removed i [.removed d.id d.received.data] =
      if i = id then [d.received.data] else [] := by
  have hname := (h.driver driver).1
  split
  · rename_i he
    simp [Note.data_cons, Note.datum?, hname, he]
  · rename_i he
    simp [Note.data_cons, Note.datum?, hname, Ne.symm he]

/-! ### Until the target is there -/

/-- All that was read from the source of a pair is held. -/
def Withheld (x : Exchange) (history : List Note) (n : Nat) : Prop :=
  ∀ {p source}, x.forwarder.table.pairs.get? n = some p → p.source = some source →
    p.held = Note.data .removed source history

/-- While a pair awaits its target and its limit is kept, all that is read is held. -/
lemma withheld_step (h : x.Sound) {history : List Note} (k : x.Chronicle history) {e : Event}
    {n : Nat} (hawaits : (x.step e).1.Awaits n) (hlimit : (x.step e).1.exceeds n = false)
    (hheld : x.Withheld history n) :
    (x.step e).1.Withheld (history ++ (x.step e).2) n := by
  intro q source hq hsource
  have hbefore : x.Awaits n := awaits_of_step h hawaits
  rcases quiet_step h e with quiet | turn | posting
  · rw [quiet.forwarder] at hq
    rw [Note.data_append, quiet.removed, List.append_nil]
    exact hheld hq hsource
  · generalize x.step e = r at turn hawaits hlimit hq ⊢
    cases turn with
    | enter id d port driver free phase opening =>
      rw [List.append_nil]
      simp only [PairTable.enter, Table.get?_put] at hq
      split at hq
      · -- the client is new, so nothing was read from it
        obtain rfl := Option.some.inj hq
        obtain rfl := Option.some.inj hsource
        refine (k.unread fun d' hd' => ?_).symm
        obtain rfl := Option.some.inj (driver.symm.trans hd')
        exact phase
      · exact hheld hq hsource
    | join id d p driver free phase opening pair =>
      rw [List.append_nil]
      simp only [Table.get?_put] at hq
      split at hq
      · rename_i hn
        subst hn
        refine absurd ?_ (hawaits id ⟨d, driver, opening, rfl⟩)
        exact ⟨d, driver, fun _ => by simp [Table.get?_put]⟩
      · exact hheld hq hsource
    | relay id d driver free phase =>
      have hmax := offered_le hlimit hq
      dsimp only at hq hmax
      rw [x.forwarder.snd_received] at hq hmax
      rw [Note.data_append, removed_relay h driver]
      rcases PairTable.get?_pairs_relay hq with hp | ⟨p, hp, hid, -, rfl⟩
      · rw [if_neg, List.append_nil]
        · exact hheld hp hsource
        · -- a chunk of the source would have been offered to the pair
          rintro rfl
          rw [PairTable.relay_of_waiting (h.table.source hp hsource) hp hsource
            (hbefore.target_eq_none h hp), Table.get?_put, if_pos rfl] at hq
          have hsame := congrArg Pair.offered (Option.some.inj hq)
          rw [Pair.offered_hold] at hsame
          have hsome := h.filled driver phase free
          have hlength := List.length_pos_iff.mpr hsome
          omega
      · rw [(PairTable.sides_hold p _ _).1, hid] at hsource
        obtain rfl := Option.some.inj hsource
        rw [if_pos rfl, PairTable.held_hold hmax, hheld hp hid]
    | leave id d driver free phase =>
      rw [List.append_nil]
      rw [x.forwarder.snd_closed] at hq
      rcases PairTable.get?_pairs_leave h.table hq with ⟨-, hq⟩ | ⟨p, -, hp, rfl, -⟩
      · exact hheld hq hsource
      · rw [PairTable.held_without]
        exact hheld hp (PairTable.source_without hsource).1
  · generalize x.step e = r at posting hq ⊢
    cases posting with
    | post id asked other chunk rest d errand driver granted =>
      rw [Note.data_append, (TcpDriver.data_request d _ source).1, List.append_nil]
      exact hheld hq hsource
    | lose => simpa using hheld hq hsource

/-! ### Once the target is there -/

/-- The chunks of the source of a pair are handed over to its target. -/
def HandsOver (x : Exchange) (history : List Note) (source target : ConnectionId)
    (overtaken : Bool) : Prop :=
  Handed (Note.data .removed source history) (Note.data .posted target history)
    (x.pending target target) (x.pending source target) overtaken

/-- Only the sides of a pair post to its target. -/
lemma source_of_posting (h : x.Sound) {n : Nat} {p : Pair} {source target id : ConnectionId}
    {chunks : List Bytes} (hp : x.forwarder.table.pairs.get? n = some p)
    (hsource : p.source = some source) (htarget : p.target = some target)
    (errand : x.errands.get? id = some (.send target chunks)) (hne : id ≠ target) :
    id = source := by
  obtain ⟨m, hid, -, hsame, -⟩ := h.relaying errand hne.symm
  obtain rfl := hsame n (h.table.target hp htarget)
  obtain ⟨q, hq, hside⟩ := h.table.listed hid
  obtain rfl := Option.some.inj (hp.symm.trans hq)
  rcases hside with hs | ht
  · exact Option.some.inj (hs.symm.trans hsource)
  · exact absurd (Option.some.inj (ht.symm.trans htarget)) hne

/-- A step that neither reads, posts nor leaves chunks of the two goes on with handing over. -/
lemma HandsOver.go_on {history : List Note} {e : Event} {r : Noted Exchange}
    {source target : ConnectionId} {overtaken : Bool}
    (hhands : x.HandsOver history source target overtaken)
    (hremoved : Note.data .removed source r.2 = []) (hposted : Note.data .posted target r.2 = [])
    (hpending : ∀ i, i = source ∨ i = target → r.1.pending i target = x.pending i target)
    (hidle : ∀ asked, e = .errand source asked → x.pending source target = []) :
    r.1.HandsOver (history ++ r.2) source target (overtaken || x.overtakes source target e) := by
  unfold HandsOver
  rw [Note.data_append, Note.data_append, hremoved, hposted, List.append_nil, List.append_nil,
    hpending source (.inl rfl), hpending target (.inr rfl), overtakes_eq_false hidle,
    Bool.or_false]
  exact hhands

/-- An errand that has nothing for the target may become another such errand. -/
lemma HandsOver.pass {history : List Note} {e : Event} {r : Noted Exchange}
    {source target : ConnectionId} {overtaken : Bool}
    (hhands : x.HandsOver history source target overtaken) {id : ConnectionId} {errand : Errand}
    (hput : r.1.errands = x.errands.put id errand) (hbefore : x.pending id target = [])
    (hafter : errand.chunksFor target = []) (hremoved : Note.data .removed source r.2 = [])
    (hposted : Note.data .posted target r.2 = [])
    (howner : ∀ i asked, e = .errand i asked → i = id) :
    r.1.HandsOver (history ++ r.2) source target (overtaken || x.overtakes source target e) := by
  refine hhands.go_on hremoved hposted (fun i _ => ?_) (fun asked he => ?_)
  · rw [pending_put hput]
    split
    · rename_i he
      rw [he, hbefore, hafter]
    · rfl
  · rw [howner source asked he]
    exact hbefore

/-- Posting a chunk to the target goes on with handing chunks over. -/
lemma HandsOver.post (h : x.Sound) {history : List Note} (k : x.Chronicle history) {n : Nat}
    {p : Pair} {source target : ConnectionId} {overtaken : Bool}
    (hhands : x.HandsOver history source target overtaken)
    (hp : x.forwarder.table.pairs.get? n = some p) (hsource : p.source = some source)
    (htarget : p.target = some target) {id : ConnectionId} {asked : Bool} {chunk : Bytes}
    {rest : List Bytes} {d : TcpDriver} {r : Noted Exchange}
    (errand : x.errands.get? id = some (.send target (chunk :: rest)))
    (driver : x.drivers.get? target = some d)
    (granted : (d.request (.ofChunk chunk)).1 = true)
    (hput : r.1.errands = x.errands.put id (.send target rest))
    (hnotes : r.2 = (d.step (.request (.ofChunk chunk))).2) :
    r.1.HandsOver (history ++ r.2) source target
      (overtaken || x.overtakes source target (.errand id asked)) := by
  have hapart : source ≠ target := fun he => h.table.apart hp hsource (he ▸ htarget)
  have hpending : x.pending id target = chunk :: rest := by
    simp [pending_of_some errand, Errand.chunksFor]
  have hside : id = target ∨ id = source := by
    by_cases hself : id = target
    · exact .inl hself
    · exact .inr (source_of_posting h hp hsource htarget errand hself)
  -- the chunk was read, so it is not empty and is really posted
  have hmem : chunk ∈ Note.data .removed source history := by
    refine hhands.complete.subset ?_
    rcases hside with rfl | rfl <;> simp [hpending]
  have hchunk : chunk ≠ [] := fun he => k.full (he ▸ hmem)
  have hposted : Note.data .posted target r.2 = [chunk] := by
    have hsome := TcpDriver.posted_request hchunk granted
    rwa [(h.driver driver).1, ← hnotes] at hsome
  have hremoved : Note.data .removed source r.2 = [] := by
    rw [hnotes]
    exact (TcpDriver.data_request d _ source).1
  unfold HandsOver at hhands ⊢
  rw [Note.data_append, Note.data_append, hremoved, hposted, List.append_nil, pending_put hput,
    pending_put hput]
  rcases hside with rfl | rfl
  · have hnone : x.overtakes source id (.errand id asked) = false :=
      overtakes_eq_false fun _ he => absurd (Event.errand.inj he).1.symm hapart
    rw [hnone, Bool.or_false, if_pos rfl, if_neg hapart, Errand.chunksFor, if_pos rfl]
    rw [hpending] at hhands
    exact hhands.post_held
  · obtain ⟨d', hd', hs⟩ := h.busy errand
    obtain rfl : rest = [] := by
      rcases hs with ⟨he, -⟩ | ⟨-, -, hlength⟩
      · exact absurd he.symm hapart
      · simpa using hlength
    have hover : x.overtakes id target (.errand id asked) =
        !(x.pending target target).isEmpty := by
      simp [overtakes, hpending]
    rw [hover, if_neg (Ne.symm hapart), if_pos rfl, Errand.chunksFor, if_pos rfl]
    rw [hpending] at hhands
    exact hhands.post_direct

/-- Posting a chunk goes on with handing chunks over. -/
lemma HandsOver.posting (h : x.Sound) {history : List Note} (k : x.Chronicle history) {e : Event}
    {r : Noted Exchange} (posting : Posting x e r) {n : Nat} {p : Pair}
    {source target : ConnectionId} {overtaken : Bool}
    (hhands : x.HandsOver history source target overtaken)
    (hp : x.forwarder.table.pairs.get? n = some p) (hsource : p.source = some source)
    (htarget : p.target = some target)
    (hopen : ∀ d, x.drivers.get? target = some d → d.mailbox.isOpen = true) :
    r.1.HandsOver (history ++ r.2) source target
      (overtaken || x.overtakes source target e) := by
  have hothers {other : ConnectionId} (hother : other ≠ target) (chunks : List Bytes) :
      (Errand.send other chunks).chunksFor target = [] := by
    rw [Errand.chunksFor, if_neg hother]
  have howner {id : ConnectionId} {asked : Bool} (i : ConnectionId) (asked' : Bool)
      (he : Event.errand id asked = .errand i asked') : i = id := (Event.errand.inj he).1.symm
  cases posting with
  | post id asked other chunk rest d errand driver granted =>
    have hdata := TcpDriver.data_request d (.ofChunk chunk)
    by_cases hother : other = target
    · subst hother
      exact hhands.post h k hp hsource htarget errand driver granted rfl rfl
    · have hbefore : x.pending id target = [] := by
        rw [pending_of_some errand, hothers hother]
      refine hhands.pass rfl hbefore (hothers hother rest) (hdata source).1 ?_ howner
      exact (hdata target).2 fun he => hother ((h.driver driver).1.symm.trans he.symm)
  | lose id asked other chunk rest errand refused =>
    have hother : other ≠ target := by
      rintro rfl
      obtain ⟨d, hd, -⟩ := h.target hp htarget
      exact absurd (refused d hd) (by simp [TcpDriver.granted_of_isOpen (hopen d hd) chunk])
    have hbefore : x.pending id target = [] := by
      rw [pending_of_some errand, hothers hother]
    exact hhands.pass rfl hbefore rfl rfl rfl howner

/-- A target that joins its pair starts to hand over what is held. -/
lemma handsOver_join (h : x.Sound) {history : List Note} (k : x.Chronicle history)
    {target : ConnectionId} {d : TcpDriver} {p : Pair} {source : ConnectionId} {x' : Exchange}
    (driver : x.drivers.get? target = some d) (free : x.errands.get? target = none)
    (phase : d.phase = .opening)
    (pair : x.forwarder.table.pairs.get? d.connection.identity.token = some p)
    (hsource : p.source = some source)
    (hheld : x.Withheld history d.connection.identity.token)
    (hput : x'.errands = x.errands.put target (.send target p.held)) :
    x'.HandsOver history source target false := by
  have hstands := (h.unlisted driver phase free).1
  have hapart : source ≠ target := fun he =>
    hstands (he ▸ h.listed (h.table.source pair hsource))
  -- nobody sends to a target that is not there yet
  have hdirect : x.pending source target = [] := by
    cases found : x.errands.get? source with
    | none => exact pending_of_none found target
    | some errand =>
      rw [pending_of_some found]
      cases errand with
      | send other chunks =>
        rw [Errand.chunksFor, if_neg]
        rintro rfl
        obtain ⟨_, -, hsits, -⟩ := h.relaying found hapart.symm
        exact hstands hsits
      | _ => rfl
  unfold HandsOver
  rw [k.silent hstands, pending_put hput, pending_put hput, if_pos rfl, if_neg hapart, hdirect,
    Errand.chunksFor, if_pos rfl, hheld pair hsource]
  exact .start _

/-- A chunk that is relayed goes on with handing chunks over: one of the source is read and about to
be posted directly, and no other one is for the target. -/
lemma HandsOver.relay (h : x.Sound) {history : List Note} {n : Nat} {p : Pair}
    {source target : ConnectionId} {overtaken : Bool}
    (hhands : x.HandsOver history source target overtaken)
    (hp : x.forwarder.table.pairs.get? n = some p) (hsource : p.source = some source)
    (htarget : p.target = some target) {id : ConnectionId} {d : TcpDriver} {r : Noted Exchange}
    (driver : x.drivers.get? id = some d) (free : x.errands.get? id = none)
    (hput : r.1.errands = x.errands.put id (x.forwarder.received id d.received.data).1)
    (hnotes : r.2 = [.removed d.id d.received.data]) :
    r.1.HandsOver (history ++ r.2) source target
      (overtaken || x.overtakes source target (.consult id)) := by
  have hremoved := removed_relay h driver source
  rw [← hnotes] at hremoved
  have hposted : Note.data .posted target r.2 = [] := by
    rw [hnotes]
    rfl
  by_cases hid : source = id
  · subst hid
    have hforward : (x.forwarder.received source d.received.data).1 =
        .send target [d.received.data] := by
      unfold Forwarder.received
      rw [PairTable.relay_of_target (h.table.source hp hsource) hp hsource htarget]
    have hapart : target ≠ source := fun he => h.table.apart hp hsource (he ▸ htarget)
    have hnone : x.overtakes source target (.consult source) = false := rfl
    unfold HandsOver at hhands ⊢
    rw [pending_of_none free] at hhands
    rw [Note.data_append, Note.data_append, hremoved, hposted, if_pos rfl, List.append_nil,
      pending_put hput, pending_put hput, if_pos rfl, if_neg hapart, hforward, Errand.chunksFor,
      if_pos rfl, hnone, Bool.or_false]
    exact hhands.read_concat d.received.data
  · rw [if_neg hid] at hremoved
    refine hhands.pass hput (pending_of_none free target) ?_ hremoved hposted fun i asked he => ?_
    · rcases x.forwarder.fst_received_cases id d.received.data with
        ⟨answer, he⟩ | ⟨m, q, other, hm, hq, hother, he⟩
      · rw [he]
        rfl
      · -- only the source has the target on its other side
        rw [he, Errand.chunksFor, if_neg]
        rintro rfl
        obtain ⟨-, hlisted, hsides⟩ := h.table.across_cases hm hq hother
        obtain rfl := Option.some.inj (hlisted.symm.trans (h.table.target hp htarget))
        obtain rfl := Option.some.inj (hq.symm.trans hp)
        rcases hsides with ⟨hs, -⟩ | ⟨hs, -⟩
        · exact hid (Option.some.inj (hsource.symm.trans hs))
        · exact h.table.apart hp hs htarget
    · cases he

/-- A turn at the table goes on with handing chunks over, or starts it. -/
lemma handsOver_turn (h : x.Sound) {history : List Note} (k : x.Chronicle history) {e : Event}
    {r : Noted Exchange} (turn : Turn x e r) {n : Nat} {q : Pair} {source target : ConnectionId}
    {overtaken : Bool} (hq : r.1.forwarder.table.pairs.get? n = some q)
    (hsource : q.source = some source) (htarget : q.target = some target)
    (hhands : ∀ p, x.forwarder.table.pairs.get? n = some p → p.source = some source →
      p.target = some target → x.HandsOver history source target overtaken)
    (hheld : x.Awaits n → x.Withheld history n)
    (hfresh : ¬ x.Sits target → overtaken = false) :
    r.1.HandsOver (history ++ r.2) source target
      (overtaken || x.overtakes source target e) := by
  have howner {id : ConnectionId} (i : ConnectionId) (asked : Bool)
      (he : Event.consult id = .errand i asked) : i = id := by cases he
  cases turn with
  | enter id d port driver free phase opening =>
    simp only [PairTable.enter, Table.get?_put] at hq
    split at hq
    · obtain rfl := Option.some.inj hq
      cases htarget
    · exact (hhands q hq hsource htarget).pass rfl (pending_of_none free target) rfl rfl rfl
        howner
  | join id d p driver free phase opening pair =>
    simp only [Table.get?_put] at hq
    split at hq
    · rename_i hn
      subst hn
      obtain rfl := Option.some.inj hq
      obtain rfl := Option.some.inj htarget
      rw [hfresh (h.unlisted driver phase free).1, List.append_nil]
      exact handsOver_join h k driver free phase pair hsource
        (hheld (awaits_of_opening h driver free phase opening)) rfl
    · have hother : id ≠ target := by
        rintro rfl
        exact (h.unlisted driver phase free).1 (h.listed (h.table.target hq htarget))
      refine (hhands q hq hsource htarget).pass rfl (pending_of_none free target) ?_ rfl rfl
        howner
      rw [Errand.chunksFor, if_neg hother]
  | relay id d driver free phase =>
    dsimp only at hq
    rw [x.forwarder.snd_received] at hq
    have hsame : x.forwarder.table.pairs.get? n = some q := by
      rcases PairTable.get?_pairs_relay hq with hq | ⟨p, -, -, hnone, rfl⟩
      · exact hq
      · rw [(PairTable.sides_hold p _ _).2, hnone] at htarget
        cases htarget
    exact (hhands q hsame hsource htarget).relay h hsame hsource htarget driver free rfl rfl
  | leave id d driver free phase =>
    dsimp only at hq
    rw [x.forwarder.snd_closed] at hq
    have hafter : (x.forwarder.closed id).1.chunksFor target = [] := by
      rcases x.forwarder.fst_closed_cases id with ⟨other, he⟩ | he <;> rw [he] <;> rfl
    rcases PairTable.get?_pairs_leave h.table hq with ⟨-, hq⟩ | ⟨p, -, hp, rfl, -⟩
    · exact (hhands q hq hsource htarget).pass rfl (pending_of_none free target) hafter rfl rfl
        howner
    · refine (hhands p hp (PairTable.source_without hsource).1
        (PairTable.target_without (h.table.apart hp) htarget).1).pass rfl
        (pending_of_none free target) hafter rfl rfl howner

/-! ### Whole runs -/

/-- The history of an exchange is its chronicle. -/
lemma chronicle_run (h : x.Sound) (k : x.Chronicle []) (es : List Event) :
    (x.run es).1.Chronicle (x.run es).2 := by
  induction es using List.reverseRecOn with
  | nil => exact k
  | append_singleton es e ih =>
    rw [run_concat]
    exact ih.step (sound_run h es) e

/-- Nothing has happened yet to an exchange that serves nobody. -/
lemma chronicle_ofForwarder (f : Forwarder) (chunkSize : Nat) (linger : Option Nat) :
    (ofForwarder f chunkSize linger).Chronicle [] where
  silent _ := rfl
  unread _ := rfl
  full h := by cases h

/-- Before the target of a pair has been at the table all chunks are held, and once it is there they
are handed over. -/
lemma withheld_or_handsOver_run (h : x.Sound) (k : x.Chronicle [])
    {n : Nat} (hnew : x.forwarder.table.pairs.get? n = none) (es : List Event)
    (hlimit : ∀ fs, fs <+: es → (x.run fs).1.exceeds n = false) :
    ((x.run es).1.Awaits n → (x.run es).1.Withheld (x.run es).2 n) ∧
      ∀ p source target, (x.run es).1.forwarder.table.pairs.get? n = some p →
        p.source = some source → p.target = some target →
        (∀ d, (x.run es).1.drivers.get? target = some d → d.mailbox.isOpen = true) →
        (x.run es).1.HandsOver (x.run es).2 source target (x.overtaken source target es) := by
  induction es using List.reverseRecOn with
  | nil =>
    exact ⟨fun _ _ _ hp => by simp [run, hnew] at hp,
      fun _ _ _ hp => by simp [run, hnew] at hp⟩
  | append_singleton es e ih =>
    obtain ⟨hheld, hhands⟩ := ih fun fs hfs => hlimit fs (hfs.trans (List.prefix_append es [e]))
    have hnow := hlimit (es ++ [e]) (List.prefix_refl _)
    have hsound := sound_run h es
    have hchronicle := chronicle_run h k es
    simp only [run_concat] at hnow ⊢
    refine ⟨fun hawaits => ?_, fun q source target hq hsource htarget hopen => ?_⟩
    · exact withheld_step hsound hchronicle hawaits hnow (hheld (awaits_of_step hsound hawaits))
    · have hopened (d : TcpDriver) (hd : (x.run es).1.drivers.get? target = some d) :
          d.mailbox.isOpen = true := by
        obtain ⟨d', hd', -, -, hback⟩ := driver_step hsound e hd
        exact hback (hopen d' hd')
      rw [overtaken_concat]
      rcases quiet_step hsound e with quiet | turn | posting
      · rw [quiet.forwarder] at hq
        refine (hhands q source target hq hsource htarget hopened).go_on (quiet.removed source)
          (quiet.posted target) (fun i _ => quiet.pending i target) fun asked he => ?_
        exact quiet.idle he target
      · exact handsOver_turn hsound hchronicle turn hq hsource htarget
          (fun p hp hs ht => hhands p source target hp hs ht hopened) hheld
          (overtaken_eq_false h source es)
      · rw [posting.forwarder] at hq
        exact (hhands q source target hq hsource htarget hopened).posting hsound hchronicle posting
          hq hsource htarget hopened

/-- The chunks that a forwarder reads from the client of a pair are posted to its target or about to
be, each once, as long as the target's mailbox is open and no more was held than may be.  They come
in the order in which they were read if the client never posts one while its target has held ones
left, and otherwise only if some of them are equal. -/
theorem handed_over (f : Forwarder) (chunkSize : Nat) (linger : Option Nat) (es : List Event)
    {n : Nat} {p : Pair} {source target : ConnectionId} {d : TcpDriver}
    (hlimit : ∀ fs, fs <+: es → ((ofForwarder f chunkSize linger).run fs).1.exceeds n = false)
    (hp : ((ofForwarder f chunkSize linger).run es).1.forwarder.table.pairs.get? n = some p)
    (hsource : p.source = some source) (htarget : p.target = some target)
    (hd : ((ofForwarder f chunkSize linger).run es).1.drivers.get? target = some d)
    (hopen : d.mailbox.isOpen = true) :
    let start := ofForwarder f chunkSize linger
    let (x, history) := start.run es
    let read := Note.data .removed source history
    let posted := Note.data .posted target history
    let held := x.pending target target
    let direct := x.pending source target
    Handed read posted held direct (start.overtaken source target es) ∧
      (read.Nodup →
        (posted ++ held ++ direct = read ↔ start.overtaken source target es = false)) := by
  have hhands := (withheld_or_handsOver_run (sound_ofForwarder f chunkSize linger)
    (chronicle_ofForwarder f chunkSize linger) rfl es hlimit).2 p source target hp hsource htarget
    fun d' hd' => Option.some.inj (hd.symm.trans hd') ▸ hopen
  exact ⟨hhands, hhands.eq_read_iff⟩

/-- A forwarder to port 80 that holds up to eight bytes. -/
def crossing : Forwarder :=
  { attached := true, targetHost := "target", targetPort := 80, maxHeld := 8, deadline := none }

/-- A client sends a chunk that is held, its target joins, and it sends another chunk, which is
looked up; both calls are now about to post what they have. -/
def meeting : List Event :=
  let here : Endpoint := ⟨.loopback, 80⟩
  [.accept ⟨1⟩ 80 here here, .consult ⟨1⟩, .errand ⟨1⟩ true, .errand ⟨1⟩ true, .errand ⟨1⟩ true,
    .drive ⟨1⟩ (.readDone (.ok [1])), .consult ⟨1⟩, .errand ⟨1⟩ true, .targetUp 1 ⟨2⟩ here here,
    .consult ⟨2⟩, .drive ⟨1⟩ (.readDone (.ok [2])), .consult ⟨1⟩]

/-- If the target posts first, the chunks come in order. -/
theorem handed_over_in_turn :
    let es := meeting ++ [.errand ⟨2⟩ true, .errand ⟨1⟩ true]
    let (x, history) := (ofForwarder crossing 512 none).run es
    Note.data .posted ⟨2⟩ history = [[1], [2]] ∧
      Note.data .posted ⟨2⟩ history ++ x.pending ⟨2⟩ ⟨2⟩ ++ x.pending ⟨1⟩ ⟨2⟩ =
        Note.data .removed ⟨1⟩ history := by
  intro es
  have hlimit (fs : List Event) (hfs : fs <+: es) :
      ((ofForwarder crossing 512 none).run fs).1.exceeds 1 = false := by
    have hall : ∀ fs ∈ es.inits, ((ofForwarder crossing 512 none).run fs).1.exceeds 1 = false := by
      decide +kernel
    exact hall fs ((List.mem_inits fs es).mpr hfs)
  have hp : ((ofForwarder crossing 512 none).run es).1.forwarder.table.pairs.get? 1 =
      some { source := some ⟨1⟩, target := some ⟨2⟩ } := by
    decide +kernel
  have hmailbox : (((ofForwarder crossing 512 none).run es).1.drivers.get? ⟨2⟩).map
      (·.mailbox.isOpen) = some true := by
    decide +kernel
  obtain ⟨d, hd, hopen⟩ := Option.map_eq_some_iff.mp hmailbox
  have h := (handed_over crossing 512 none es hlimit hp rfl rfl hd hopen).1.ordered
  exact ⟨by decide +kernel, h (by decide +kernel)⟩

/-- If the client posts first, its second chunk overtakes its first: when all calls have been
answered, with both connections open and never more held than may be, the target is given them the
wrong way round. -/
theorem overtaken_run :
    let es := meeting ++ [.errand ⟨1⟩ true, .errand ⟨2⟩ true, .errand ⟨2⟩ true, .errand ⟨2⟩ true,
      .errand ⟨1⟩ true, .errand ⟨1⟩ true]
    let (x, history) := (ofForwarder crossing 512 none).run es
    (∀ fs ∈ es.inits, ((ofForwarder crossing 512 none).run fs).1.exceeds 1 = false) ∧
      x.forwarder.table.pairs.get? 1 = some { source := some ⟨1⟩, target := some ⟨2⟩ } ∧
      (∀ id ∈ [⟨1⟩, ⟨2⟩], (x.drivers.get? id).any (·.mailbox.isOpen) = true) ∧
      x.errands = [] ∧
      Note.data .removed ⟨1⟩ history = [[1], [2]] ∧ Note.data .posted ⟨2⟩ history = [[2], [1]] := by
  intro es
  exact ⟨by decide +kernel, by decide +kernel, by decide +kernel, by decide +kernel,
    by decide +kernel, by decide +kernel⟩

end Exchange

end Proxy

end Switchboard
