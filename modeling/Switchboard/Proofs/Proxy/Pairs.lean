import Mathlib.Tactic.Common
import Switchboard.Proxy.Pair

/-!
# The two halves of the table of pairs

The table of pairs knows the sides of each pair and, the other way round, the pair of each
connection. `PairTable.Consistent` says that the two halves tell the same: a connection is listed
under a number exactly if it is a side of that pair, so no connection is in two pairs, and every
pair has a side.

Each operation of the table is described by its outcomes (`PairTable.join_cases`,
`PairTable.relay_cases`, `PairTable.leave_cases`), and each keeps the halves consistent.
-/

namespace Switchboard.Proxy

namespace PairTable

variable {t : PairTable}

/-- The two halves of a table tell the same. -/
structure Consistent (t : PairTable) : Prop where
  /-- A listed connection is a side of its pair. -/
  listed : ∀ {id n}, t.byConnection.get? id = some n →
    ∃ p, t.pairs.get? n = some p ∧ (p.source = some id ∨ p.target = some id)
  /-- The source of a pair is listed under it. -/
  source : ∀ {n p id}, t.pairs.get? n = some p → p.source = some id →
    t.byConnection.get? id = some n
  /-- The target of a pair is listed under it. -/
  target : ∀ {n p id}, t.pairs.get? n = some p → p.target = some id →
    t.byConnection.get? id = some n
  /-- The two sides of a pair are two connections. -/
  apart : ∀ {n p id}, t.pairs.get? n = some p → p.source = some id → p.target ≠ some id
  /-- Every pair has a side. -/
  occupied : ∀ {n p}, t.pairs.get? n = some p → p.source = none → p.target ≠ none

/-- An empty table is consistent. -/
lemma consistent_empty : ({} : PairTable).Consistent where
  listed h := by simp at h
  source h := by simp at h
  target h := by simp at h
  apart h := by simp at h
  occupied h := by simp at h

/-- A pair may be changed in all but its sides. -/
lemma Consistent.put (h : t.Consistent) {n : Nat} {p q : Pair} (hp : t.pairs.get? n = some p)
    (hsource : q.source = p.source) (htarget : q.target = p.target) :
    ({ t with pairs := t.pairs.put n q } : PairTable).Consistent := by
  have hget {m : Nat} {r : Pair} (hr : (t.pairs.put n q).get? m = some r) :
      ∃ r', t.pairs.get? m = some r' ∧ r.source = r'.source ∧ r.target = r'.target := by
    rw [Table.get?_put] at hr
    split at hr
    · rename_i hm
      obtain rfl := Option.some.inj hr
      exact ⟨p, hm ▸ hp, hsource, htarget⟩
    · exact ⟨r, hr, rfl, rfl⟩
  constructor
  case listed =>
    intro id m hid
    obtain ⟨r, hr, hside⟩ := h.listed hid
    by_cases hm : m = n
    · subst hm
      obtain rfl := Option.some.inj (hp.symm.trans hr)
      exact ⟨q, by simp [Table.get?_put], by rwa [hsource, htarget]⟩
    · exact ⟨r, by simpa [Table.get?_put, hm] using hr, hside⟩
  case source =>
    intro m r id hr hs
    obtain ⟨r', hr', hs', -⟩ := hget hr
    exact h.source hr' (hs' ▸ hs)
  case target =>
    intro m r id hr hs
    obtain ⟨r', hr', -, ht'⟩ := hget hr
    exact h.target hr' (ht' ▸ hs)
  case apart =>
    intro m r id hr hs
    obtain ⟨r', hr', hs', ht'⟩ := hget hr
    rw [ht']
    exact h.apart hr' (hs' ▸ hs)
  case occupied =>
    intro m r hr hs
    obtain ⟨r', hr', hs', ht'⟩ := hget hr
    rw [ht']
    exact h.occupied hr' (hs' ▸ hs)

/-- A connection that is not listed is not a side of any pair. -/
lemma Consistent.not_side (h : t.Consistent) {id : ConnectionId}
    (hid : t.byConnection.get? id = none) {n : Nat} {p : Pair} (hp : t.pairs.get? n = some p) :
    p.source ≠ some id ∧ p.target ≠ some id :=
  ⟨fun hs => by simp [h.source hp hs] at hid, fun ht => by simp [h.target hp ht] at hid⟩

/-! ### Entering -/

/-- A new client with a new number may be entered. -/
lemma Consistent.enter (h : t.Consistent) {n : Nat} {source : ConnectionId}
    (hn : t.pairs.get? n = none) (hsource : t.byConnection.get? source = none) :
    (t.enter n source).Consistent := by
  have hold {m : Nat} {p : Pair} (hp : (t.enter n source).pairs.get? m = some p) :
      m = n ∧ p = { source := some source } ∨ m ≠ n ∧ t.pairs.get? m = some p := by
    simp only [PairTable.enter, Table.get?_put] at hp
    split at hp
    · exact .inl ⟨‹_›, (Option.some.inj hp).symm⟩
    · exact .inr ⟨‹_›, hp⟩
  have hlisted {id : ConnectionId} {m : Nat} (hid : t.byConnection.get? id = some m) :
      (t.enter n source).byConnection.get? id = some m := by
    have hne : id ≠ source := fun he => by simp [← he, hid] at hsource
    simpa [PairTable.enter, Table.get?_put, hne] using hid
  constructor
  case listed =>
    intro id m hid
    simp only [PairTable.enter, Table.get?_put] at hid ⊢
    split at hid
    · rename_i he
      obtain rfl := Option.some.inj hid
      exact ⟨_, if_pos rfl, .inl (by rw [he])⟩
    · obtain ⟨p, hp, hside⟩ := h.listed hid
      have hm : m ≠ n := fun he => by simp [he, hn] at hp
      exact ⟨p, by rwa [if_neg hm], hside⟩
  case source =>
    intro m p id hp hs
    rcases hold hp with ⟨rfl, rfl⟩ | ⟨-, hp⟩
    · obtain rfl := Option.some.inj hs
      simp [PairTable.enter, Table.get?_put]
    · exact hlisted (h.source hp hs)
  case target =>
    intro m p id hp ht
    rcases hold hp with ⟨rfl, rfl⟩ | ⟨-, hp⟩
    · cases ht
    · exact hlisted (h.target hp ht)
  case apart =>
    intro m p id hp hs
    rcases hold hp with ⟨rfl, rfl⟩ | ⟨-, hp⟩
    · simp
    · exact h.apart hp hs
  case occupied =>
    intro m p hp hs
    rcases hold hp with ⟨rfl, rfl⟩ | ⟨-, hp⟩
    · cases hs
    · exact h.occupied hp hs

/-! ### Joining -/

/-- The pair that a target joined. -/
def joined (p : Pair) (target : ConnectionId) : Pair :=
  { p with target := some target, held := [], offered := 0 }

/-- A target joins a pair that is there and is given what is held for it. -/
lemma join_cases (t : PairTable) (n : Nat) (target : ConnectionId) :
    t.pairs.get? n = none ∧ t.join n target = none ∨
      ∃ p, t.pairs.get? n = some p ∧
        t.join n target = some (p.held,
          { pairs := t.pairs.put n (joined p target)
            byConnection := t.byConnection.put target n }) := by
  unfold join
  cases hp : t.pairs.get? n with
  | none => exact .inl ⟨rfl, rfl⟩
  | some p => exact .inr ⟨p, rfl, rfl⟩

/-- A new connection may join a pair that has no target. -/
lemma Consistent.join (h : t.Consistent) {n : Nat} {p : Pair} {target : ConnectionId}
    (hp : t.pairs.get? n = some p) (hnone : p.target = none)
    (htarget : t.byConnection.get? target = none) :
    ({ pairs := t.pairs.put n (joined p target)
       byConnection := t.byConnection.put target n } : PairTable).Consistent := by
  have hold {m : Nat} {q : Pair} (hq : (t.pairs.put n (joined p target)).get? m = some q) :
      m = n ∧ q = joined p target ∨ m ≠ n ∧ t.pairs.get? m = some q := by
    rw [Table.get?_put] at hq
    split at hq
    · exact .inl ⟨‹_›, (Option.some.inj hq).symm⟩
    · exact .inr ⟨‹_›, hq⟩
  have hlisted {id : ConnectionId} {m : Nat} (hid : t.byConnection.get? id = some m) :
      (t.byConnection.put target n).get? id = some m := by
    have hne : id ≠ target := fun he => by simp [← he, hid] at htarget
    simpa [Table.get?_put, hne] using hid
  constructor
  case listed =>
    intro id m hid
    simp only [Table.get?_put] at hid ⊢
    split at hid
    · rename_i he
      obtain rfl := Option.some.inj hid
      exact ⟨_, if_pos rfl, .inr (by rw [he]; rfl)⟩
    · obtain ⟨q, hq, hside⟩ := h.listed hid
      by_cases hm : m = n
      · subst hm
        obtain rfl := Option.some.inj (hp.symm.trans hq)
        refine ⟨_, if_pos rfl, .inl ?_⟩
        exact hside.elim (fun hs => hs) fun ht => by simp [hnone] at ht
      · exact ⟨q, by rwa [if_neg hm], hside⟩
  case source =>
    intro m q id hq hs
    rcases hold hq with ⟨rfl, rfl⟩ | ⟨-, hq⟩
    · exact hlisted (h.source hp hs)
    · exact hlisted (h.source hq hs)
  case target =>
    intro m q id hq ht
    rcases hold hq with ⟨rfl, rfl⟩ | ⟨-, hq⟩
    · obtain rfl := Option.some.inj ht
      simp [Table.get?_put]
    · exact hlisted (h.target hq ht)
  case apart =>
    intro m q id hq hs
    rcases hold hq with ⟨rfl, rfl⟩ | ⟨-, hq⟩
    · intro ht
      obtain rfl := Option.some.inj ht
      exact (h.not_side htarget hp).1 hs
    · exact h.apart hq hs
  case occupied =>
    intro m q hq hs
    rcases hold hq with ⟨rfl, rfl⟩ | ⟨-, hq⟩
    · simp [joined]
    · exact h.occupied hq hs

/-! ### Relaying -/

/-- A chunk is refused, goes to the other side, or is offered to the pair to be held. -/
lemma relay_cases (t : PairTable) (id : ConnectionId) (chunk : Bytes) (limit : Nat) :
    t.relay id chunk limit = (.refused, t) ∨
      (∃ n p other, t.byConnection.get? id = some n ∧ t.pairs.get? n = some p ∧
        p.across id = some other ∧ t.relay id chunk limit = (.forward other, t)) ∨
      ∃ n p, t.byConnection.get? id = some n ∧ t.pairs.get? n = some p ∧
        p.source = some id ∧ p.target = none ∧
        t.relay id chunk limit = (if (p.hold chunk limit).1 then .held else .refused,
          { t with pairs := t.pairs.put n (p.hold chunk limit).2 }) := by
  unfold relay
  split
  · exact .inl rfl
  · rename_i n hn
    split
    · exact .inl rfl
    · rename_i p hp
      split
      · rename_i other hother
        exact .inr (.inl ⟨n, p, other, hn, hp, hother, rfl⟩)
      · rename_i hnone
        split
        · rename_i hsource
          have htarget : p.target = none := by simpa [Pair.across, hsource] using hnone
          exact .inr (.inr ⟨n, p, hn, hp, hsource, htarget, rfl⟩)
        · exact .inl rfl

/-- A chunk of the source goes to the target if there is one. -/
lemma relay_of_target {id other : ConnectionId} {n : Nat} {p : Pair}
    (hid : t.byConnection.get? id = some n) (hp : t.pairs.get? n = some p)
    (hsource : p.source = some id) (htarget : p.target = some other) (chunk : Bytes)
    (limit : Nat) : t.relay id chunk limit = (.forward other, t) := by
  simp [relay, hid, hp, Pair.across, hsource, htarget]

/-- A chunk of another side goes to the source if there is one. -/
lemma relay_of_source {id other : ConnectionId} {n : Nat} {p : Pair}
    (hid : t.byConnection.get? id = some n) (hp : t.pairs.get? n = some p)
    (hself : p.source ≠ some id) (hsource : p.source = some other) (chunk : Bytes) (limit : Nat) :
    t.relay id chunk limit = (.forward other, t) := by
  have hacross : p.across id = some other := by
    rw [Pair.across, if_neg hself, hsource]
  simp [relay, hid, hp, hacross]

/-- A chunk of the source is offered to the pair if there is no target. -/
lemma relay_of_waiting {id : ConnectionId} {n : Nat} {p : Pair}
    (hid : t.byConnection.get? id = some n) (hp : t.pairs.get? n = some p)
    (hsource : p.source = some id) (htarget : p.target = none) (chunk : Bytes) (limit : Nat) :
    t.relay id chunk limit = (if (p.hold chunk limit).1 then .held else .refused,
      { t with pairs := t.pairs.put n (p.hold chunk limit).2 }) := by
  simp [relay, hid, hp, Pair.across, hsource, htarget]

/-- Relaying a chunk lists nobody anew. -/
lemma byConnection_relay (t : PairTable) (id : ConnectionId) (chunk : Bytes) (limit : Nat) :
    (t.relay id chunk limit).2.byConnection = t.byConnection := by
  rcases t.relay_cases id chunk limit with hr | ⟨_, _, _, -, -, -, hr⟩ | ⟨_, _, -, -, -, -, hr⟩ <;>
    rw [hr]

/-- The pairs after a chunk was relayed are the same, but the pair of a source without a target was
offered the chunk. -/
lemma get?_pairs_relay {id : ConnectionId} {chunk : Bytes} {limit n : Nat} {q : Pair}
    (hq : (t.relay id chunk limit).2.pairs.get? n = some q) :
    t.pairs.get? n = some q ∨
      ∃ p, t.pairs.get? n = some p ∧ p.source = some id ∧ p.target = none ∧
        q = (p.hold chunk limit).2 := by
  rcases t.relay_cases id chunk limit with
    hr | ⟨_, _, _, -, -, -, hr⟩ | ⟨m, p, -, hp, hsource, htarget, hr⟩
  · exact .inl (by rwa [hr] at hq)
  · exact .inl (by rwa [hr] at hq)
  · rw [hr, Table.get?_put] at hq
    split at hq
    · rename_i he
      exact .inr ⟨p, he ▸ hp, hsource, htarget, (Option.some.inj hq).symm⟩
    · exact .inl hq

/-- The other side of a source is the target, and that of a target the source. -/
lemma Consistent.across_cases (h : t.Consistent) {n : Nat} {p : Pair}
    {id other : ConnectionId} (hid : t.byConnection.get? id = some n)
    (hp : t.pairs.get? n = some p) (hother : p.across id = some other) :
    other ≠ id ∧ t.byConnection.get? other = some n ∧
      (p.source = some id ∧ p.target = some other ∨
        p.source = some other ∧ p.target = some id) := by
  unfold Pair.across at hother
  split at hother
  · rename_i hs
    exact ⟨fun he => h.apart hp hs (he ▸ hother), h.target hp hother, .inl ⟨hs, hother⟩⟩
  · rename_i hs
    obtain ⟨q, hq, hside⟩ := h.listed hid
    obtain rfl := Option.some.inj (hp.symm.trans hq)
    exact ⟨fun he => hs (he ▸ hother), h.source hp hother,
      .inr ⟨hother, hside.resolve_left hs⟩⟩

/-- Holding a chunk does not change the sides of a pair. -/
lemma sides_hold (p : Pair) (chunk : Bytes) (limit : Nat) :
    (p.hold chunk limit).2.source = p.source ∧ (p.hold chunk limit).2.target = p.target := by
  unfold Pair.hold
  dsimp only
  split <;> exact ⟨rfl, rfl⟩

/-- Within the limit, a chunk is held after those that are. -/
lemma held_hold {p : Pair} {chunk : Bytes} {limit : Nat}
    (hlimit : (p.hold chunk limit).2.offered ≤ limit) :
    (p.hold chunk limit).2.held = p.held ++ [chunk] := by
  rw [Pair.offered_hold] at hlimit
  unfold Pair.hold
  dsimp only
  rw [if_neg (Nat.not_lt.mpr hlimit)]

/-- Relaying a chunk keeps the halves consistent. -/
lemma Consistent.relay (h : t.Consistent) (id : ConnectionId) (chunk : Bytes) (limit : Nat) :
    (t.relay id chunk limit).2.Consistent := by
  rcases t.relay_cases id chunk limit with hr | ⟨_, _, _, -, -, -, hr⟩ | ⟨n, p, -, hp, -, -, hr⟩
  · rwa [hr]
  · rwa [hr]
  · rw [hr]
    exact h.put hp (sides_hold p chunk limit).1 (sides_hold p chunk limit).2

/-! ### Leaving -/

/-- A connection leaves its pair, which is removed if no side is left. -/
lemma leave_cases (h : t.Consistent) (id : ConnectionId) :
    t.byConnection.get? id = none ∧ t.leave id = (none, t) ∨
      ∃ n p, t.byConnection.get? id = some n ∧ t.pairs.get? n = some p ∧
        t.leave id = ((p.without id).either,
          { pairs := if (p.without id).either = none then t.pairs.erase n
              else t.pairs.put n (p.without id)
            byConnection := t.byConnection.erase id }) := by
  unfold leave
  cases hid : t.byConnection.get? id with
  | none => exact .inl ⟨rfl, rfl⟩
  | some n =>
    obtain ⟨p, hp, -⟩ := h.listed hid
    refine .inr ⟨n, p, rfl, hp, ?_⟩
    simp only [hp]
    cases heither : (p.without id).either <;> simp

/-- A side that stays was one before, and is another connection than the one that goes. -/
lemma source_without {p : Pair} {id other : ConnectionId}
    (h : (p.without id).source = some other) : p.source = some other ∧ other ≠ id := by
  unfold Pair.without at h
  split at h
  · cases h
  · rename_i hsource
    split at h <;> exact ⟨h, fun he => hsource (he ▸ h)⟩

lemma target_without {p : Pair} {id other : ConnectionId} (hapart : p.source = some id →
    p.target ≠ some id) (h : (p.without id).target = some other) :
    p.target = some other ∧ other ≠ id := by
  unfold Pair.without at h
  split at h
  · rename_i hsource
    exact ⟨h, fun he => hapart hsource (he ▸ h)⟩
  · split at h
    · cases h
    · rename_i htarget
      exact ⟨h, fun he => htarget (he ▸ h)⟩

/-- What is held stays when a side leaves. -/
lemma held_without (p : Pair) (id : ConnectionId) : (p.without id).held = p.held := by
  unfold Pair.without
  split
  · rfl
  · split <;> rfl

/-- What was offered stays when a side leaves. -/
lemma offered_without (p : Pair) (id : ConnectionId) : (p.without id).offered = p.offered := by
  unfold Pair.without
  split
  · rfl
  · split <;> rfl

/-- The other side of a pair stays. -/
lemma side_without {p : Pair} {id other : ConnectionId} (hne : other ≠ id)
    (h : p.source = some other ∨ p.target = some other) :
    (p.without id).source = some other ∨ (p.without id).target = some other := by
  unfold Pair.without
  rcases h with h | h
  · have hsource : p.source ≠ some id := fun he => hne (Option.some.inj (h.symm.trans he))
    rw [if_neg hsource]
    split <;> exact .inl h
  · have htarget : p.target ≠ some id := fun he => hne (Option.some.inj (h.symm.trans he))
    rw [if_neg htarget]
    split <;> exact .inr h

/-- The pairs after a connection left one are the others and, if it has a side left, that one
without the connection. -/
lemma get?_pairs_leave (h : t.Consistent) {id : ConnectionId} {m : Nat} {q : Pair}
    (hq : (t.leave id).2.pairs.get? m = some q) :
    t.byConnection.get? id ≠ some m ∧ t.pairs.get? m = some q ∨
      ∃ p, t.byConnection.get? id = some m ∧ t.pairs.get? m = some p ∧ q = p.without id ∧
        (p.without id).either ≠ none := by
  rcases leave_cases h id with ⟨hid, hleave⟩ | ⟨n, p, hid, hp, hleave⟩
  · rw [hleave] at hq
    exact .inl ⟨by simp [hid], hq⟩
  · rw [hleave] at hq
    by_cases hm : m = n
    · subst hm
      refine .inr ⟨p, hid, hp, ?_⟩
      by_cases hnone : (p.without id).either = none
      · simp [hnone, Table.get?_erase] at hq
      · simp only [hnone, if_false, Table.get?_put, if_true, Option.some.injEq] at hq
        exact ⟨hq.symm, hnone⟩
    · refine .inl ⟨by simpa [hid] using fun he => hm he.symm, ?_⟩
      dsimp only at hq
      split at hq
      · simpa [Table.get?_erase, hm] using hq
      · simpa [Table.get?_put, hm] using hq

/-- The connections that are listed after one left are all others. -/
lemma get?_byConnection_leave (h : t.Consistent) (id other : ConnectionId) :
    (t.leave id).2.byConnection.get? other =
      if other = id then none else t.byConnection.get? other := by
  rcases leave_cases h id with ⟨hid, hleave⟩ | ⟨n, p, hid, hp, hleave⟩
  · rw [hleave]
    split
    · rename_i he
      rw [he, hid]
    · rfl
  · rw [hleave, Table.get?_erase]

/-- A connection that leaves its pair keeps the halves consistent. -/
lemma Consistent.leave (h : t.Consistent) (id : ConnectionId) : (t.leave id).2.Consistent := by
  have hlisted {other : ConnectionId} {m : Nat} (hother : t.byConnection.get? other = some m)
      (hne : other ≠ id) : (t.leave id).2.byConnection.get? other = some m := by
    rw [get?_byConnection_leave h, if_neg hne, hother]
  constructor
  case listed =>
    intro other m hother
    rw [get?_byConnection_leave h] at hother
    split at hother
    · cases hother
    · rename_i hne
      obtain ⟨q, hq, hside⟩ := h.listed hother
      rcases leave_cases h id with ⟨hid, hleave⟩ | ⟨n, p, hid, hp, hleave⟩
      · exact ⟨q, by rwa [hleave], hside⟩
      · by_cases hm : m = n
        · subst hm
          obtain rfl := Option.some.inj (hp.symm.trans hq)
          have hstay := side_without hne hside
          have heither : (p.without id).either ≠ none := by
            unfold Pair.either
            rcases hstay with hstay | hstay
            · simp [hstay]
            · cases hs : (p.without id).source <;> simp [hstay]
          exact ⟨p.without id, by rw [hleave]; simp [heither, Table.get?_put], hstay⟩
        · refine ⟨q, ?_, hside⟩
          rw [hleave]
          dsimp only
          split <;> simpa [Table.get?_erase, Table.get?_put, hm] using hq
  case source =>
    intro m q other hq hs
    rcases get?_pairs_leave h hq with ⟨hid, hq⟩ | ⟨p, hid, hp, rfl, -⟩
    · have hm := h.source hq hs
      exact hlisted hm fun he => hid (he ▸ hm)
    · obtain ⟨hs, hne⟩ := source_without hs
      exact hlisted (h.source hp hs) hne
  case target =>
    intro m q other hq ht
    rcases get?_pairs_leave h hq with ⟨hid, hq⟩ | ⟨p, hid, hp, rfl, -⟩
    · have hm := h.target hq ht
      exact hlisted hm fun he => hid (he ▸ hm)
    · obtain ⟨ht, hne⟩ := target_without (h.apart hp) ht
      exact hlisted (h.target hp ht) hne
  case apart =>
    intro m q other hq hs
    rcases get?_pairs_leave h hq with ⟨hid, hq⟩ | ⟨p, hid, hp, rfl, -⟩
    · exact h.apart hq hs
    · intro ht
      exact h.apart hp (source_without hs).1 (target_without (h.apart hp) ht).1
  case occupied =>
    intro m q hq hs
    rcases get?_pairs_leave h hq with ⟨hid, hq⟩ | ⟨p, hid, hp, rfl, heither⟩
    · exact h.occupied hq hs
    · simpa [Pair.either, hs] using heither

/-! ### Sources -/

/-- Who the source of a pair is. -/
lemma source?_eq_some_iff {n : Nat} {id : ConnectionId} :
    t.source? n = some id ↔ ∃ p, t.pairs.get? n = some p ∧ p.source = some id := by
  simp [source?, Option.bind_eq_some_iff]

/-- A source stays when another connection leaves. -/
lemma source?_leave (h : t.Consistent) {n : Nat} {id source : ConnectionId} (hne : source ≠ id)
    (hsource : t.source? n = some source) : (t.leave id).2.source? n = some source := by
  rcases leave_cases h id with ⟨-, hleave⟩ | ⟨m, p, -, hp, hleave⟩
  · rwa [hleave]
  · rw [hleave]
    obtain ⟨q, hq, hs⟩ := source?_eq_some_iff.mp hsource
    by_cases hm : n = m
    · subst hm
      obtain rfl := Option.some.inj (hp.symm.trans hq)
      have hother : p.source ≠ some id := by simpa [hs] using hne
      have hstay : (p.without id).source = some source := by
        unfold Pair.without
        rw [if_neg hother]
        split <;> exact hs
      have heither : (p.without id).either ≠ none := by simp [Pair.either, hstay]
      exact source?_eq_some_iff.mpr ⟨_, by simp [heither, Table.get?_put], hstay⟩
    · refine source?_eq_some_iff.mpr ⟨q, ?_, hs⟩
      dsimp only
      split <;> simpa [Table.get?_erase, Table.get?_put, hm] using hq

end PairTable

end Switchboard.Proxy
