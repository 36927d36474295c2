import Mathlib.Data.List.Nodup
import Mathlib.Tactic.Common
import Switchboard.Toml.Document

/-!
# The trees of documents

Not every tree is that of a document.  A whole number is taken into a document only if it fits into
64 bits with a sign, and a table is given a key only by replacing what the key stands for or where
the table does not have it.  Nothing that is done to a document afterwards makes a number or doubles
a key.  So a document is `Sound` at whatever depth and in whatever form of table: its whole numbers
fit, and the keys of every table are different (`Toml.sound_of_read?`).
-/

namespace Switchboard.Toml

/-- A value whose whole numbers fit into 64 bits with a sign, and whose tables have different keys.
-/
inductive Node.Sound : Node → Prop where
  | string (text : String) : Sound (.string text)
  | integer {n : Int} (low : Int64.minValue.toInt ≤ n) (high : n ≤ Int64.maxValue.toInt) :
      Sound (.integer n)
  | float (x : Binary64) : Sound (.float x)
  | boolean (b : Bool) : Sound (.boolean b)
  | datetime (text : String) : Sound (.datetime text)
  | array {items : List Node} (all : ∀ item ∈ items, Sound item) : Sound (.array items)
  | table {form : TableForm} {entries : List (String × Node)} (keys : (entries.map Prod.fst).Nodup)
      (all : ∀ p ∈ entries, Sound p.2) : Sound (.table form entries)
  | tables {items : List (List (String × Node))}
      (keys : ∀ entries ∈ items, (entries.map Prod.fst).Nodup)
      (all : ∀ entries ∈ items, ∀ p ∈ entries, Sound p.2) : Sound (.tables items)

/-- The same of keys with values. -/
structure Entries.Sound (t : Entries) : Prop where
  /-- The keys are different. -/
  keys : (t.map Prod.fst).Nodup
  /-- The values are sound. -/
  all : ∀ p ∈ t, p.2.Sound

namespace Node

variable {form : TableForm} {t : Entries} {items : List Entries}

lemma sound_table_iff : (table form t).Sound ↔ t.Sound := by
  constructor
  · intro h
    cases h with
    | table keys all => exact ⟨keys, all⟩
  · intro h
    exact .table h.keys h.all

lemma sound_tables_iff : (tables items).Sound ↔ ∀ t ∈ items, t.Sound := by
  constructor
  · intro h t ht
    cases h with
    | tables keys all => exact ⟨keys t ht, all t ht⟩
  · intro h
    exact .tables (fun t ht => (h t ht).keys) fun t ht => (h t ht).all

end Node

namespace Entries

variable {t t' : Entries} {k : String} {n : Node}

lemma Sound.nil : Sound [] := ⟨List.nodup_nil, fun p hp => by cases hp⟩

/-- The first key of a sound table is not there again. -/
lemma Sound.of_cons (h : Sound ((k, n) :: t)) : k ∉ t.map Prod.fst ∧ n.Sound ∧ t.Sound := by
  obtain ⟨hkey, hkeys⟩ := List.nodup_cons.mp h.keys
  have hrest : ∀ p ∈ t, p.2.Sound := fun p hp => h.all p (List.mem_cons_of_mem _ hp)
  exact ⟨hkey, h.all (k, n) List.mem_cons_self, hkeys, hrest⟩

lemma Sound.get? (h : t.Sound) (hget : t.get? k = some n) : n.Sound := by
  obtain ⟨p, hfind, rfl⟩ := Option.map_eq_some_iff.mp hget
  exact h.all p (List.mem_of_find?_eq_some hfind)

lemma mem_of_mem_put {p : String × Node} (hp : p ∈ t.put k n) : p = (k, n) ∨ p ∈ t := by
  induction t with
  | nil => exact .inl (List.mem_singleton.mp hp)
  | cons q rest ih =>
    unfold Entries.put at hp
    split at hp
    · rcases List.mem_cons.mp hp with rfl | hp
      · exact .inl rfl
      · exact .inr (List.mem_cons_of_mem q hp)
    · rcases List.mem_cons.mp hp with rfl | hp
      · exact .inr List.mem_cons_self
      · exact (ih hp).imp_right (List.mem_cons_of_mem q)

/-- A key that is given a value comes last, unless it is there. -/
lemma keys_put (t : Entries) (k : String) (n : Node) :
    (t.put k n).map Prod.fst =
      if k ∈ t.map Prod.fst then t.map Prod.fst else t.map Prod.fst ++ [k] := by
  induction t with
  | nil => rfl
  | cons q rest ih =>
    unfold Entries.put
    by_cases hq : q.1 = k
    · simp [hq]
    · rw [if_neg hq, List.map_cons, ih, List.map_cons]
      by_cases hk : k ∈ rest.map Prod.fst
      · simp [hk]
      · simp [hk, Ne.symm hq]

lemma Sound.put (h : t.Sound) (hn : n.Sound) : (t.put k n).Sound := by
  constructor
  · rw [keys_put]
    split
    · exact h.keys
    · rename_i hk
      exact List.nodup_append_comm.mp (List.nodup_cons.mpr ⟨hk, h.keys⟩)
  · intro p hp
    rcases mem_of_mem_put hp with rfl | hp
    · exact hn
    · exact h.all p hp

lemma Sound.erase (h : t.Sound) (k : String) : (t.erase k).Sound where
  keys := h.keys.sublist ((List.filter_sublist).map Prod.fst)
  all p hp := h.all p (List.mem_filter.mp hp).1

lemma get?_cons_self (t : Entries) (k : String) (n : Node) :
    Entries.get? ((k, n) :: t) k = some n := by
  simp [Entries.get?]

lemma get?_cons_of_ne {k' : String} (h : k' ≠ k) (t : Entries) (n : Node) :
    Entries.get? ((k, n) :: t) k' = t.get? k' := by
  simp [Entries.get?, Ne.symm h]

lemma get?_eq_none (h : k ∉ t.map Prod.fst) : t.get? k = none := by
  rw [Entries.get?, Option.map_eq_none_iff, List.find?_eq_none]
  intro p hp hk
  exact h (List.mem_map.mpr ⟨p, hp, of_decide_eq_true hk⟩)

/-- A table whose keys are different has what is in it. -/
lemma get?_eq_some_iff (h : (t.map Prod.fst).Nodup) : t.get? k = some n ↔ (k, n) ∈ t := by
  constructor
  · intro hget
    obtain ⟨⟨k', n'⟩, hfind, rfl⟩ := Option.map_eq_some_iff.mp hget
    obtain rfl : k' = k := by simpa using List.find?_some hfind
    exact List.mem_of_find?_eq_some hfind
  · intro hmem
    induction t with
    | nil => cases hmem
    | cons p rest ih =>
      rw [List.map_cons, List.nodup_cons] at h
      rcases List.mem_cons.mp hmem with rfl | hmem
      · exact get?_cons_self rest k n
      · have hne : k ≠ p.1 := by
          rintro rfl
          exact h.1 (List.mem_map.mpr ⟨_, hmem, rfl⟩)
        exact (get?_cons_of_ne hne rest p.2).trans (ih h.2 hmem)

/-- The order of different keys does not matter. -/
lemma get?_of_perm (h : (t.map Prod.fst).Nodup) (hperm : t.Perm t') (k : String) :
    t.get? k = t'.get? k := by
  have h' : (t'.map Prod.fst).Nodup := (hperm.map Prod.fst).nodup_iff.mp h
  ext n
  rw [get?_eq_some_iff h, get?_eq_some_iff h', hperm.mem_iff]

/-- Neither do other keys. -/
lemma get?_filter {p : String → Bool} (hk : p k = true) (t : Entries) :
    Entries.get? (t.filter fun q => p q.1) k = t.get? k := by
  rw [Entries.get?, List.find?_filter, Entries.get?]
  congr 2
  ext q
  by_cases hq : q.1 = k
  · simp [hq, hk]
  · simp [hq]

end Entries

/-! ### Bare values -/

namespace Scalar

variable {cs : List Char} {node : Node}

lemma sound_of_bounded? {n : Int} (h : bounded? n = some node) : node.Sound := by
  unfold bounded? at h
  split at h
  · rename_i hbounds
    obtain rfl := Option.some.inj h
    exact .integer hbounds.1 hbounds.2
  · cases h

lemma sound_of_integer? (h : integer? cs = some node) : node.Sound := by
  unfold integer? at h
  split at h
  all_goals
    simp only [Option.bind_eq_bind, Option.bind_eq_some_iff] at h
    obtain ⟨-, -, n, -, hbounded⟩ := h
    exact sound_of_bounded? hbounded

/-- What is read as a floating-point number is one. -/
lemma sound_of_float? (h : float? cs = some node) : node.Sound := by
  suffices hfloat : ∃ x, node = .float x by
    obtain ⟨x, rfl⟩ := hfloat
    exact .float x
  unfold float? at h
  dsimp only at h
  split at h
  · exact ⟨_, (Option.some.inj h).symm⟩
  · split at h
    · exact ⟨_, (Option.some.inj h).symm⟩
    · split at h
      · cases h
      · simp only [Option.bind_eq_bind, Option.bind_eq_some_iff] at h
        obtain ⟨whole, -, h⟩ := h
        split at h
        all_goals
          simp only [Option.bind_eq_some_iff] at h
          obtain ⟨fraction, -, power, -, digits, -, h⟩ := h
          split at h
          · cases h
          · exact ⟨_, (Option.some.inj h).symm⟩

lemma sound_of_datetime? (h : datetime? cs = some node) : node.Sound := by
  obtain ⟨-, hsome⟩ := Option.ite_none_right_eq_some.mp h
  obtain rfl := Option.some.inj hsome
  exact .datetime _

lemma sound_of_ofChars? (h : ofChars? cs = some node) : node.Sound := by
  unfold ofChars? at h
  split at h
  · obtain rfl := Option.some.inj h
    exact .boolean true
  · split at h
    · obtain rfl := Option.some.inj h
      exact .boolean false
    · cases hdatetime : datetime? cs with
      | some value =>
        rw [hdatetime] at h
        exact sound_of_datetime? (hdatetime.trans h)
      | none =>
        rw [hdatetime] at h
        cases hfloat : float? cs with
        | some value =>
          rw [hfloat] at h
          exact sound_of_float? (hfloat.trans h)
        | none =>
          rw [hfloat] at h
          exact sound_of_integer? h

end Scalar

/-! ### Tables and values -/

namespace Statement

variable {entries entries' : Entries} {value node : Node} {cs rest : List Char}

/-- A change at the end of a path leaves the whole table sound if it does so to the table that it is
made to. -/
lemma sound_of_descend {made : TableForm} {reach : TableForm → Bool}
    {change : TableForm → Entries → Option Entries}
    (hchange : ∀ {form entries entries'}, entries.Sound → change form entries = some entries' →
      entries'.Sound)
    {path : List String} {form : TableForm} (h : entries.Sound)
    (hdescend : descend made reach change path form entries = some entries') : entries'.Sound := by
  induction path generalizing form entries entries' with
  | nil => exact hchange h hdescend
  | cons k ks ih =>
    unfold descend at hdescend
    split at hdescend
    · simp only [Option.bind_eq_bind, Option.bind_eq_some_iff] at hdescend
      obtain ⟨child, hchild, hput⟩ := hdescend
      obtain rfl := Option.some.inj hput
      exact h.put (Node.sound_table_iff.mpr (ih .nil hchild))
    · rename_i form' child hget
      split at hdescend
      · simp only [Option.bind_eq_bind, Option.bind_eq_some_iff] at hdescend
        obtain ⟨child', hchild, hput⟩ := hdescend
        obtain rfl := Option.some.inj hput
        have hold := Node.sound_table_iff.mp (h.get? hget)
        exact h.put (Node.sound_table_iff.mpr (ih hold hchild))
      · cases hdescend
    · rename_i items hget
      split at hdescend
      · cases hdescend
      · rename_i last hlast
        simp only [Option.bind_eq_bind, Option.bind_eq_some_iff] at hdescend
        obtain ⟨last', hchild, hput⟩ := hdescend
        obtain rfl := Option.some.inj hput
        have hall := Node.sound_tables_iff.mp (h.get? hget)
        refine h.put (Node.sound_tables_iff.mpr fun entries hentries => ?_)
        obtain hentries | hentries := List.mem_append.mp hentries
        · exact hall entries (List.dropLast_subset _ hentries)
        · obtain rfl := List.mem_singleton.mp hentries
          exact ih (hall last (List.mem_of_getLast? hlast)) hchild
    · cases hdescend

lemma sound_of_assignTo {form : TableForm} {path : List String} (h : entries.Sound)
    (hvalue : value.Sound) (hassign : assignTo form entries path value = some entries') :
    entries'.Sound := by
  unfold assignTo at hassign
  split at hassign
  · cases hassign
  · refine sound_of_descend ?_ h hassign
    intro form entries entries' h hchange
    split at hchange
    · cases hchange
    · split at hchange
      · cases hchange
      · obtain rfl := Option.some.inj hchange
        exact h.put hvalue

lemma sound_of_bare? (h : bare? cs = some (node, rest)) : node.Sound := by
  obtain ⟨value, hvalue, hpair⟩ := Option.map_eq_some_iff.mp h
  obtain ⟨rfl, -⟩ := Prod.mk.inj hpair
  exact Scalar.sound_of_ofChars? hvalue

/-- With so much fuel, what is read is sound: values, items up to a bracket, and fields that are
added to sound ones. -/
structure ReadsSound (fuel : Nat) : Prop where
  value : ∀ {depth cs node rest}, value? fuel depth cs = some (node, rest) → node.Sound
  items : ∀ {depth cs items rest}, items? fuel depth cs = some (items, rest) →
    ∀ item ∈ items, item.Sound
  fields : ∀ {depth before cs entries rest}, before.Sound →
    fields? fuel depth before cs = some (entries, rest) → entries.Sound

/-- The three readers call each other with less fuel. -/
lemma readsSound (fuel : Nat) : ReadsSound fuel := by
  induction fuel with
  | zero => constructor <;> simp [value?, items?, fields?]
  | succ fuel ih =>
    constructor
    case value =>
      intro depth cs node rest h
      unfold value? at h
      split at h
      · split at h
        · cases h
        · obtain ⟨⟨items, rest'⟩, hitems, hpair⟩ := Option.map_eq_some_iff.mp h
          obtain ⟨rfl, -⟩ := Prod.mk.inj hpair
          exact .array (ih.items hitems)
      · split at h
        · cases h
        · split at h
          · obtain ⟨rfl, -⟩ := Prod.mk.inj (Option.some.inj h)
            exact Node.sound_table_iff.mpr .nil
          · obtain ⟨⟨entries, rest'⟩, hfields, hpair⟩ := Option.map_eq_some_iff.mp h
            obtain ⟨rfl, -⟩ := Prod.mk.inj hpair
            exact Node.sound_table_iff.mpr (ih.fields .nil hfields)
      · obtain ⟨⟨text, rest'⟩, -, hpair⟩ := Option.map_eq_some_iff.mp h
        obtain ⟨rfl, -⟩ := Prod.mk.inj hpair
        exact .string _
      · obtain ⟨⟨text, rest'⟩, -, hpair⟩ := Option.map_eq_some_iff.mp h
        obtain ⟨rfl, -⟩ := Prod.mk.inj hpair
        exact .string _
      · exact sound_of_bare? h
    case items =>
      intro depth cs items rest h
      unfold items? at h
      split at h
      · obtain ⟨rfl, -⟩ := Prod.mk.inj (Option.some.inj h)
        exact fun item hitem => by cases hitem
      · simp only [Option.bind_eq_bind, Option.bind_eq_some_iff] at h
        obtain ⟨⟨item, rest'⟩, hitem, h⟩ := h
        have hfirst := ih.value hitem
        dsimp only at h
        split at h
        · obtain ⟨rfl, -⟩ := Prod.mk.inj (Option.some.inj h)
          intro other hother
          obtain rfl := List.mem_singleton.mp hother
          exact hfirst
        · simp only [Option.bind_eq_some_iff] at h
          obtain ⟨⟨more, rest''⟩, hmore, h⟩ := h
          obtain ⟨rfl, -⟩ := Prod.mk.inj (Option.some.inj h)
          intro other hother
          obtain rfl | hother := List.mem_cons.mp hother
          · exact hfirst
          · exact ih.items hmore other hother
        · cases h
    case fields =>
      intro depth before cs entries rest hbefore h
      unfold fields? at h
      simp only [Option.bind_eq_bind, Option.bind_eq_some_iff] at h
      obtain ⟨⟨path, rest'⟩, -, h⟩ := h
      dsimp only at h
      split at h
      · simp only [Option.bind_eq_some_iff] at h
        obtain ⟨⟨value, rest''⟩, hvalue, grown, hassign, h⟩ := h
        have hgrown := sound_of_assignTo hbefore (ih.value hvalue) hassign
        dsimp only at h
        split at h
        · obtain ⟨rfl, -⟩ := Prod.mk.inj (Option.some.inj h)
          exact hgrown
        · exact ih.fields hgrown h
        · cases h
      · cases h

/-! ### Statements -/

/-- The value of a statement is sound, if it has one. -/
def Sound : Statement → Prop
  | assign _ value => value.Sound
  | header _ | listHeader _ => True

lemma sound_of_line? {s : Statement} (h : line? cs = some (s, rest)) : s.Sound := by
  unfold line? at h
  split at h
  · simp only [Option.bind_eq_bind, Option.bind_eq_some_iff] at h
    obtain ⟨⟨path, rest'⟩, -, h⟩ := h
    dsimp only at h
    split at h
    · simp only [Option.bind_eq_some_iff] at h
      obtain ⟨after, -, h⟩ := h
      obtain ⟨rfl, -⟩ := Prod.mk.inj (Option.some.inj h)
      trivial
    · cases h
  · simp only [Option.bind_eq_bind, Option.bind_eq_some_iff] at h
    obtain ⟨⟨path, rest'⟩, -, h⟩ := h
    dsimp only at h
    split at h
    · simp only [Option.bind_eq_some_iff] at h
      obtain ⟨after, -, h⟩ := h
      obtain ⟨rfl, -⟩ := Prod.mk.inj (Option.some.inj h)
      trivial
    · cases h
  · simp only [Option.bind_eq_bind, Option.bind_eq_some_iff] at h
    obtain ⟨⟨path, rest'⟩, -, h⟩ := h
    dsimp only at h
    split at h
    · simp only [Option.bind_eq_some_iff] at h
      obtain ⟨⟨value, rest''⟩, hvalue, after, -, h⟩ := h
      obtain ⟨rfl, -⟩ := Prod.mk.inj (Option.some.inj h)
      exact (readsSound _).value hvalue
    · cases h

lemma sound_of_lines? {fuel : Nat} {statements : List Statement}
    (h : lines? fuel cs = some statements) : ∀ s ∈ statements, s.Sound := by
  induction fuel generalizing cs statements with
  | zero => cases h
  | succ fuel ih =>
    unfold lines? at h
    split at h
    · obtain rfl := Option.some.inj h
      exact fun s hs => by cases hs
    · simp only [Option.bind_eq_bind, Option.bind_eq_some_iff] at h
      obtain ⟨rest, -, h⟩ := h
      exact ih h
    · split at h
      · exact ih h
      · simp only [Option.bind_eq_bind, Option.bind_eq_some_iff] at h
        obtain ⟨⟨first, rest⟩, hfirst, more, hmore, h⟩ := h
        obtain rfl := Option.some.inj h
        intro s hs
        obtain rfl | hs := List.mem_cons.mp hs
        · exact sound_of_line? hfirst
        · exact ih hmore s hs

end Statement

/-! ### Documents -/

namespace Draft

variable {d d' : Draft} {tree tree' : Entries}

/-- A draft of a document is sound in both of its parts. -/
structure Sound (d : Draft) : Prop where
  /-- The finished part of the tree. -/
  tree : d.tree.Sound
  /-- The table being filled. -/
  current : d.current.entries.Sound

lemma sound_of_atParent {path : List String} {change : String → Entries → Option Entries}
    (hchange : ∀ {k entries entries'}, entries.Sound → change k entries = some entries' →
      entries'.Sound)
    (h : tree.Sound) (hparent : atParent tree path change = some tree') : tree'.Sound := by
  unfold atParent at hparent
  split at hparent
  · cases hparent
  · exact Statement.sound_of_descend (fun h hsome => hchange h hsome) h hparent

lemma sound_of_listed? {k : String} {items : List Entries} (h : tree.Sound)
    (hlisted : listed? k tree = some items) : ∀ entries ∈ items, entries.Sound := by
  unfold listed? at hlisted
  split at hlisted
  · obtain rfl := Option.some.inj hlisted
    exact fun entries hentries => by cases hentries
  · rename_i hget
    obtain rfl := Option.some.inj hlisted
    exact Node.sound_tables_iff.mp (h.get? hget)
  · cases hlisted

/-- A sound table joins a sound tree. -/
lemma Sound.close (h : d.Sound) (hclose : d.close = some tree) : tree.Sound := by
  unfold Draft.close at hclose
  split at hclose
  · obtain rfl := Option.some.inj hclose
    exact h.current
  · split at hclose
    · refine sound_of_atParent ?_ h.tree hclose
      intro k entries entries' hentries hchange
      simp only [Option.bind_eq_bind, Option.bind_eq_some_iff] at hchange
      obtain ⟨items, hitems, hput⟩ := hchange
      obtain rfl := Option.some.inj hput
      refine hentries.put (Node.sound_tables_iff.mpr fun listed hlisted => ?_)
      obtain hlisted | hlisted := List.mem_append.mp hlisted
      · exact sound_of_listed? hentries hitems listed hlisted
      · obtain rfl := List.mem_singleton.mp hlisted
        exact h.current
    · refine sound_of_atParent ?_ h.tree hclose
      intro k entries entries' hentries hchange
      obtain rfl := Option.some.inj hchange
      exact hentries.put (Node.sound_table_iff.mpr h.current)

/-- What stands in a sound tree is sound. -/
lemma sound_of_lookup {path : List String} {n : Node} (h : tree.Sound)
    (hlookup : lookup path tree = some n) : n.Sound := by
  induction path generalizing tree with
  | nil => cases hlookup
  | cons k ks ih =>
    cases ks with
    | nil => exact h.get? hlookup
    | cons k' ks =>
      unfold lookup at hlookup
      split at hlookup
      · rename_i hget
        exact ih (Node.sound_table_iff.mp (h.get? hget)) hlookup
      · rename_i items hget
        split at hlookup
        · rename_i last hlast
          have hall := Node.sound_tables_iff.mp (h.get? hget)
          exact ih (hall last (List.mem_of_getLast? hlast)) hlookup
        · cases hlookup
      · cases hlookup

/-- Taking a sound statement in keeps a draft sound. -/
lemma Sound.step (h : d.Sound) {s : Statement} (hs : s.Sound) (hstep : d.step s = some d') :
    d'.Sound := by
  cases s with
  | header path =>
    simp only [Draft.step, Option.bind_eq_bind, Option.bind_eq_some_iff] at hstep
    obtain ⟨tree, hclose, tree', hparent, hstep⟩ := hstep
    obtain rfl := Option.some.inj hstep
    have htree := h.close hclose
    refine ⟨sound_of_atParent ?_ htree hparent, ?_⟩
    · intro k entries entries' hentries hchange
      simp only [Option.bind_eq_some_iff] at hchange
      obtain ⟨-, -, herase⟩ := hchange
      obtain rfl := Option.some.inj herase
      exact hentries.erase k
    · dsimp only
      split
      · rename_i hfound
        exact Node.sound_table_iff.mp (sound_of_lookup htree hfound)
      · exact .nil
  | listHeader path =>
    simp only [Draft.step, Option.bind_eq_bind, Option.bind_eq_some_iff] at hstep
    obtain ⟨tree, hclose, tree', hparent, hstep⟩ := hstep
    obtain rfl := Option.some.inj hstep
    refine ⟨sound_of_atParent ?_ (h.close hclose) hparent, .nil⟩
    intro k entries entries' hentries hchange
    simp only [Option.bind_eq_some_iff] at hchange
    obtain ⟨items, hitems, hput⟩ := hchange
    obtain rfl := Option.some.inj hput
    exact hentries.put (Node.sound_tables_iff.mpr (sound_of_listed? hentries hitems))
  | assign path value =>
    simp only [Draft.step, Option.bind_eq_bind, Option.bind_eq_some_iff] at hstep
    obtain ⟨entries, hassign, hstep⟩ := hstep
    obtain rfl := Option.some.inj hstep
    exact ⟨h.tree, Statement.sound_of_assignTo h.current hs hassign⟩

lemma Sound.foldlM (h : d.Sound) {statements : List Statement}
    (hs : ∀ s ∈ statements, s.Sound) (hfold : statements.foldlM Draft.step d = some d') :
    d'.Sound := by
  induction statements generalizing d with
  | nil =>
    obtain rfl := Option.some.inj hfold
    exact h
  | cons s rest ih =>
    simp only [List.foldlM_cons, Option.bind_eq_bind, Option.bind_eq_some_iff] at hfold
    obtain ⟨next, hstep, hrest⟩ := hfold
    exact ih (h.step (hs s List.mem_cons_self) hstep)
      (fun s hmem => hs s (List.mem_cons_of_mem _ hmem)) hrest

end Draft

/-- **Documents are sound**: their whole numbers fit into 64 bits with a sign, and no table has a
key twice. -/
theorem sound_of_read? {text : String} {entries : Entries} (h : read? text = some entries) :
    entries.Sound := by
  simp only [read?, Draft.run, Statement.all?, Option.bind_eq_bind, Option.bind_eq_some_iff] at h
  obtain ⟨statements, hlines, d, hfold, hclose⟩ := h
  have hdraft : ({} : Draft).Sound := ⟨.nil, .nil⟩
  exact (hdraft.foldlM (Statement.sound_of_lines? hlines) hfold).close hclose

end Switchboard.Toml
