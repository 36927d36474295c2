import Mathlib.Data.List.Forall2
import Switchboard.Config.Decode
import Switchboard.Config.Settings
import Switchboard.Proofs.Toml.Trees

/-!
# What a section says

A section is read key by key, in the order of the document.  What it says can be told without any
order: each setting has what its key stands for, or the default (`Layout.Told`).

A `Layout` says of a shape what its settings are, one `Setting` for each, and that reading a key
does nothing but set the setting of that name.  The `Kind` of a setting knows what a value of a
document means, independently of how it is read.  Since the keys of a table are different, reading
key by key comes to the same (`Layout.setAll_iff`), a section can be read exactly if the values of
the keys that settings have mean something (`Layout.exists_told_iff`), and neither the order of the
keys nor keys of no setting matter (`Layout.alike_of_perm`).
-/

namespace Switchboard

namespace Toml

/-! ### Sections in a document -/

/-- What a value says about the settings of a section whose names are given: a table says what its
keys stand for, an array gives the settings in their order, a date gives none. -/
def Node.settings? (fields : List String) : Node → Option Entries
  | .table _ t => some t
  | .array items => some (fields.zip items)
  | .tables items => some (fields.zip (items.map (Node.table .headed)))
  | .datetime _ => some []
  | _ => none

/-- The values in a list. -/
def Node.items? : Node → Option (List Node)
  | .array items => some items
  | .tables items => some (items.map (Node.table .headed))
  | _ => none

/-- Whether a value is an empty list or table. -/
def Node.isHollow : Node → Bool
  | .array items => items.isEmpty
  | .table _ t => t.isEmpty
  | .tables items => items.isEmpty
  | _ => false

lemma Node.Sound.items {n : Node} {items : List Node} (h : n.Sound)
    (hitems : n.items? = some items) : ∀ item ∈ items, item.Sound := by
  cases n with
  | array nodes =>
    obtain rfl := Option.some.inj hitems
    cases h with
    | array all => exact all
  | tables tables =>
    obtain rfl := Option.some.inj hitems
    intro item hitem
    obtain ⟨t, ht, rfl⟩ := List.mem_map.mp hitem
    exact Node.sound_table_iff.mpr (Node.sound_tables_iff.mp h t ht)
  | _ => cases hitems

/-- The first names are those that are given values. -/
lemma fst_zip_first (fields : List String) (items : List Node) :
    (fields.zip items).map Prod.fst <+: fields := by
  induction fields generalizing items with
  | nil => exact List.prefix_rfl
  | cons field rest ih =>
    cases items with
    | nil => exact List.nil_prefix
    | cons item items => exact (List.prefix_cons_inj field).mpr (ih items)

/-- Different names and sound values go together. -/
lemma Entries.sound_zip {fields : List String} {items : List Node} (hfields : fields.Nodup)
    (hitems : ∀ item ∈ items, item.Sound) : Entries.Sound (fields.zip items) where
  keys := hfields.sublist (fst_zip_first fields items).sublist
  all p hp := hitems p.2 (List.of_mem_zip hp).2

lemma Node.Sound.settings {n : Node} {fields : List String} {t : Entries} (h : n.Sound)
    (hfields : fields.Nodup) (hsettings : n.settings? fields = some t) : t.Sound := by
  cases n with
  | table form t' =>
    obtain rfl := Option.some.inj hsettings
    exact Node.sound_table_iff.mp h
  | array items =>
    obtain rfl := Option.some.inj hsettings
    exact Entries.sound_zip hfields (h.items rfl)
  | tables items =>
    obtain rfl := Option.some.inj hsettings
    exact Entries.sound_zip hfields (h.items rfl)
  | datetime text =>
    obtain rfl := Option.some.inj hsettings
    exact .nil
  | _ => cases hsettings

end Toml

namespace Config.Decode

open Toml

variable {α β σ : Type}

lemma map_eq_ok_iff {x : Fit α} {f : α → β} {b : β} :
    f <$> x = .ok b ↔ ∃ a, x = .ok a ∧ f a = b := by
  cases x with
  | error e => simp [Functor.map, Except.map]
  | ok a => simp [Functor.map, Except.map]

lemma bind_eq_ok_iff {x : Fit α} {f : α → Fit β} {b : β} :
    x >>= f = .ok b ↔ ∃ a, x = .ok a ∧ f a = .ok b := by
  cases x with
  | error e => simp [bind, Except.bind]
  | ok a => simp [bind, Except.bind]

/-- A value that fits was fitted and then put in its place. -/
lemma return_eq_ok_iff {x : Fit α} {f : α → β} {b : β} :
    (do return f (← x)) = .ok b ↔ ∃ a, x = .ok a ∧ f a = b := by
  cases x with
  | error e => simp [bind, Except.bind]
  | ok a => simp [bind, Except.bind, pure, Except.pure]

/-- A list can be read if its items can, one by one. -/
lemma mapM_eq_ok_iff {item : Node → Fit α} {nodes : List Node} {as : List α} :
    nodes.mapM item = .ok as ↔ List.Forall₂ (fun n a => item n = .ok a) nodes as := by
  induction nodes generalizing as with
  | nil =>
    rw [List.mapM_nil, List.forall₂_nil_left_iff]
    constructor
    · intro h
      exact (Except.ok.inj h).symm
    · rintro rfl
      rfl
  | cons n rest ih =>
    rw [List.mapM_cons, bind_eq_ok_iff]
    constructor
    · rintro ⟨a, ha, hrest⟩
      obtain ⟨more, hmore, rfl⟩ := return_eq_ok_iff.mp hrest
      exact .cons ha (ih.mp hmore)
    · intro h
      cases h with
      | cons ha hmore => exact ⟨_, ha, return_eq_ok_iff.mpr ⟨_, ih.mpr hmore, rfl⟩⟩

section Reading

variable {n : Node}

lemma natural_eq_ok_iff {expected : String} {max k : Nat} :
    natural expected max n = .ok k ↔ n = .integer k ∧ k ≤ max := by
  cases n with
  | integer i =>
    simp only [natural, Node.integer.injEq]
    by_cases hi : 0 ≤ i ∧ i ≤ max
    · rw [if_pos hi, Except.ok.injEq]
      omega
    · rw [if_neg hi]
      constructor
      · intro h
        cases h
      · omega
  | _ => simp [natural]

lemma boolean_eq_ok_iff {b : Bool} : boolean n = .ok b ↔ n = .boolean b := by
  cases n <;> simp [boolean]

lemma text_eq_ok_iff {s : String} : text n = .ok s ↔ n = .string s := by
  cases n <;> simp [text]

lemma port_eq_ok_iff {p : Port} : port n = .ok p ↔ n = .integer p.toNat := by
  rw [port, map_eq_ok_iff]
  constructor
  · rintro ⟨k, hk, rfl⟩
    obtain ⟨rfl, hmax⟩ := natural_eq_ok_iff.mp hk
    have hsize : k < UInt16.size := Nat.lt_succ_of_le hmax
    rw [UInt16.toNat_ofNat_of_lt' hsize]
  · rintro rfl
    have hmax : p.toNat ≤ 65535 := Nat.le_of_lt_succ p.toNat_lt
    exact ⟨p.toNat, natural_eq_ok_iff.mpr ⟨rfl, hmax⟩, UInt16.ofNat_toNat⟩

lemma ports_eq_ok_iff {ps : List Port} :
    list port n = .ok ps ↔ ∃ items, n.items? = some items ∧
      List.Forall₂ (fun item (p : Port) => item = .integer p.toNat) items ps := by
  have hlist (items : List Node) : items.mapM port = .ok ps ↔
      List.Forall₂ (fun item (p : Port) => item = .integer p.toNat) items ps := by
    simp only [mapM_eq_ok_iff, port_eq_ok_iff]
  cases n with
  | array items => simp only [list, Node.items?, Option.some.injEq, exists_eq_left', hlist]
  | tables items => simp only [list, Node.items?, Option.some.injEq, exists_eq_left', hlist]
  | _ => simp [list, Node.items?]

lemma choice_eq_ok_iff {name : String} {p : PortPolicy} : choice name = .ok p ↔ name = p.name := by
  unfold choice
  split
  · rename_i hall
    cases p <;> simp [hall, PortPolicy.name]
  · rename_i hall
    split
    · rename_i hany
      cases p <;> simp [hany, PortPolicy.name]
    · rename_i hany
      cases p <;> simp [hall, hany, PortPolicy.name]

lemma choiceContent_eq_ok_iff : choiceContent n = .ok () ↔ n.isHollow = true := by
  cases n <;> simp [choiceContent, Node.isHollow]

lemma policy_eq_ok_iff {p : PortPolicy} :
    policy n = .ok p ↔ n = .string p.name ∨
      ∃ form content, n = .table form [(p.name, content)] ∧ content.isHollow = true := by
  cases n with
  | string s => simp [policy, choice_eq_ok_iff]
  | table form entries =>
    rcases entries with _ | ⟨⟨name, content⟩, _ | ⟨second, rest⟩⟩
    · simp [policy]
    · simp only [policy, bind_eq_ok_iff, choice_eq_ok_iff]
      constructor
      · rintro ⟨q, rfl, ⟨⟩, hcontent, hq⟩
        obtain rfl := Except.ok.inj hq
        exact .inr ⟨form, content, rfl, choiceContent_eq_ok_iff.mp hcontent⟩
      · rintro (h | ⟨form', content', h, hhollow⟩)
        · cases h
        · cases h
          exact ⟨p, rfl, (), choiceContent_eq_ok_iff.mpr hhollow, rfl⟩
    · simp [policy]
  | _ => simp [policy]

end Reading

/-! ### Kinds of settings -/

/-- A kind of settings: how a value of a document is read as one, and what it means. -/
structure Kind (α : Type) where
  /-- Reads a value. -/
  fit : Node → Fit α
  /-- What a value means, if it means anything. -/
  Means : Node → α → Prop
  /-- Which values mean something. -/
  Fits : Node → Prop
  /-- Which values mean the same. -/
  Alike : Node → Node → Prop
  /-- What is read is what is meant. -/
  fit_iff : ∀ {n a}, n.Sound → (fit n = .ok a ↔ Means n a)
  /-- Values that fit mean something, and the others do not. -/
  fits_iff : ∀ {n}, n.Sound → ((∃ a, Means n a) ↔ Fits n)
  /-- A value means the same as itself. -/
  alike_refl : ∀ n, Alike n n
  /-- Values that are alike mean the same. -/
  means_congr : ∀ {n n'}, Alike n n' → ∀ a, Means n a ↔ Means n' a

namespace Kind

/-- A kind without parts: no values are alike but those that are the same. -/
def plain (fit : Node → Fit α) (Means : Node → α → Prop)
    (fit_iff : ∀ n a, fit n = .ok a ↔ Means n a) : Kind α where
  fit := fit
  Means := Means
  Fits n := ∃ a, Means n a
  Alike n n' := n = n'
  fit_iff {n a} _ := fit_iff n a
  fits_iff _ := Iff.rfl
  alike_refl _ := rfl
  means_congr h a := by rw [h]

/-- A whole number up to `max`. -/
def natural (expected : String) (max : Nat) : Kind Nat :=
  plain (Decode.natural expected max) (fun n k => n = .integer k ∧ k ≤ max)
    fun _ _ => natural_eq_ok_iff

/-- A size of something in memory. -/
def size : Kind Nat := natural "usize" (UInt64.size - 1)

/-- A number of seconds. -/
def seconds : Kind Nat := natural "u64" (UInt64.size - 1)

/-- A truth value. -/
def flag : Kind Bool := plain boolean (fun n b => n = .boolean b) fun _ _ => boolean_eq_ok_iff

/-- A text. -/
def text : Kind String := plain Decode.text (fun n s => n = .string s) fun _ _ => text_eq_ok_iff

/-- A port. -/
def port : Kind Port :=
  plain Decode.port (fun n p => n = .integer p.toNat) fun _ _ => port_eq_ok_iff

/-- A list of ports. -/
def ports : Kind (List Port) :=
  plain (list Decode.port)
    (fun n ps => ∃ items, n.items? = some items ∧
      List.Forall₂ (fun item (p : Port) => item = .integer p.toNat) items ps)
    fun _ _ => ports_eq_ok_iff

/-- A port policy: its name, or a key of its name that stands for nothing. -/
def policy : Kind PortPolicy :=
  plain Decode.policy
    (fun n p => n = .string p.name ∨
      ∃ form content, n = .table form [(p.name, content)] ∧ content.isHollow = true)
    fun _ _ => policy_eq_ok_iff

/-- What may be absent; a value that is there is not. -/
def optional (kind : Kind α) : Kind (Option α) where
  fit n := some <$> kind.fit n
  Means n o := ∃ a, o = some a ∧ kind.Means n a
  Fits := kind.Fits
  Alike := kind.Alike
  fit_iff {n o} hn := by
    rw [map_eq_ok_iff]
    constructor
    · rintro ⟨a, ha, rfl⟩
      exact ⟨a, rfl, (kind.fit_iff hn).mp ha⟩
    · rintro ⟨a, rfl, ha⟩
      exact ⟨a, (kind.fit_iff hn).mpr ha, rfl⟩
  fits_iff {n} hn := by
    rw [← kind.fits_iff hn]
    constructor
    · rintro ⟨o, a, -, ha⟩
      exact ⟨a, ha⟩
    · rintro ⟨a, ha⟩
      exact ⟨some a, a, rfl, ha⟩
  alike_refl := kind.alike_refl
  means_congr {n n'} h o := by
    simp only [kind.means_congr h]

@[simp] lemma fit_size : size.fit = Decode.size := rfl

@[simp] lemma fit_seconds : seconds.fit = Decode.seconds := rfl

@[simp] lemma fit_flag : flag.fit = boolean := rfl

@[simp] lemma fit_text : text.fit = Decode.text := rfl

@[simp] lemma fit_port : port.fit = Decode.port := rfl

@[simp] lemma fit_ports : ports.fit = list Decode.port := rfl

@[simp] lemma fit_policy : policy.fit = Decode.policy := rfl

@[simp] lemma fit_optional (kind : Kind α) (n : Node) :
    (optional kind).fit n = some <$> kind.fit n := rfl

end Kind

/-! ### Settings and layouts -/

lemma Shape.setAll_cons (shape : Shape σ) (start : σ) (k : String) (n : Node) (t : Entries) :
    shape.setAll start ((k, n) :: t) = shape.set k n start >>= fun s => shape.setAll s t := rfl

/-- A setting: its name, its kind, and where it is. -/
structure Setting (σ : Type) where
  /-- What it is set to. -/
  {Value : Type}
  /-- The key that names it. -/
  key : String
  /-- Its kind. -/
  kind : Kind Value
  /-- What it is. -/
  get : σ → Value
  /-- Sets it. -/
  put : Value → σ → σ
  /-- It is what it was set to. -/
  get_put : ∀ a s, get (put a s) = a := by intros; rfl

/-- What a table says about a setting: what its key stands for, or nothing, and then it is as at the
start. -/
def Setting.Told (x : Setting σ) (t : Entries) (start s : σ) : Prop :=
  match t.get? x.key with
  | some n => x.kind.Means n (x.get s)
  | none => x.get s = x.get start

/-- Sets the setting that a key names, if there is one. -/
def setBy (settings : List (Setting σ)) (k : String) (n : Node) (s : σ) : Fit σ :=
  match settings.find? fun x => k = x.key with
  | some x => do return x.put (← x.kind.fit n) s
  | none => .ok s

/-- The settings of a shape: reading a key sets the one that it names and no other, and there are no
more. -/
structure Layout (σ : Type) where
  /-- How the section is read. -/
  shape : Shape σ
  /-- Its settings. -/
  settings : List (Setting σ)
  /-- They are declared in this order. -/
  fields_eq : shape.fields = settings.map Setting.key
  /-- Their names are different. -/
  distinct : (settings.map Setting.key).Nodup
  /-- Reading a key sets the setting that it names. -/
  set_eq : ∀ k n s, shape.set k n s = setBy settings k n s
  /-- Setting one leaves the others as they are. -/
  apart : ∀ x ∈ settings, ∀ y ∈ settings, y.key ≠ x.key → ∀ a s, y.get (x.put a s) = y.get s
  /-- There is nothing else to a section. -/
  ext : ∀ s s', (∀ x ∈ settings, x.get s = x.get s') → s = s'

namespace Layout

/-- What a table says about all settings. -/
def Told (l : Layout σ) (t : Entries) (start s : σ) : Prop := ∀ x ∈ l.settings, x.Told t start s

/-- Whether the values of all keys that settings have mean something. -/
def Fits (l : Layout σ) (t : Entries) : Prop :=
  ∀ x ∈ l.settings, ∀ n, t.get? x.key = some n → x.kind.Fits n

/-- Whether two tables give the same settings values that mean the same. -/
def Alike (l : Layout σ) (t t' : Entries) : Prop :=
  ∀ x ∈ l.settings, Option.Rel x.kind.Alike (t.get? x.key) (t'.get? x.key)

variable {l : Layout σ} {x y : Setting σ} {t t' : Entries} {k : String} {n : Node} {start s : σ}

/-- A setting is known by its name. -/
lemma eq_of_key_eq (hx : x ∈ l.settings) (hy : y ∈ l.settings) (hkey : x.key = y.key) : x = y :=
  List.inj_on_of_nodup_map l.distinct hx hy hkey

lemma set_of_mem (hx : x ∈ l.settings) (n : Node) (s : σ) :
    l.shape.set x.key n s = do return x.put (← x.kind.fit n) s := by
  have hfind : l.settings.find? (fun y => x.key = y.key) = some x := by
    cases hfind : l.settings.find? fun y => x.key = y.key with
    | none => simpa using List.find?_eq_none.mp hfind x hx
    | some y =>
      have hkey : x.key = y.key := by simpa using List.find?_some hfind
      rw [eq_of_key_eq hx (List.mem_of_find?_eq_some hfind) hkey]
  rw [l.set_eq, setBy, hfind]

lemma set_of_unknown (hk : ∀ x ∈ l.settings, x.key ≠ k) (n : Node) (s : σ) :
    l.shape.set k n s = .ok s := by
  have hfind : l.settings.find? (fun x => k = x.key) = none := by
    rw [List.find?_eq_none]
    intro x hx hkey
    exact hk x hx (of_decide_eq_true hkey).symm
  rw [l.set_eq, setBy, hfind]

/-! ### Reading key by key -/

/-- With no keys everything is as at the start. -/
lemma told_nil : l.Told [] start s ↔ s = start := by
  constructor
  · intro h
    exact l.ext s start h
  · rintro rfl x _
    rfl

/-- A key that names a setting says what that is, and the rest goes on from there. -/
lemma told_cons_of_mem (hx : x ∈ l.settings) (hk : x.key ∉ t.map Prod.fst) :
    l.Told ((x.key, n) :: t) start s ↔ ∃ a, x.kind.Means n a ∧ l.Told t (x.put a start) s := by
  have hget : Entries.get? t x.key = none := Entries.get?_eq_none hk
  constructor
  · intro h
    have hmeans : x.kind.Means n (x.get s) := by
      simpa only [Setting.Told, Entries.get?_cons_self] using h x hx
    refine ⟨x.get s, hmeans, fun y hy => ?_⟩
    by_cases hkey : y.key = x.key
    · obtain rfl := eq_of_key_eq hy hx hkey
      rw [Setting.Told, hget]
      exact (y.get_put _ _).symm
    · simpa only [Setting.Told, Entries.get?_cons_of_ne hkey, l.apart x hx y hy hkey] using h y hy
  · rintro ⟨a, hmeans, h⟩ y hy
    by_cases hkey : y.key = x.key
    · obtain rfl := eq_of_key_eq hy hx hkey
      have hsame : y.get s = a := by
        simpa only [Setting.Told, hget, y.get_put] using h y hy
      rw [Setting.Told, Entries.get?_cons_self, hsame]
      exact hmeans
    · simpa only [Setting.Told, Entries.get?_cons_of_ne hkey, l.apart x hx y hy hkey] using h y hy

/-- A key that names no setting says nothing. -/
lemma told_cons_of_unknown (hk : ∀ x ∈ l.settings, x.key ≠ k) :
    l.Told ((k, n) :: t) start s ↔ l.Told t start s := by
  refine forall₂_congr fun x hx => ?_
  rw [Setting.Told, Entries.get?_cons_of_ne (hk x hx), Setting.Told]

/-- Reading a table key by key comes to what the table says. -/
theorem setAll_iff (ht : t.Sound) : l.shape.setAll start t = .ok s ↔ l.Told t start s := by
  induction t generalizing start with
  | nil =>
    rw [told_nil]
    constructor
    · intro h
      exact (Except.ok.inj h).symm
    · rintro rfl
      rfl
  | cons p rest ih =>
    obtain ⟨k, n⟩ := p
    obtain ⟨hkey, hn, hrest⟩ := ht.of_cons
    rw [Shape.setAll_cons]
    by_cases hknown : ∃ x ∈ l.settings, x.key = k
    · obtain ⟨x, hx, rfl⟩ := hknown
      rw [set_of_mem hx, told_cons_of_mem hx hkey, bind_eq_ok_iff]
      constructor
      · rintro ⟨next, hnext, h⟩
        obtain ⟨a, ha, rfl⟩ := return_eq_ok_iff.mp hnext
        exact ⟨a, (x.kind.fit_iff hn).mp ha, (ih hrest).mp h⟩
      · rintro ⟨a, ha, h⟩
        refine ⟨x.put a start, ?_, (ih hrest).mpr h⟩
        exact return_eq_ok_iff.mpr ⟨a, (x.kind.fit_iff hn).mpr ha, rfl⟩
    · have hunknown : ∀ x ∈ l.settings, x.key ≠ k := by
        intro x hx hkey
        exact hknown ⟨x, hx, hkey⟩
      rw [set_of_unknown hunknown, told_cons_of_unknown hunknown]
      exact ih hrest

/-- A table says something about all settings exactly if its values fit. -/
theorem exists_told_iff (ht : t.Sound) : (∃ s, l.Told t start s) ↔ l.Fits t := by
  induction t generalizing start with
  | nil =>
    constructor
    · rintro - x hx n hget
      cases hget
    · intro _
      exact ⟨start, told_nil.mpr rfl⟩
  | cons p rest ih =>
    obtain ⟨k, n⟩ := p
    obtain ⟨hkey, hn, hrest⟩ := ht.of_cons
    by_cases hknown : ∃ x ∈ l.settings, x.key = k
    · obtain ⟨x, hx, rfl⟩ := hknown
      simp only [told_cons_of_mem hx hkey]
      constructor
      · rintro ⟨s, a, ha, h⟩ y hy n' hget
        by_cases hsame : y.key = x.key
        · obtain rfl := eq_of_key_eq hy hx hsame
          rw [Entries.get?_cons_self] at hget
          obtain rfl := Option.some.inj hget
          exact (y.kind.fits_iff hn).mp ⟨a, ha⟩
        · rw [Entries.get?_cons_of_ne hsame] at hget
          exact (ih hrest).mp ⟨s, h⟩ y hy n' hget
      · intro h
        obtain ⟨a, ha⟩ := (x.kind.fits_iff hn).mpr (h x hx n (Entries.get?_cons_self rest x.key n))
        have hfits : l.Fits rest := by
          intro y hy n' hget
          have hother : y.key ≠ x.key := by
            intro hsame
            rw [hsame, Entries.get?_eq_none hkey] at hget
            cases hget
          exact h y hy n' ((Entries.get?_cons_of_ne hother rest n).trans hget)
        have hlater : ∃ s, l.Told rest (x.put a start) s := (ih hrest).mpr hfits
        obtain ⟨s, hs⟩ := hlater
        exact ⟨s, a, ha, hs⟩
    · have hunknown : ∀ x ∈ l.settings, x.key ≠ k := by
        intro x hx hkey
        exact hknown ⟨x, hx, hkey⟩
      simp only [told_cons_of_unknown hunknown, ih hrest]
      refine forall₂_congr fun x hx => ?_
      rw [Entries.get?_cons_of_ne (hunknown x hx)]

/-! ### What does not matter -/

/-- Tables that are alike say the same. -/
lemma told_congr (h : l.Alike t t') : l.Told t start s ↔ l.Told t' start s := by
  refine forall₂_congr fun x hx => ?_
  have hx := h x hx
  rw [Setting.Told, Setting.Told]
  revert hx
  generalize Entries.get? t x.key = o, Entries.get? t' x.key = o'
  rintro (hn | _)
  · exact x.kind.means_congr hn _
  · rfl

lemma alike_refl (l : Layout σ) (t : Entries) : l.Alike t t := by
  intro x _
  cases t.get? x.key with
  | none => exact .none
  | some n => exact .some (x.kind.alike_refl n)

/-- The keys that name settings, with their values. -/
def known (l : Layout σ) (t : Entries) : Entries :=
  t.filter fun p => decide (p.1 ∈ l.settings.map Setting.key)

/-- Neither the order of the keys nor keys that name no setting matter. -/
theorem alike_of_perm (ht : t.Sound) (h : (l.known t).Perm (l.known t')) : l.Alike t t' := by
  intro x hx
  have hkey : decide (x.key ∈ l.settings.map Setting.key) = true :=
    decide_eq_true (List.mem_map.mpr ⟨x, hx, rfl⟩)
  have hkeys : ((l.known t).map Prod.fst).Nodup :=
    ht.keys.sublist (List.filter_sublist.map Prod.fst)
  have hsame : t.get? x.key = t'.get? x.key := by
    rw [← Entries.get?_filter (p := fun k => decide (k ∈ l.settings.map Setting.key)) hkey t,
      ← Entries.get?_filter (p := fun k => decide (k ∈ l.settings.map Setting.key)) hkey t']
    exact Entries.get?_of_perm hkeys h x.key
  rw [← hsame]
  exact l.alike_refl t x hx

/-! ### Sections within documents -/

/-- A section is read as the table that it comes to. -/
lemma read_eq (l : Layout σ) (start : σ) (n : Node) :
    (∃ t, n.settings? l.shape.fields = some t ∧ l.shape.read start n = l.shape.setAll start t) ∨
      n.settings? l.shape.fields = none ∧ ∃ e, l.shape.read start n = .error e := by
  cases n with
  | table form t => exact .inl ⟨t, rfl, rfl⟩
  | array items => exact .inl ⟨_, rfl, rfl⟩
  | tables items => exact .inl ⟨_, rfl, rfl⟩
  | datetime text => exact .inl ⟨[], rfl, rfl⟩
  | _ => exact .inr ⟨rfl, _, rfl⟩

end Layout

/-- A section, which starts out as `start`. -/
def Kind.part (l : Layout σ) (start : σ) : Kind σ where
  fit := l.shape.read start
  Means n s := ∃ t, n.settings? l.shape.fields = some t ∧ l.Told t start s
  Fits n := ∃ t, n.settings? l.shape.fields = some t ∧ l.Fits t
  Alike n n' := n = n' ∨ ∃ t t', n.settings? l.shape.fields = some t ∧
    n'.settings? l.shape.fields = some t' ∧ l.Alike t t'
  fit_iff {n s} hn := by
    have hfields : l.shape.fields.Nodup := l.fields_eq ▸ l.distinct
    rcases l.read_eq start n with ⟨t, ht, hread⟩ | ⟨hnone, e, hread⟩
    · rw [hread, Layout.setAll_iff (hn.settings hfields ht), ht]
      simp only [Option.some.injEq, exists_eq_left']
    · simp [hread, hnone]
  fits_iff {n} hn := by
    have hfields : l.shape.fields.Nodup := l.fields_eq ▸ l.distinct
    constructor
    · rintro ⟨s, t, ht, htold⟩
      exact ⟨t, ht, (Layout.exists_told_iff (hn.settings hfields ht)).mp ⟨s, htold⟩⟩
    · rintro ⟨t, ht, hfits⟩
      obtain ⟨s, hs⟩ := (Layout.exists_told_iff (hn.settings hfields ht)).mpr hfits
      exact ⟨s, t, ht, hs⟩
  alike_refl _ := .inl rfl
  means_congr {n n'} h s := by
    rcases h with rfl | ⟨t, t', ht, ht', halike⟩
    · exact Iff.rfl
    · rw [ht, ht']
      simp only [Option.some.injEq, exists_eq_left', Layout.told_congr halike]

/-- Tables that differ in the order of their keys, in keys that name no setting, or in the form in
which they are written are alike. -/
lemma Kind.alike_part_of_perm {l : Layout σ} {t t' : Entries} (ht : t.Sound)
    (h : (l.known t).Perm (l.known t')) (form form' : TableForm) (start : σ) :
    (Kind.part l start).Alike (.table form t) (.table form' t') :=
  .inr ⟨t, t', rfl, rfl, Layout.alike_of_perm ht h⟩

@[simp] lemma Kind.fit_part (l : Layout σ) (start : σ) :
    (Kind.part l start).fit = l.shape.read start := rfl

end Config.Decode

end Switchboard
