/-!
# Association lists

Small tables keyed by values, kept in the order in which their keys first came in. `put` replaces
the value of a key in place or appends a new key, `erase` removes a key.
-/

namespace Switchboard

/-- A table of values by key. -/
abbrev Table (κ α : Type) := List (κ × α)

namespace Table

variable {κ α : Type} [DecidableEq κ]

/-- The value of a key. -/
def get? (t : Table κ α) (k : κ) : Option α := (t.find? (·.1 = k)).map Prod.snd

/-- Gives a key a value, in place if it has one. -/
def put (t : Table κ α) (k : κ) (a : α) : Table κ α :=
  match t with
  | [] => [(k, a)]
  | (k', a') :: rest => if k' = k then (k, a) :: rest else (k', a') :: put rest k a

/-- Removes a key. -/
def erase (t : Table κ α) (k : κ) : Table κ α := t.filter (·.1 ≠ k)

/-- The keys in order. -/
def keys (t : Table κ α) : List κ := t.map Prod.fst

@[simp] theorem get?_nil (k : κ) : get? ([] : Table κ α) k = none := rfl

theorem get?_cons (p : κ × α) (t : Table κ α) (k : κ) :
    get? (p :: t) k = if p.1 = k then some p.2 else get? t k := by
  by_cases h : p.1 = k <;> simp [get?, h]

theorem get?_put (t : Table κ α) (k k' : κ) (a : α) :
    get? (put t k a) k' = if k' = k then some a else get? t k' := by
  induction t with
  | nil =>
    by_cases h : k' = k
    · simp [put, get?_cons, h]
    · simp [put, get?_cons, h, Ne.symm h]
  | cons p t ih =>
    unfold put
    split
    · rename_i h
      by_cases h' : k' = k
      · simp [get?_cons, h']
      · have h1 : ¬ k = k' := fun e => h' e.symm
        have h2 : ¬ p.1 = k' := fun e => h' (by rw [← e, h])
        simp [get?_cons, h', h1, h2]
    · rename_i h
      rw [get?_cons, ih, get?_cons]
      by_cases h' : p.1 = k'
      · have h2 : ¬ k' = k := fun e => h (by rw [h', e])
        simp [h', h2]
      · simp [h']

theorem get?_erase (t : Table κ α) (k k' : κ) :
    get? (erase t k) k' = if k' = k then none else get? t k' := by
  induction t with
  | nil => simp [erase]
  | cons p t ih =>
    have step : erase (p :: t) k = if p.1 = k then erase t k else p :: erase t k := by
      by_cases h : p.1 = k <;> simp [erase, h]
    rw [step, get?_cons]
    by_cases h : p.1 = k
    · rw [if_pos h, ih]
      by_cases h' : k' = k
      · simp [h']
      · have : ¬ p.1 = k' := fun e => h' (by rw [← e, h])
        simp [h', this]
    · rw [if_neg h, get?_cons, ih]
      by_cases h' : k' = k
      · simp [h', h]
      · simp [h']

/-! ### Keys -/

omit [DecidableEq κ] in
@[simp] theorem keys_nil : keys ([] : Table κ α) = [] := rfl

omit [DecidableEq κ] in
@[simp] theorem keys_cons (p : κ × α) (t : Table κ α) : keys (p :: t) = p.1 :: keys t := rfl

/-- The keys are those that have a value. -/
theorem mem_keys_iff {t : Table κ α} {k : κ} : k ∈ keys t ↔ get? t k ≠ none := by
  induction t with
  | nil => simp
  | cons p t ih =>
    rw [keys_cons, List.mem_cons, ih, get?_cons]
    by_cases h : p.1 = k
    · simp [h]
    · have h' : ¬ k = p.1 := fun e => h e.symm
      simp [h, h']

/-- A table without keys is empty. -/
theorem eq_nil_of_get?_eq_none {t : Table κ α} (h : ∀ k, get? t k = none) : t = [] := by
  cases t with
  | nil => rfl
  | cons p t => simpa [get?_cons] using h p.1

theorem keys_put (t : Table κ α) (k : κ) (a : α) :
    keys (put t k a) = if k ∈ keys t then keys t else keys t ++ [k] := by
  induction t with
  | nil => simp [put]
  | cons p t ih =>
    unfold put
    by_cases h : p.1 = k
    · simp [h]
    · have h' : ¬ k = p.1 := fun e => h e.symm
      rw [if_neg h, keys_cons, ih, keys_cons]
      by_cases hk : k ∈ keys t <;> simp [hk, h']

theorem keys_erase (t : Table κ α) (k : κ) : keys (erase t k) = (keys t).filter (· ≠ k) := by
  simp [keys, erase, List.filter_map, Function.comp_def]

/-- Giving a key a value leaves the keys different from each other. -/
theorem nodup_keys_put {t : Table κ α} (h : (keys t).Nodup) (k : κ) (a : α) :
    (keys (put t k a)).Nodup := by
  rw [keys_put]
  split
  · exact h
  · rename_i hk
    rw [List.nodup_append]
    refine ⟨h, by simp, fun x hx y hy => ?_⟩
    have hyk : y = k := by simpa using hy
    rintro rfl
    exact hk (hyk ▸ hx)

/-- Removing a key leaves the others different from each other. -/
theorem nodup_keys_erase {t : Table κ α} (h : (keys t).Nodup) (k : κ) :
    (keys (erase t k)).Nodup := by
  rw [keys_erase]
  exact h.filter _

/-- A table whose first key is removed goes on behind it. -/
theorem erase_cons_self {p : κ × α} {t : Table κ α} (h : (keys (p :: t)).Nodup) :
    erase (p :: t) p.1 = t := by
  have hnew : p.1 ∉ keys t := (List.nodup_cons.mp h).1
  have hall : ∀ q ∈ t, q.1 ≠ p.1 := by
    intro q hq he
    exact hnew (List.mem_map.mpr ⟨q, hq, he⟩)
  simpa [erase] using hall

end Table

end Switchboard
