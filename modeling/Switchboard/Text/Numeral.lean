/-!
# Numerals

Whole numbers written in a base of at most sixteen with ASCII digits. `value?` reads a numeral and
`digits` writes one; reading what was written gives the number back (`value?_digits`). Leading zeros
are read and never written.
-/

namespace Switchboard.Numeral

/-- The value of an ASCII digit in the given base; letters of either case are the digits from
ten. -/
def digit? (base : Nat) (c : Char) : Option Nat :=
  let d :=
    if '0' ≤ c ∧ c ≤ '9' then some (c.toNat - '0'.toNat)
    else if 'a' ≤ c ∧ c ≤ 'f' then some (c.toNat - 'a'.toNat + 10)
    else if 'A' ≤ c ∧ c ≤ 'F' then some (c.toNat - 'A'.toNat + 10)
    else none
  d.filter (· < base)

/-- Reads further digits behind a numeral of value `n`. -/
def extend? (base : Nat) (n : Nat) : List Char → Option Nat
  | [] => some n
  | c :: cs => match digit? base c with
    | some d => extend? base (n * base + d) cs
    | none => none

/-- The number that a nonempty run of digits stands for. -/
def value? (base : Nat) : List Char → Option Nat
  | [] => none
  | cs => extend? base 0 cs

/-- The digit of value `d`, lower case from ten on. -/
def digitChar (d : Nat) : Char := ("0123456789abcdef".toList)[d]?.getD '0'

/-- The numeral of `n` without leading zeros. -/
def digits (base n : Nat) : List Char :=
  if base < 2 ∨ n < base then [digitChar n] else digits base (n / base) ++ [digitChar (n % base)]
termination_by n
decreasing_by exact Nat.div_lt_self (by omega) (by omega)

/-- The decimal numeral of `n`. -/
def decimal (n : Nat) : String := String.ofList (digits 10 n)

/-- The decimal numeral of `n` with a sign if it is negative. -/
def signed (n : Int) : String :=
  if n < 0 then "-" ++ decimal n.natAbs else decimal n.natAbs

/-- The numeral of `n` in lower-case hexadecimal. -/
def hex (n : Nat) : String := String.ofList (digits 16 n)

/-- A decimal numeral with an optional plus sign in front, of value at most `max`. -/
def unsigned? (max : Nat) (cs : List Char) : Option Nat :=
  let body := match cs with
    | '+' :: rest => rest
    | _ => cs
  (value? 10 body).filter (· ≤ max)

theorem extend?_append (base n : Nat) (xs ys : List Char) :
    extend? base n (xs ++ ys) = (extend? base n xs).bind fun m => extend? base m ys := by
  induction xs generalizing n with
  | nil => rfl
  | cons c cs ih =>
    simp only [List.cons_append, extend?]
    cases digit? base c with
    | none => rfl
    | some d => exact ih _

theorem digit?_digitChar {base d : Nat} (hb : base ≤ 16) (hd : d < base) :
    digit? base (digitChar d) = some d := by
  have h : ∀ b : Fin 17, ∀ d : Fin 16, d.val < b.val →
      digit? b.val (digitChar d.val) = some d.val := by decide
  exact h ⟨base, by omega⟩ ⟨d, by omega⟩ hd

theorem digits_ne_nil (base n : Nat) : digits base n ≠ [] := by
  unfold digits
  split <;> simp

theorem extend?_digits {base : Nat} (h2 : 2 ≤ base) (h16 : base ≤ 16) (n : Nat) :
    extend? base 0 (digits base n) = some n := by
  induction n using Nat.strongRecOn with
  | ind n ih =>
    unfold digits
    split
    · rename_i h
      have hn : n < base := by omega
      simp [extend?, digit?_digitChar h16 hn]
    · rename_i h
      have hlt : n / base < n := Nat.div_lt_self (by omega) (by omega)
      have hmod : n % base < base := Nat.mod_lt _ (by omega)
      simp [extend?_append, ih _ hlt, extend?, digit?_digitChar h16 hmod, Nat.div_add_mod']

/-- A written numeral reads back as its number. -/
theorem value?_digits {base : Nat} (h2 : 2 ≤ base) (h16 : base ≤ 16) (n : Nat) :
    value? base (digits base n) = some n := by
  have h := digits_ne_nil base n
  unfold value?
  split
  · contradiction
  · exact extend?_digits h2 h16 n

end Switchboard.Numeral
