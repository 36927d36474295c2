import Mathlib.Data.List.Forall2
import Mathlib.Data.Nat.Digits.Defs
import Mathlib.Tactic.Ring
import Switchboard.Connect.Candidates

/-!
# What service names stand for

The grammar of service names is said here without a reader.  `Numeral.IsDecimal` tells which runs of
digits there are and what each is worth, digit by digit and with any number of zeros in front;
`Service.Alike` tells which texts are the same up to the case of ASCII letters, and
`Service.WellKnown` lists the names.  From these `Service.Denotes` tells what a name stands for.

The reader of service names accepts exactly what the grammar has, and finds the port that it says
(`Service.port?_eq_some_iff`).  It tries numerals first, which hides no name: what is alike to a
well-known name starts with a letter (`Service.unsigned?_of_alike`).  So the resolver of the
operating system resolves names by the grammar, and requests for a numeric port to that port
(`Service.resolves_by_grammar`).
-/

namespace Switchboard

/-! ### Decimal numerals -/

namespace Numeral

/-- What a run of decimal digits is worth: its last digit counts ones, the one before it tens, and
so on. -/
def worth (cs : List Char) : Nat :=
  Nat.ofDigits 10 (cs.reverse.map fun c => c.toNat - '0'.toNat)

/-- A decimal numeral of a number: ASCII digits, at least one, with any number of zeros in front. -/
structure IsDecimal (cs : List Char) (n : Nat) : Prop where
  /-- There is a digit. -/
  nonempty : cs ≠ []
  /-- There is nothing but digits. -/
  digits : ∀ c ∈ cs, c.isDigit = true
  /-- They are worth the number. -/
  value : worth cs = n

/-- The first digit counts as much as the number of digits behind it says. -/
lemma worth_cons (c : Char) (cs : List Char) :
    worth (c :: cs) = (c.toNat - '0'.toNat) * 10 ^ cs.length + worth cs := by
  rw [worth, List.reverse_cons, List.map_append, Nat.ofDigits_append, List.map_singleton,
    Nat.ofDigits_singleton, List.length_map, List.length_reverse, worth]
  ring

/-- The digits of base ten are the ASCII digits. -/
lemma digit?_ten_eq_some_iff {c : Char} {d : Nat} :
    digit? 10 c = some d ↔ c.isDigit = true ∧ c.toNat - '0'.toNat = d := by
  have hzero : '0'.toNat = 48 := rfl
  have hnine : '9'.toNat = 57 := rfl
  have hsmall : 'a'.toNat = 97 ∧ 'f'.toNat = 102 := ⟨rfl, rfl⟩
  have hcapital : 'A'.toNat = 65 ∧ 'F'.toNat = 70 := ⟨rfl, rfl⟩
  unfold digit?
  simp only [Option.filter_eq_some_iff, Char.isDigit, ge_iff_le, Bool.and_eq_true,
    decide_eq_true_eq, Char.le_def, UInt32.le_iff_toNat_le, Char.toNat_val]
  -- beyond the decimal digits come those from ten on, which are too large
  split
  · simp only [Option.some.injEq]
    omega
  · split
    · simp only [Option.some.injEq]
      omega
    · split
      · simp only [Option.some.injEq]
        omega
      · simp only [reduceCtorEq, false_and, false_iff]
        omega

/-- Digits behind a numeral of some value move it up by as many places, and add what they are worth.
-/
lemma extend?_ten_eq_some_iff {n m : Nat} {cs : List Char} :
    extend? 10 n cs = some m ↔
      (∀ c ∈ cs, c.isDigit = true) ∧ n * 10 ^ cs.length + worth cs = m := by
  induction cs generalizing n with
  | nil => simp [extend?, worth]
  | cons c cs ih =>
    have hmove (d : Nat) : (n * 10 + d) * 10 ^ cs.length + worth cs =
        n * 10 ^ (cs.length + 1) + (d * 10 ^ cs.length + worth cs) := by ring
    rw [extend?, List.forall_mem_cons, worth_cons, List.length_cons]
    cases hdigit : digit? 10 c with
    | none =>
      have hno : ¬c.isDigit = true := fun h => by
        cases (digit?_ten_eq_some_iff.mpr ⟨h, rfl⟩).symm.trans hdigit
      simp [hno]
    | some d =>
      obtain ⟨hc, rfl⟩ := digit?_ten_eq_some_iff.mp hdigit
      simp only [ih, hc, true_and, hmove]

/-- The decimal numerals of a number are those that read as it. -/
lemma value?_ten_eq_some_iff {cs : List Char} {n : Nat} :
    value? 10 cs = some n ↔ IsDecimal cs n := by
  cases cs with
  | nil => exact ⟨fun h => absurd h (by simp [value?]), fun h => absurd rfl h.nonempty⟩
  | cons c cs =>
    change extend? 10 0 (c :: cs) = some n ↔ _
    rw [extend?_ten_eq_some_iff, Nat.zero_mul, Nat.zero_add]
    exact ⟨fun h => ⟨List.cons_ne_nil _ _, h.1, h.2⟩, fun h => ⟨h.digits, h.value⟩⟩

/-- A plus sign, or none. -/
def IsSign (cs : List Char) : Prop := cs = [] ∨ cs = ['+']

/-- What reads as a number with an optional plus sign is one of its decimal numerals with such a
sign, if it is not too large. -/
lemma unsigned?_eq_some_iff {max n : Nat} {cs : List Char} :
    unsigned? max cs = some n ↔
      (∃ sign digits, cs = sign ++ digits ∧ IsSign sign ∧ IsDecimal digits n) ∧ n ≤ max := by
  have hbody (body : List Char) :
      (value? 10 body).filter (· ≤ max) = some n ↔ IsDecimal body n ∧ n ≤ max := by
    rw [Option.filter_eq_some_iff, value?_ten_eq_some_iff, decide_eq_true_eq]
  unfold unsigned?
  split
  · rename_i rest
    rw [hbody]
    refine and_congr_left fun _ => ⟨fun h => ⟨['+'], rest, rfl, .inr rfl, h⟩, ?_⟩
    rintro ⟨sign, digits, htext, rfl | rfl, h⟩
    · -- a plus sign is no digit
      obtain rfl : '+' :: rest = digits := htext
      cases h.digits '+' List.mem_cons_self
    · obtain rfl := List.tail_eq_of_cons_eq htext
      exact h
  · rename_i hunsigned
    rw [hbody]
    refine and_congr_left fun _ => ⟨fun h => ⟨[], cs, rfl, .inl rfl, h⟩, ?_⟩
    rintro ⟨sign, digits, rfl, rfl | rfl, h⟩
    · exact h
    · exact absurd rfl (hunsigned digits)

end Numeral

/-! ### Texts up to case -/

namespace Service

/-- Characters that are the same up to the case of an ASCII letter. -/
inductive AlikeChar : Char → Char → Prop where
  /-- The same character. -/
  | same (c : Char) : AlikeChar c c
  /-- A capital and its small letter. -/
  | capital {c d : Char} (letter : c.isUpper = true) (apart : d.toNat = c.toNat + 32) :
      AlikeChar c d
  /-- A small letter and its capital. -/
  | small {c d : Char} (letter : d.isUpper = true) (apart : c.toNat = d.toNat + 32) :
      AlikeChar c d

/-- Texts that are the same up to the case of ASCII letters. -/
def Alike (s t : String) : Prop := List.Forall₂ AlikeChar s.toList t.toList

lemma isUpper_iff {c : Char} : c.isUpper = true ↔ 65 ≤ c.toNat ∧ c.toNat ≤ 90 := by
  have hval : c.isUpper = true ↔ 65 ≤ c.val ∧ c.val ≤ 90 := decide_eq_true_iff
  rw [hval, UInt32.le_iff_toNat_le, UInt32.le_iff_toNat_le]
  rfl

/-- A capital and its small letter are 32 apart. -/
lemma toNat_toLower (c : Char) :
    c.toLower.toNat = if c.isUpper then c.toNat + 32 else c.toNat := by
  unfold Char.toLower
  split
  · rename_i hc
    have hupper : c.isUpper = true := decide_eq_true hc
    have hbound : c.val.toNat ≤ 90 := (isUpper_iff.mp hupper).2
    rw [if_pos hupper]
    change (c.val + 32).toNat = c.val.toNat + 32
    rw [UInt32.toNat_add]
    refine Nat.mod_eq_of_lt ?_
    change c.val.toNat + 32 < 2 ^ 32
    omega
  · rename_i hc
    have hother : ¬c.isUpper = true := fun h => hc (of_decide_eq_true h)
    rw [if_neg hother]

/-- Characters are the same up to case if their small letters are the same. -/
lemma alikeChar_iff {c d : Char} : AlikeChar c d ↔ c.toLower = d.toLower := by
  rw [← Char.toNat_inj, toNat_toLower, toNat_toLower]
  constructor
  · rintro (_ | ⟨hc, hd⟩ | ⟨hd, hc⟩)
    · rfl
    · have hbound := isUpper_iff.mp hc
      have hother : ¬d.isUpper = true := by
        rw [isUpper_iff]
        omega
      rw [if_pos hc, if_neg hother, hd]
    · have hbound := isUpper_iff.mp hd
      have hother : ¬c.isUpper = true := by
        rw [isUpper_iff]
        omega
      rw [if_pos hd, if_neg hother, hc]
  · intro h
    split at h <;> split at h
    · exact Char.toNat_inj.mp (Nat.add_right_cancel h) ▸ .same c
    · exact .capital ‹_› h.symm
    · exact .small ‹_› h
    · exact Char.toNat_inj.mp h ▸ .same c

/-- Texts are the same up to case if they are the same in small letters. -/
lemma alike_iff {s t : String} : Alike s t ↔ lowered s = lowered t := by
  have hchar : AlikeChar = fun c d => c.toLower = d.toLower := by
    ext c d
    exact alikeChar_iff
  rw [lowered, lowered, String.ofList_inj, ← List.forall₂_eq_eq_eq, List.forall₂_map_left_iff,
    List.forall₂_map_right_iff, Alike, hchar]

/-! ### The grammar -/

/-- The well-known names and their ports. -/
inductive WellKnown : String → Port → Prop where
  | ftp : WellKnown "ftp" 21
  | ssh : WellKnown "ssh" 22
  | telnet : WellKnown "telnet" 23
  | smtp : WellKnown "smtp" 25
  | domain : WellKnown "domain" 53
  | http : WellKnown "http" 80
  | https : WellKnown "https" 443

/-- What a service name stands for. -/
inductive Denotes (s : String) (p : Port) : Prop where
  /-- A decimal numeral, with a plus sign in front or without, stands for its value. -/
  | number (sign digits : List Char) (text : s.toList = sign ++ digits)
      (signed : Numeral.IsSign sign) (value : Numeral.IsDecimal digits p.toNat)
  /-- A well-known name, in whichever case, stands for its port. -/
  | name (name : String) (known : WellKnown name p) (alike : Alike s name)

/-! ### The reader -/

variable {s name : String} {p : Port}

/-- The table of the reader has the well-known names. -/
lemma lookup_wellKnown_iff : wellKnown.lookup name = some p ↔ WellKnown name p := by
  constructor
  · intro h
    obtain ⟨before, behind, htable, -⟩ := List.lookup_eq_some_iff.mp h
    have hmem : (name, p) ∈ wellKnown := htable ▸ List.mem_append_right before List.mem_cons_self
    simp only [wellKnown, List.mem_cons, Prod.mk.injEq, List.not_mem_nil, or_false] at hmem
    rcases hmem with ⟨rfl, rfl⟩ | ⟨rfl, rfl⟩ | ⟨rfl, rfl⟩ | ⟨rfl, rfl⟩ | ⟨rfl, rfl⟩ | ⟨rfl, rfl⟩ |
      ⟨rfl, rfl⟩ <;> constructor
  · intro h
    cases h <;> decide

/-- The well-known names are in small letters. -/
lemma WellKnown.lowered (h : WellKnown name p) : lowered name = name := by
  cases h <;> decide

/-- The well-known names start with a letter. -/
lemma WellKnown.exists_letter (h : WellKnown name p) :
    ∃ c cs, name.toList = c :: cs ∧ c.isDigit = false ∧ c ≠ '+' := by
  cases h <;> exact ⟨_, _, rfl, by decide, by decide⟩

/-- Digits and plus signs have no case. -/
lemma AlikeChar.eq_of_caseless {c d : Char} (alike : AlikeChar c d)
    (caseless : c.isDigit = true ∨ c = '+') : c = d := by
  have hlow : c.toNat ≤ 57 := by
    rcases caseless with hdigit | rfl
    · exact (of_decide_eq_true (Bool.and_eq_true_iff.mp hdigit).2 : c.val ≤ 57)
    · decide
  cases alike with
  | same => rfl
  | capital letter apart =>
    have hbound := isUpper_iff.mp letter
    omega
  | small letter apart =>
    have hbound := isUpper_iff.mp letter
    omega

/-- No well-known name is a numeral, in whichever case it is written. -/
lemma unsigned?_of_alike (known : WellKnown name p) (alike : Alike s name) (max : Nat) :
    Numeral.unsigned? max s.toList = none := by
  refine Option.eq_none_iff_forall_ne_some.mpr fun n hread => ?_
  obtain ⟨⟨sign, digits, htext, hsign, hdigits⟩, -⟩ := Numeral.unsigned?_eq_some_iff.mp hread
  -- the first character is a sign or a digit, and that of the name a letter
  obtain ⟨c, rest, hhead, hcaseless⟩ :
      ∃ c rest, s.toList = c :: rest ∧ (c.isDigit = true ∨ c = '+') := by
    rcases hsign with rfl | rfl
    · obtain ⟨c, rest, rfl⟩ := List.exists_cons_of_ne_nil hdigits.nonempty
      exact ⟨c, rest, htext, .inl (hdigits.digits c List.mem_cons_self)⟩
    · exact ⟨'+', digits, htext, .inr rfl⟩
  obtain ⟨d, ds, hname, hdigit, hplus⟩ := known.exists_letter
  rw [Alike, hhead, hname, List.forall₂_cons] at alike
  obtain rfl := alike.1.eq_of_caseless hcaseless
  rcases hcaseless with hno | hno
  · cases hdigit.symm.trans hno
  · exact hplus hno

/-- The reader of service names finds what they stand for, and accepts no others. -/
theorem port?_eq_some_iff : port? s = some p ↔ Denotes s p := by
  unfold port?
  constructor
  · intro h
    cases hread : Numeral.unsigned? 65535 s.toList with
    | some n =>
      obtain rfl : UInt16.ofNat n = p := by simpa [hread] using h
      obtain ⟨⟨sign, digits, htext, hsign, hdigits⟩, hmax⟩ :=
        Numeral.unsigned?_eq_some_iff.mp hread
      have hfits : (UInt16.ofNat n).toNat = n := UInt16.toNat_ofNat_of_lt' (Nat.lt_succ_of_le hmax)
      exact .number sign digits htext hsign (hfits.symm ▸ hdigits)
    | none =>
      rw [hread] at h
      have hknown := lookup_wellKnown_iff.mp h
      exact .name (lowered s) hknown (alike_iff.mpr hknown.lowered.symm)
  · rintro (⟨sign, digits, htext, hsign, hdigits⟩ | ⟨name, hknown, halike⟩)
    · have hread : Numeral.unsigned? 65535 s.toList = some p.toNat :=
        Numeral.unsigned?_eq_some_iff.mpr
          ⟨⟨sign, digits, htext, hsign, hdigits⟩, Nat.le_of_lt_succ p.toNat_lt⟩
      simp [hread]
    · have hsame : lowered s = name := (alike_iff.mp halike).trans hknown.lowered
      rw [unsigned?_of_alike hknown halike, hsame]
      exact lookup_wellKnown_iff.mpr hknown

/-- The numeral of a port stands for it. -/
lemma denotes_decimal (p : Port) : Denotes (Numeral.decimal p.toNat) p := by
  have hdigits := Numeral.value?_ten_eq_some_iff.mp
    (Numeral.value?_digits (by decide) (by decide) p.toNat)
  refine .number [] _ ?_ (.inl rfl) hdigits
  rw [Numeral.decimal, String.toList_ofList, List.nil_append]

/-! ### The resolver of the operating system -/

/-- A host and a service are resolved if the service stands for a port and the host has addresses;
then they are resolved to these addresses with that port. -/
lemma system_eq_ok_iff {lookup : NameLookup} {host : String} {found : List Endpoint} :
    Resolver.system lookup host s = .ok found ↔
      ∃ p ips, Denotes s p ∧ Resolver.addresses lookup host = .ok ips ∧ ips ≠ [] ∧
        found = ips.map fun ip => ⟨ip, p⟩ := by
  unfold Resolver.system
  constructor
  · intro h
    cases hport : port? s with
    | none => simp [hport] at h
    | some p =>
      rw [hport] at h
      cases hips : Resolver.addresses lookup host with
      | error e => simp [hips] at h
      | ok ips =>
        cases ips with
        | nil => simp [hips] at h
        | cons ip ips =>
          rw [hips] at h
          exact ⟨p, ip :: ips, port?_eq_some_iff.mp hport, rfl, List.cons_ne_nil _ _,
            (Except.ok.inj h).symm⟩
  · rintro ⟨p, ips, hdenotes, hips, hsome, rfl⟩
    obtain ⟨ip, rest, rfl⟩ := List.exists_cons_of_ne_nil hsome
    rw [port?_eq_some_iff.mpr hdenotes, hips]

/-- **Service names are read by their grammar.**  The reader finds a port exactly if the name stands
for it: a decimal numeral with a plus sign in front or without, or a well-known name in whichever
case.  A request for a host and a numeric port is resolved exactly if the host has addresses, and
then to each of them with that very port. -/
theorem resolves_by_grammar :
    (∀ s p, port? s = some p ↔ Denotes s p) ∧
      ∀ (lookup : NameLookup) (host : String) (p : Port),
        let r := Connect.Request.toPort host p
        Denotes r.service p ∧
          ∀ found, Resolver.system lookup r.host r.service = .ok found ↔
            ∃ ips, Resolver.addresses lookup host = .ok ips ∧ ips ≠ [] ∧
              found = ips.map fun ip => ⟨ip, p⟩ := by
  refine ⟨fun s p => port?_eq_some_iff, fun lookup host p => ?_⟩
  intro r
  have hdenotes : Denotes r.service p := denotes_decimal p
  refine ⟨hdenotes, fun found => ?_⟩
  rw [system_eq_ok_iff]
  constructor
  · rintro ⟨q, ips, hother, h⟩
    -- a name stands for one port at most, since the reader finds it
    have hsame := (port?_eq_some_iff.mpr hdenotes).symm.trans (port?_eq_some_iff.mpr hother)
    obtain rfl := Option.some.inj hsame
    exact ⟨ips, h⟩
  · rintro ⟨ips, h⟩
    exact ⟨p, ips, hdenotes, h⟩

/-- Zeros in front of a numeral do not count, but its value does. -/
example : port? "+0000000000000000000065535" = some 65535 ∧ port? "65536" = none ∧
    port? "HttpS" = some 443 ∧ port? "" = none := by
  decide +kernel

end Service

end Switchboard
