/-!
# Octets

Everything that crosses a socket, sits in a buffer or comes out of a file is a list of octets. Lists
keep the laws short: what a buffer holds after an operation is said with `++`, `take` and `drop`.
-/

namespace Switchboard

/-- A run of octets, first octet first. -/
abbrev Bytes := List UInt8

namespace Bytes

/-- The UTF-8 form of a text. -/
def ofText (s : String) : Bytes := s.toUTF8.toList

/-- The text whose UTF-8 form is `b`, if there is one. -/
def toText? (b : Bytes) : Option String := String.fromUTF8? (ByteArray.mk b.toArray)

/-- The octets of an ASCII text, one per character. -/
def ofAscii (s : String) : Bytes := s.toList.map fun c => UInt8.ofNat c.toNat

/-- The blank octets a reservation starts out with. -/
def zeros (n : Nat) : Bytes := List.replicate n 0

@[simp] theorem length_zeros (n : Nat) : (zeros n).length = n := by
  simp [zeros]

/-- The number written in base 256 by `b`, most significant octet first. -/
def toNat (b : Bytes) : Nat := b.foldl (fun n x => n * 256 + x.toNat) 0

/-- The last `n` octets of the base-256 numeral of `v`, most significant first. -/
def ofNat : Nat → Nat → Bytes
  | 0, _ => []
  | n + 1, v => ofNat n (v / 256) ++ [UInt8.ofNat (v % 256)]

@[simp] theorem length_ofNat (n v : Nat) : (ofNat n v).length = n := by
  induction n generalizing v with
  | zero => rfl
  | succ n ih => simp [ofNat, ih]

end Bytes

end Switchboard
