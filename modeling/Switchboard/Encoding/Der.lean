import Switchboard.Bytes

/-!
# Tagged values

Certificates and keys are nested values, each a tag byte, a length and that many bytes. Lengths are
written in the shortest way, and tags fit into one byte. A reader takes the rest of a value and
gives what it read with what follows it; `whole` asks that nothing follows.
-/

namespace Switchboard.Der

/-- A reader of part of a value. -/
abbrev Reader (α : Type) := Bytes → Option (α × Bytes)

/-- The tag of truth values. -/
def tagBoolean : UInt8 := 0x01

/-- The tag of whole numbers. -/
def tagInteger : UInt8 := 0x02

/-- The tag of strings of bits. -/
def tagBitString : UInt8 := 0x03

/-- The tag of strings of bytes. -/
def tagOctetString : UInt8 := 0x04

/-- The tag of the names of algorithms and the like. -/
def tagObject : UInt8 := 0x06

/-- The tag of values that consist of further values. -/
def tagSequence : UInt8 := 0x30

/-- The tag of the field with a number that is given explicitly. -/
def tagField (n : Nat) : UInt8 := 0xa0 + UInt8.ofNat n

/-- A length, and what follows it. -/
def length? : Reader Nat
  | [] => none
  | x :: rest =>
    if x < 0x80 then some (x.toNat, rest)
    else
      let count := x.toNat - 0x80
      if count = 0 ∨ count > 2 ∨ rest.length < count then none
      else
        let n := Bytes.toNat (rest.take count)
        let least := if count = 1 then 128 else 256
        if n < least ∨ n ≥ 65535 then none else some (n, rest.drop count)

/-- A value of any tag: the tag, the content, and what follows. -/
def any? : Reader (UInt8 × Bytes)
  | [] => none
  | tag :: rest =>
    if tag &&& 0x1f = 0x1f then none
    else
      match length? rest with
      | none => none
      | some (n, rest) => if rest.length < n then none else some ((tag, rest.take n), rest.drop n)

/-- A value of a given tag. -/
def tagged? (tag : UInt8) : Reader Bytes := fun b =>
  match any? b with
  | some ((t, content), rest) => if t = tag then some (content, rest) else none
  | none => none

/-- A value of a given tag, if the next one has it. -/
def optional? (tag : UInt8) : Reader (Option Bytes) := fun b =>
  if b.head? = some tag then (tagged? tag b).map fun (content, rest) => (some content, rest)
  else some (none, b)

/-- The content of a value of a given tag behind which nothing follows. -/
def whole? (tag : UInt8) (b : Bytes) : Option Bytes :=
  match tagged? tag b with
  | some (content, []) => some content
  | _ => none

/-- A number that is not negative, written in the shortest way. -/
def natural? : Reader Nat := fun b =>
  match tagged? tagInteger b with
  | some ([x], rest) => if x < 0x80 then some (x.toNat, rest) else none
  | some (x :: y :: more, rest) =>
    if x ≥ 0x80 ∨ (x = 0 ∧ y < 0x80) then none else some (Bytes.toNat (x :: y :: more), rest)
  | _ => none

/-- A string of bits whose number is a multiple of eight. -/
def bits? : Reader Bytes := fun b =>
  match tagged? tagBitString b with
  | some (0 :: content, rest) => some (content, rest)
  | _ => none

/-! ### Writing -/

/-- A length in the shortest way. -/
def lengthOf (n : Nat) : Bytes :=
  if n < 128 then [UInt8.ofNat n]
  else if n < 256 then [0x81, UInt8.ofNat n]
  else 0x82 :: Bytes.ofNat 2 n

/-- A value with its tag and length. -/
def tagged (tag : UInt8) (content : Bytes) : Bytes := tag :: lengthOf content.length ++ content

/-- The bytes of a number without leading zeros; `fuel` bounds their count. -/
def minimalBytes : Nat → Nat → Bytes
  | 0, _ => []
  | fuel + 1, n => if n = 0 then [] else minimalBytes fuel (n / 256) ++ [UInt8.ofNat (n % 256)]

/-- A number that is not negative. -/
def natural (n : Nat) : Bytes :=
  let digits := minimalBytes (n.log2 / 8 + 1) n
  let content := match digits with
    | [] => [0]
    | x :: _ => if x ≥ 0x80 then 0 :: digits else digits
  tagged tagInteger content

/-- A string of whole bytes as bits. -/
def bits (content : Bytes) : Bytes := tagged tagBitString (0 :: content)

end Switchboard.Der
