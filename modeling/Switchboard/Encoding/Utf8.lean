import Switchboard.Bytes

/-!
# Text from damaged bytes

Bytes that are meant to be UTF-8 are shown with a replacement character for every part that is not:
a part is a byte that cannot start a character, or the longest start of a character that is broken
off.
-/

namespace Switchboard.Bytes

/-- Whether a byte continues a character. -/
def continues (x : UInt8) : Bool := 0x80 ≤ x && x ≤ 0xbf

/-- How many bytes a character with this first byte has, and the bounds of its second byte. -/
def leadOf (x : UInt8) : Option (Nat × UInt8 × UInt8) :=
  if 0xc2 ≤ x ∧ x ≤ 0xdf then some (2, 0x80, 0xbf)
  else if x = 0xe0 then some (3, 0xa0, 0xbf)
  else if x = 0xed then some (3, 0x80, 0x9f)
  else if 0xe1 ≤ x ∧ x ≤ 0xef then some (3, 0x80, 0xbf)
  else if x = 0xf0 then some (4, 0x90, 0xbf)
  else if 0xf1 ≤ x ∧ x ≤ 0xf3 then some (4, 0x80, 0xbf)
  else if x = 0xf4 then some (4, 0x80, 0x8f)
  else none

/-- The replacement character. -/
def replacement : Char := '\ufffd'

/-- The bytes after the first one that belong to a character of `count` bytes. -/
def tailOf (count : Nat) (low high : UInt8) (rest : Bytes) : Bytes :=
  match rest with
  | [] => []
  | y :: more =>
    if low ≤ y ∧ y ≤ high then y :: (more.take (count - 2)).takeWhile continues else []

/-- The characters of at most `fuel` parts. -/
def lossyChars : Nat → Bytes → List Char
  | 0, _ => []
  | _, [] => []
  | fuel + 1, x :: rest =>
    if x < 0x80 then Char.ofNat x.toNat :: lossyChars fuel rest
    else
      match leadOf x with
      | none => replacement :: lossyChars fuel rest
      | some (count, low, high) =>
        let tail := tailOf count low high rest
        let c :=
          if tail.length = count - 1 then
            let first := x.toNat % 2 ^ (7 - count)
            Char.ofNat (tail.foldl (fun n y => n * 64 + y.toNat % 64) first)
          else replacement
        c :: lossyChars fuel (rest.drop tail.length)

/-- The text of bytes, damaged parts replaced. -/
def toTextLossy (b : Bytes) : String := String.ofList (lossyChars b.length b)

end Switchboard.Bytes
