import Switchboard.Bytes

/-!
# Base 64

Four characters stand for three bytes. Blanks are passed over. Padding at the end may be left out;
where it is written it has to fill the last group of four up. The last group's spare bits are not
looked at. Characters are worked on in blocks of eight.
-/

namespace Switchboard.Base64

/-- The reasons for which a text is refused. -/
inductive Base64Error where
  /-- A byte that belongs to no text in base 64. -/
  | invalidCharacter (byte : UInt8)
  /-- Padding before the last group. -/
  | prematurePadding
  /-- A last group of the wrong length, or padded wrongly. -/
  | invalidTrailingPadding
  deriving DecidableEq, Repr

/-- What a byte means. -/
inductive Symbol where
  | blank
  | padding
  | digit (value : Nat)
  | invalid
  deriving DecidableEq, Repr

/-- The meaning of a byte. -/
def symbolOf (x : UInt8) : Symbol :=
  let n := x.toNat
  if (9 ≤ n ∧ n ≤ 13) ∨ n = 32 then .blank
  else if n = 61 then .padding
  else if 65 ≤ n ∧ n ≤ 90 then .digit (n - 65)
  else if 97 ≤ n ∧ n ≤ 122 then .digit (n - 71)
  else if 48 ≤ n ∧ n ≤ 57 then .digit (n + 4)
  else if n = 43 then .digit 62
  else if n = 47 then .digit 63
  else .invalid

/-- The bytes of a run of digits, as many as they fill. -/
def pack (digits : List Nat) : Bytes :=
  let n := digits.foldl (fun n d => n * 64 + d) 0
  let bits := 6 * digits.length
  Bytes.ofNat (bits / 8) (n >>> (bits % 8))

/-- The bytes of the last group, whose digits come as `none` where they are padding. -/
def lastGroup : List (Option Nat) → Except Base64Error Bytes
  | [] => .ok []
  | [some a, some b] | [some a, some b, none, none] => .ok (pack [a, b])
  | [some a, some b, some c] | [some a, some b, some c, none] => .ok (pack [a, b, c])
  | [some a, some b, some c, some d] => .ok (pack [a, b, c, d])
  | _ => .error .invalidTrailingPadding

/-- The bytes of the last block of at most eight digits: a group of four, if there are more than
four, and the last group. -/
def finish (block : List (Option Nat)) : Except Base64Error Bytes :=
  if block.length ≤ 4 then lastGroup block
  else if (block.take (block.length - 4)).any Option.isNone then .error .prematurePadding
  else if (block.take 4).any Option.isNone then .error .invalidTrailingPadding
  else (pack ((block.take 4).map (·.getD 0)) ++ ·) <$> lastGroup (block.drop 4)

/-- Decodes what follows a block under way; a full block is written out when the next character
comes. -/
def decodeFrom (block : List (Option Nat)) : Bytes → Except Base64Error Bytes
  | [] => finish block
  | x :: rest =>
    let add (item : Option Nat) : Except Base64Error Bytes :=
      if block.length = 8 then
        if block.any Option.isNone then .error .prematurePadding
        else (pack (block.map (·.getD 0)) ++ ·) <$> decodeFrom [item] rest
      else decodeFrom (block ++ [item]) rest
    match symbolOf x with
    | .blank => decodeFrom block rest
    | .invalid => .error (.invalidCharacter x)
    | .padding => add none
    | .digit d => add (some d)

/-- The bytes a text in base 64 stands for. -/
def decode (text : Bytes) : Except Base64Error Bytes := decodeFrom [] text

end Switchboard.Base64
