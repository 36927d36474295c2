import Switchboard.Text.Numeral
import Switchboard.Text.Split

/-!
# Internet addresses

The addresses of both families as the numbers they are, with their usual texts. An address of the
first family is written as four decimal octets without leading zeros. One of the second family is
written as eight groups of at most four hexadecimal digits; a double colon stands for one or more
groups of zeros, and the last two groups may be written as an address of the first family.
Addresses are printed in the recommended form: the first longest run of at least two zero groups is
left out, and an address that embeds one of the first family shows it.
-/

namespace Switchboard

/-- An internet address of either family. -/
inductive IpAddress where
  /-- An address of 32 bits. -/
  | v4 (bits : BitVec 32)
  /-- An address of 128 bits. -/
  | v6 (bits : BitVec 128)
  deriving DecidableEq, Repr

namespace IpAddress

/-- The address of the first family with these octets. -/
def ofOctets (a b c d : Nat) : IpAddress :=
  v4 (BitVec.ofNat 32 (((a * 256 + b) * 256 + c) * 256 + d))

/-- The address that reaches the own machine. -/
def loopback : IpAddress := ofOctets 127 0 0 1

/-- Whether the address is of the first family. -/
def isV4 : IpAddress → Bool
  | v4 _ => true
  | v6 _ => false

/-- Whether this is the all-zero address, which stands for any address of its family. -/
def isUnspecified : IpAddress → Bool
  | v4 bits => bits = 0
  | v6 bits => bits = 0

/-- The all-zero address of the same family. -/
def unspecifiedLike : IpAddress → IpAddress
  | v4 _ => v4 0
  | v6 _ => v6 0

/-- Addresses of the first family come first, and within a family the smaller number does. -/
def rank : IpAddress → Nat
  | v4 bits => bits.toNat
  | v6 bits => UInt32.size + bits.toNat

/-! ### Reading -/

/-- One octet: one to three digits, none of them a leading zero. -/
def octet? (cs : List Char) : Option Nat :=
  if cs.length ≤ 3 ∧ (cs.head? ≠ some '0' ∨ cs.length = 1) then
    (Numeral.value? 10 cs).filter (· ≤ 255)
  else none

/-- The number of an address of the first family. -/
def readV4? (cs : List Char) : Option Nat :=
  match (Text.splitAt '.' cs).mapM octet? with
  | some [a, b, c, d] => some (((a * 256 + b) * 256 + c) * 256 + d)
  | _ => none

/-- One group of one to four hexadecimal digits. -/
def group? (cs : List Char) : Option Nat :=
  if cs.length ≤ 4 then Numeral.value? 16 cs else none

/-- Groups between colons; with `embedded` the last one may be an address of the first family. -/
def groups? (embedded : Bool) (cs : List Char) : Option (List Nat) :=
  if cs.isEmpty then some []
  else read (Text.splitAt ':' cs)
where
  /-- Reads the pieces one by one. -/
  read : List (List Char) → Option (List Nat)
    | [] => some []
    | [last] =>
      match group? last with
      | some g => some [g]
      | none =>
        if embedded then (readV4? last).map fun n => [n / 65536, n % 65536] else none
    | piece :: pieces => do
      let g ← group? piece
      let gs ← read pieces
      return g :: gs

/-- The number with these groups of sixteen bits, first one most significant. -/
def ofGroups (gs : List Nat) : Nat := gs.foldl (fun n g => n * 65536 + g) 0

/-- The number of an address of the second family. -/
def readV6? (cs : List Char) : Option Nat :=
  match Text.cutPair? ':' cs with
  | none => (groups? true cs).bind fun gs => if gs.length = 8 then some (ofGroups gs) else none
  | some (before, behind) => do
    let front ← groups? false before
    let back ← groups? true behind
    if front.length + back.length ≤ 7 then
      let gap := List.replicate (8 - front.length - back.length) 0
      return ofGroups (front ++ gap ++ back)
    else none

/-- The address a text stands for. -/
def ofChars? (cs : List Char) : Option IpAddress :=
  match readV4? cs with
  | some n => some (v4 (BitVec.ofNat 32 n))
  | none => (readV6? cs).map fun n => v6 (BitVec.ofNat 128 n)

/-- The address a text stands for. -/
def ofString? (s : String) : Option IpAddress := ofChars? s.toList

/-! ### Printing -/

/-- Four decimal octets. -/
def printV4 (n : Nat) : String :=
  String.intercalate "."
    ([n / 16777216, n / 65536 % 256, n / 256 % 256, n % 256].map Numeral.decimal)

/-- The eight groups of an address of the second family. -/
def groupsOf (n : Nat) : List Nat :=
  (List.range 8).map fun i => n >>> (16 * (7 - i)) % 65536

/-- The start and length of the first longest run of zeros. -/
def longestZeroRun (gs : List Nat) : Nat × Nat :=
  (List.range gs.length).foldl (fun (best : Nat × Nat) i =>
    let length := ((gs.drop i).takeWhile (· = 0)).length
    if length > best.2 then (i, length) else best) (0, 0)

/-- Groups with colons between them. -/
def printGroups (gs : List Nat) : String := String.intercalate ":" (gs.map Numeral.hex)

/-- The recommended form of an address of the second family. -/
def printV6 (n : Nat) : String :=
  if n / UInt32.size = 65535 then "::ffff:" ++ printV4 (n % UInt32.size)
  else
    let gs := groupsOf n
    let (start, length) := longestZeroRun gs
    if length > 1 then
      printGroups (gs.take start) ++ "::" ++ printGroups (gs.drop (start + length))
    else printGroups gs

/-- The text of an address. -/
def print : IpAddress → String
  | v4 bits => printV4 bits.toNat
  | v6 bits => printV6 bits.toNat

end IpAddress

end Switchboard
