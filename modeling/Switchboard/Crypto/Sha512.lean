import Switchboard.Bytes

/-!
# A digest of 512 bits

The digest works on blocks of 128 bytes with eighty rounds each. Its constants are the first 64 bits
of the fractional parts of the square roots of the first eight primes and of the cube roots of the
first eighty.
-/

namespace Switchboard.Crypto.Sha512

/-- Whether a number from 2 on has no divisor between 2 and `bound`. -/
def isPrimeUpTo (n bound : Nat) : Bool :=
  (List.range (bound + 1)).all fun d => decide (d < 2 ∨ n % d ≠ 0)

/-- The first eighty primes. -/
def primes : List Nat :=
  ((List.range 410).filter fun n => decide (2 ≤ n) && isPrimeUpTo n (min (n - 1) 20)).take 80

/-- The greatest number whose `k`-th power is at most `n`, among those below `2 ^ bits`. -/
def root (k n : Nat) : Nat → Nat → Nat
  | 0, known => known
  | bits + 1, known =>
    let next := known + 1 <<< bits
    root k n bits (if next ^ k ≤ n then next else known)

/-- The first 64 bits of the fractional part of the `k`-th root of `n`. -/
def fraction (k n : Nat) : UInt64 := UInt64.ofNat (root k (n <<< (64 * k)) 70 0)

/-- The constants of the rounds. -/
def roundConstants : List UInt64 := primes.map (fraction 3)

/-- The words that a digest starts from. -/
def initialWords : List UInt64 := (primes.take 8).map (fraction 2)

/-- Rotates a word to the right. -/
def rotate (x : UInt64) (n : UInt64) : UInt64 := (x >>> n) ||| (x <<< (64 - n))

/-- The message filled up to whole blocks: a bit that is set, zeros, and the length in bits. -/
def padded (message : Bytes) : Bytes :=
  let n := message.length
  let fill := (239 - n % 128) % 128
  message ++ 0x80 :: Bytes.zeros fill ++ Bytes.ofNat 16 (8 * n)

/-- The words of a block. -/
def wordsOf (block : Bytes) : List UInt64 :=
  (List.range 16).map fun i => UInt64.ofNat (Bytes.toNat ((block.drop (8 * i)).take 8))

/-- The sixteen words of a block extended by `count` more, the newest first. -/
def schedule : Nat → List UInt64 → List UInt64
  | 0, words => words
  | count + 1, words =>
    let word (i : Nat) : UInt64 := words[i - 1]?.getD 0
    let a := word 15
    let b := word 2
    let small := rotate a 1 ^^^ rotate a 8 ^^^ (a >>> 7)
    let large := rotate b 19 ^^^ rotate b 61 ^^^ (b >>> 6)
    schedule count ((word 16 + small + word 7 + large) :: words)

/-- One round on the eight working words. -/
def round (state : List UInt64) (constant word : UInt64) : List UInt64 :=
  match state with
  | [a, b, c, d, e, f, g, h] =>
    let mixE := rotate e 14 ^^^ rotate e 18 ^^^ rotate e 41
    let choice := (e &&& f) ^^^ ((e ^^^ 0xffffffffffffffff) &&& g)
    let first := h + mixE + choice + constant + word
    let mixA := rotate a 28 ^^^ rotate a 34 ^^^ rotate a 39
    let majority := (a &&& b) ^^^ (a &&& c) ^^^ (b &&& c)
    [first + mixA + majority, a, b, c, d + first, e, f, g]
  | _ => state

/-- Takes one block in. -/
def compress (constants state : List UInt64) (block : Bytes) : List UInt64 :=
  let words := (schedule 64 (wordsOf block).reverse).reverse
  let mixed := (constants.zip words).foldl (fun s (k, w) => round s k w) state
  state.zipWith (· + ·) mixed

/-- Takes `count` blocks in. -/
def blocks (constants : List UInt64) : Nat → List UInt64 → Bytes → List UInt64
  | 0, state, _ => state
  | count + 1, state, message =>
    blocks constants count (compress constants state (message.take 128)) (message.drop 128)

/-- The digest of a message. -/
def digest (message : Bytes) : Bytes :=
  let whole := padded message
  (blocks roundConstants (whole.length / 128) initialWords whole).flatMap
    fun w => Bytes.ofNat 8 w.toNat

end Switchboard.Crypto.Sha512
