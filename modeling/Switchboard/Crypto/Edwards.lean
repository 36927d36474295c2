import Switchboard.Crypto.Curve
import Switchboard.Crypto.Sha512

/-!
# The twisted Edwards curve for signatures

The points of `-x² + y² = 1 + d x² y²` modulo `2^255 - 19`. Points are kept as four coordinates
`(X, Y, Z, T)` with `x = X / Z`, `y = Y / Z` and `x y = T / Z`; one formula adds any two points.
A private key is a seed, whose digest gives the number that the base point is multiplied by.
-/

namespace Switchboard.Crypto.Edwards

/-- The prime modulus. -/
def p : Nat := (1 <<< 255) - 19

/-- The constant of the equation. -/
def d : Nat := 37095705934669439343138083508754565189542113879843219016388785533085940283555

/-- A point in four coordinates. -/
structure Point where
  /-- The first coordinate times `z`. -/
  x : Nat
  /-- The second coordinate times `z`. -/
  y : Nat
  /-- The common denominator. -/
  z : Nat
  /-- The product of both coordinates times `z`. -/
  t : Nat
  deriving DecidableEq, Repr

/-- The point that changes nothing when added. -/
def zero : Point := ⟨0, 1, 1, 0⟩

/-- The base point. -/
def base : Point :=
  let x := 15112221349535400772501151409588531511454012693041857206046113283949847762202
  let y := 46316835694926478169428394003475163141307993866256225615783033603165251855960
  ⟨x, y, 1, x * y % p⟩

/-- The sum of two points. -/
def add (a b : Point) : Point :=
  let m := sub p a.y a.x * sub p b.y b.x % p
  let n := (a.y + a.x) * (b.y + b.x) % p
  let k := a.t * (2 * d % p) * b.t % p
  let l := a.z * 2 * b.z % p
  let e := sub p n m
  let f := sub p l k
  let g := (l + k) % p
  let h := (n + m) % p
  ⟨e * f % p, g * h % p, f * g % p, e * h % p⟩

/-- A multiple of a point, from the most significant bit down; `bits` is the number of bits. -/
def multiple (a : Point) (n : Nat) : Nat → Point
  | 0 => zero
  | bits + 1 =>
    let half := multiple a (n / 2) bits
    let twice := add half half
    if n % 2 = 1 then add twice a else twice

/-- A point as 32 bytes, the least significant first: the second coordinate and the lowest bit of
the first. -/
def encode (a : Point) : Bytes :=
  let inv := inverse p a.z
  let x := a.x * inv % p
  let y := a.y * inv % p
  (Bytes.ofNat 32 (y + (x % 2) <<< 255)).reverse

/-- The public key of a seed of 32 bytes. -/
def publicKey (seed : Bytes) : Bytes :=
  let n := Bytes.toNat ((Sha512.digest seed).take 32).reverse
  let clamped := n % (1 <<< 254) / 8 * 8 + (1 <<< 254)
  encode (multiple base clamped 255)

end Switchboard.Crypto.Edwards
