import Switchboard.Bytes

/-!
# Elliptic curves in short form

The points of `y² = x³ - 3x + b` modulo a prime, with their addition, into which `b` does not enter.
Points are kept as three coordinates, `(X, Y, Z)` standing for `x = X / Z²` and `y = Y / Z³`, so
that no division is needed. The third coordinate of the point at infinity is 0.
-/

namespace Switchboard.Crypto

/-! ### Residues

Numbers below a modulus stand for its residues. -/

/-- `base ^ exponent` modulo `m`, by squaring; `fuel` is at least the number of bits of the
exponent. -/
def powerFrom (m : Nat) : Nat → Nat → Nat → Nat
  | 0, _, _ => 1 % m
  | fuel + 1, base, exponent =>
    if exponent = 0 then 1 % m
    else
      let half := powerFrom m fuel (base * base % m) (exponent / 2)
      if exponent % 2 = 1 then half * base % m else half

/-- `base ^ exponent` modulo `m`. -/
def power (m base exponent : Nat) : Nat := powerFrom m (exponent.log2 + 1) (base % m) exponent

/-- The inverse of a residue modulo a prime; the inverse of 0 is 0. -/
def inverse (p x : Nat) : Nat := power p x (p - 2)

/-- The difference of two residues. -/
def sub (m x y : Nat) : Nat := (x + (m - y % m)) % m

/-! ### Points -/

/-- A curve with a point that generates a group of prime order. -/
structure Curve where
  /-- The prime modulus. -/
  p : Nat
  /-- The generator's first coordinate. -/
  gx : Nat
  /-- The generator's second coordinate. -/
  gy : Nat
  /-- The order of the group. -/
  order : Nat
  /-- How many bytes a coordinate or a private number has. -/
  size : Nat

/-- A point in three coordinates. -/
structure CurvePoint where
  /-- The first coordinate times the square of `z`. -/
  x : Nat
  /-- The second coordinate times the cube of `z`. -/
  y : Nat
  /-- The common denominator; 0 for the point at infinity. -/
  z : Nat
  deriving DecidableEq, Repr

namespace Curve

/-- The curve over a prime of 256 bits. -/
def p256 : Curve where
  p := 0xffffffff00000001000000000000000000000000ffffffffffffffffffffffff
  gx := 0x6b17d1f2e12c4247f8bce6e563a440f277037d812deb33a0f4a13945d898c296
  gy := 0x4fe342e2fe1a7f9b8ee7eb4a7c0f9e162bce33576b315ececbb6406837bf51f5
  order := 0xffffffff00000000ffffffffffffffffbce6faada7179e84f3b9cac2fc632551
  size := 32

/-- The curve over a prime of 384 bits. -/
def p384 : Curve where
  p :=
  0xfffffffffffffffffffffffffffffffffffffffffffffffffffffffffffffffeffffffff0000000000000000ffffffff
  gx :=
  0xaa87ca22be8b05378eb1c71ef320ad746e1d3b628ba79b9859f741e082542a385502f25dbf55296c3a545e3872760ab7
  gy :=
  0x3617de4a96262c6f5d9e98bf9292dc29f8f41dbd289a147ce9da3113b5f0b8c00a60b1ce1d7e819d7a431d7c90ea0e5f
  order :=
  0xffffffffffffffffffffffffffffffffffffffffffffffffc7634d81f4372ddf581a0db248b0a77aecec196accc52973
  size := 48

/-- The point at infinity. -/
def infinity : CurvePoint := ⟨1, 1, 0⟩

/-- The generator. -/
def generator (c : Curve) : CurvePoint := ⟨c.gx, c.gy, 1⟩

/-- Twice a point. -/
def double (c : Curve) (a : CurvePoint) : CurvePoint :=
  let p := c.p
  let yy := a.y * a.y % p
  let s := 4 * a.x * yy % p
  let zz := a.z * a.z % p
  let m := 3 * (sub p a.x zz) * (a.x + zz) % p
  let x := sub p (m * m) (2 * s)
  ⟨x, sub p (m * sub p s x) (8 * yy * yy), 2 * a.y * a.z % p⟩

/-- The sum of two points. -/
def add (c : Curve) (a b : CurvePoint) : CurvePoint :=
  let p := c.p
  if a.z = 0 then b
  else if b.z = 0 then a
  else
    let az := a.z * a.z % p
    let bz := b.z * b.z % p
    let u := a.x * bz % p
    let h := sub p (b.x * az) u
    let s := a.y * bz * b.z % p
    let r := sub p (b.y * az * a.z) s
    if h = 0 then (if r = 0 then c.double a else infinity)
    else
      let hh := h * h % p
      let v := u * hh % p
      let x := sub p (r * r) (h * hh + 2 * v)
      ⟨x, sub p (r * sub p v x) (s * h * hh), h * a.z * b.z % p⟩

/-- A multiple of a point, from the most significant bit down; `bits` is the number of bits. -/
def multiple (c : Curve) (a : CurvePoint) (n : Nat) : Nat → CurvePoint
  | 0 => infinity
  | bits + 1 =>
    let twice := c.double (multiple c a (n / 2) bits)
    if n % 2 = 1 then c.add twice a else twice

/-- Whether a point in three coordinates has the given coordinates. -/
def isAt (c : Curve) (a : CurvePoint) (x y : Nat) : Bool :=
  a.z != 0 && x * a.z * a.z % c.p == a.x % c.p && y * a.z * a.z * a.z % c.p == a.y % c.p

/-- The point of a private number. -/
def publicPoint (c : Curve) (n : Nat) : CurvePoint := c.multiple c.generator n (8 * c.size)

/-- Whether a public key in uncompressed form belongs to a private key of the right length. -/
def isKeyPair (c : Curve) (privateKey publicKey : Bytes) : Bool :=
  let n := Bytes.toNat privateKey
  privateKey.length == c.size && decide (0 < n ∧ n < c.order) &&
  match publicKey with
  | 4 :: coordinates =>
    let x := Bytes.toNat (coordinates.take c.size)
    let y := Bytes.toNat (coordinates.drop c.size)
    coordinates.length == 2 * c.size && decide (x < c.p ∧ y < c.p) && c.isAt (c.publicPoint n) x y
  | _ => false

end Curve

end Switchboard.Crypto
