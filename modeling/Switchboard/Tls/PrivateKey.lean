import Switchboard.Crypto.Curve
import Switchboard.Crypto.Edwards
import Switchboard.Encoding.Der
import Switchboard.Encoding.Pem

/-!
# Private keys

A private key is usable if it is an RSA key of 2048 to 4096 bits, a key on one of two elliptic
curves, or a key of the Edwards curve, and if its parts fit together. `publicKey?` gives the public
key that belongs to it, in the form in which a certificate holds its subject's key.
-/

namespace Switchboard.Tls.PrivateKey

open Crypto

/-- The name of RSA keys, with the empty parameters that go with it. -/
def rsaAlgorithm : Bytes :=
  Der.tagged Der.tagObject [0x2a, 0x86, 0x48, 0x86, 0xf7, 0x0d, 0x01, 0x01, 0x01] ++ [0x05, 0x00]

/-- The name of keys on elliptic curves. -/
def curveKeyName : Bytes := Der.tagged Der.tagObject [0x2a, 0x86, 0x48, 0xce, 0x3d, 0x02, 0x01]

/-- The curves in use with their names. -/
def curves : List (Curve × Bytes) :=
  [(Curve.p256, Der.tagged Der.tagObject [0x2a, 0x86, 0x48, 0xce, 0x3d, 0x03, 0x01, 0x07]),
   (Curve.p384, Der.tagged Der.tagObject [0x2b, 0x81, 0x04, 0x00, 0x22])]

/-- The name of keys of the Edwards curve. -/
def edwardsAlgorithm : Bytes := Der.tagged Der.tagObject [0x2b, 0x65, 0x70]

/-- A public key as a certificate holds it. -/
def subjectKey (algorithm key : Bytes) : Bytes :=
  Der.tagged Der.tagSequence algorithm ++ Der.bits key

/-! ### The wrapping that names the algorithm -/

/-- A key with the algorithm it belongs to, and its public key if that is given too. -/
structure Wrapped where
  /-- The name of the algorithm with its parameters. -/
  algorithm : Bytes
  /-- The private key in the algorithm's own form. -/
  key : Bytes
  /-- The public key, which only the second version of the wrapping can hold. -/
  publicKey : Option Bytes

/-- Unwraps a key. -/
def unwrap? (b : Bytes) : Option Wrapped := do
  let body ← Der.whole? Der.tagSequence b
  let (version, rest) ← Der.natural? body
  let (algorithm, rest) ← Der.tagged? Der.tagSequence rest
  let (key, rest) ← Der.tagged? Der.tagOctetString rest
  let (_, rest) ← Der.optional? (Der.tagField 0) rest
  match version with
  | 0 => if rest.isEmpty then return ⟨algorithm, key, none⟩ else none
  | 1 =>
    match Der.whole? (Der.tagField 1) rest, Der.whole? 0x81 rest with
    | some wrapped, _ => do
      let (publicKey, trailing) ← Der.bits? wrapped
      if trailing.isEmpty then return ⟨algorithm, key, some publicKey⟩ else none
    | none, some (0 :: publicKey) => return ⟨algorithm, key, some publicKey⟩
    | none, _ => none
  | _ => none

/-! ### The three kinds of keys -/

/-- The number of bits of a number. -/
def bitLength (n : Nat) : Nat := if n = 0 then 0 else n.log2 + 1

/-- Whether the parts of an RSA key fit together. -/
def rsaFits (n e d p q dp dq qInverse : Nat) : Bool :=
  let half := (bitLength n + 1) / 2
  decide (2041 ≤ bitLength n ∧ bitLength n ≤ 4096 ∧ n % 2 = 1) &&
  decide (65537 ≤ e ∧ e < 1 <<< 33 ∧ e % 2 = 1) &&
  decide (half < bitLength d ∧ d < n ∧ d % 2 = 1) &&
  decide (bitLength p = half ∧ bitLength q = half ∧ p % 2 = 1 ∧ q % 2 = 1 ∧ p * q = n) &&
  decide (dp < p ∧ dp % 2 = 1 ∧ dq < q ∧ dq % 2 = 1) &&
  decide (0 < qInverse ∧ qInverse < p ∧ q * qInverse % p = 1)

/-- The public key of an RSA key in its own form. -/
def rsa? (b : Bytes) : Option Bytes := do
  let body ← Der.whole? Der.tagSequence b
  let (version, rest) ← Der.natural? body
  let (n, rest) ← Der.natural? rest
  let (e, rest) ← Der.natural? rest
  let (d, rest) ← Der.natural? rest
  let (p, rest) ← Der.natural? rest
  let (q, rest) ← Der.natural? rest
  let (dp, rest) ← Der.natural? rest
  let (dq, rest) ← Der.natural? rest
  let (qInverse, rest) ← Der.natural? rest
  if version = 0 ∧ rest.isEmpty ∧ rsaFits n e d p q dp dq qInverse then
    return subjectKey rsaAlgorithm (Der.tagged Der.tagSequence (Der.natural n ++ Der.natural e))
  else none

/-- The public key of a key on a given curve in its own form. The public key must be given too. -/
def onCurve? (c : Curve × Bytes) (b : Bytes) : Option Bytes := do
  let body ← Der.whole? Der.tagSequence b
  let (version, rest) ← Der.natural? body
  let (privateKey, rest) ← Der.tagged? Der.tagOctetString rest
  let (name, rest) ← Der.optional? (Der.tagField 0) rest
  let wrapped ← Der.whole? (Der.tagField 1) rest
  let (publicKey, trailing) ← Der.bits? wrapped
  if version = 1 ∧ name.getD c.2 = c.2 ∧ trailing.isEmpty ∧ c.1.isKeyPair privateKey publicKey then
    return subjectKey (curveKeyName ++ c.2) publicKey
  else none

/-- The public key of a key on one of the curves, whose name is given if it is known. -/
def curve? (name : Option Bytes) (b : Bytes) : Option Bytes :=
  curves.findSome? fun c => if name.getD c.2 = c.2 then onCurve? c b else none

/-- The public key of a key of the Edwards curve; one that is given must be the same. -/
def edwards? (w : Wrapped) : Option Bytes := do
  let seed ← Der.whole? Der.tagOctetString w.key
  if seed.length ≠ 32 then none
  let publicKey := Edwards.publicKey seed
  if w.publicKey.getD publicKey = publicKey then return subjectKey edwardsAlgorithm publicKey
  else none

/-- The public key of a key whose wrapping names its algorithm. -/
def wrapped? (b : Bytes) : Option Bytes := do
  let w ← unwrap? b
  if w.algorithm = edwardsAlgorithm then edwards? w
  else if w.publicKey.isSome then none
  else if w.algorithm = rsaAlgorithm then rsa? w.key
  else if curveKeyName.isPrefixOf w.algorithm then
    curve? (some (w.algorithm.drop curveKeyName.length)) w.key
  else none

/-- The public key that belongs to a private key, if the key is usable. -/
def publicKey? (key : Pem.Section) : Option Bytes :=
  match key.kind with
  | .pkcs1Key => rsa? key.content
  | .sec1Key => curve? none key.content
  | .pkcs8Key => wrapped? key.content
  | _ => none

end Switchboard.Tls.PrivateKey
